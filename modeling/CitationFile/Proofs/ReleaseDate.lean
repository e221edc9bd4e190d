import CitationFile.Loading
import CitationFile.Proofs.Renderings
import CitationFile.Proofs.Schema.Inversion
import Mathlib.Tactic.IntervalCases

/-! Release dates. The year of an accepted date is told and shown exactly if it is written in ASCII
digits; a year in the digits of another script passes the check, but has no value. -/

namespace CitationFile

open Text

namespace Calendar

/-- A day of the proleptic Gregorian calendar. -/
def IsDay (year month day : Nat) : Prop :=
  ∃ date : Std.Time.PlainDate,
    date.year.toInt = year ∧ date.month.val = month ∧ date.day.val = day

private theorem isLeap_eq_isLeapYear (year : Nat) :
    Std.Time.Year.Offset.isLeap (year : Int) = isLeapYear year := by
  have hfour : (year : Int).tmod 4 = (year % 4 : Nat) := (Int.ofNat_tmod year 4).symm
  have hhundred : (year : Int).tmod 100 = (year % 100 : Nat) := (Int.ofNat_tmod year 100).symm
  have hfourHundred : (year : Int).tmod 400 = (year % 400 : Nat) := (Int.ofNat_tmod year 400).symm
  rw [Bool.eq_iff_iff]
  simp only [Std.Time.Year.Offset.isLeap, Std.Time.Year.Offset.toInt, hfour, hhundred,
    hfourHundred, isLeapYear, Bool.or_eq_true, Bool.and_eq_true, decide_eq_true_eq]
  omega

/-- Both calendars give the months the same lengths. -/
theorem days_eq_daysInMonth (year : Nat) (month : Std.Time.Month.Ordinal) :
    (month.days (isLeapYear year)).val = daysInMonth year month.val.toNat := by
  obtain ⟨month, hlow, hhigh⟩ := month
  unfold daysInMonth
  interval_cases month <;> cases isLeapYear year <;> rfl

private theorem daysInMonth_le (year month : Nat) : daysInMonth year month ≤ 31 := by
  unfold daysInMonth
  split_ifs <;> omega

private theorem month_of_daysInMonth_pos {year month : Nat} (h : 0 < daysInMonth year month) :
    1 ≤ month ∧ month ≤ 12 := by
  unfold daysInMonth at h
  by_contra hout
  have hlong : month ∉ [1, 3, 5, 7, 8, 10, 12] := by
    simp only [List.mem_cons, List.not_mem_nil, or_false]
    omega
  have hshort : month ∉ [4, 6, 9, 11] := by
    simp only [List.mem_cons, List.not_mem_nil, or_false]
    omega
  have hsecond : month ≠ 2 := by omega
  simp [hlong, hshort, hsecond] at h

theorem isDay_iff {year month day : Nat} :
    IsDay year month day ↔ 1 ≤ day ∧ day ≤ daysInMonth year month := by
  constructor
  · rintro ⟨⟨_, month', day', hvalid⟩, rfl, hmonth, hday⟩
    dsimp only at hmonth hday
    have hbound : day'.val ≤ (month'.days (isLeapYear year)).val := by
      rw [← isLeap_eq_isLeapYear]
      exact hvalid
    rw [days_eq_daysInMonth, hmonth, hday, Int.toNat_natCast] at hbound
    have hpos := day'.property.1
    omega
  · rintro ⟨hpos, hbound⟩
    obtain ⟨hlow, hhigh⟩ := month_of_daysInMonth_pos (Nat.lt_of_lt_of_le hpos hbound)
    have hlast := daysInMonth_le year month
    let month' : Std.Time.Month.Ordinal := ⟨month, by omega, by omega⟩
    let day' : Std.Time.Day.Ordinal := ⟨day, by omega, by omega⟩
    have hvalid : day'.val ≤ (month'.days (Std.Time.Year.Offset.isLeap (year : Int))).val := by
      rw [isLeap_eq_isLeapYear, days_eq_daysInMonth]
      exact Int.ofNat_le.mpr hbound
    exact ⟨⟨(year : Int), month', day', hvalid⟩, rfl, rfl, rfl⟩

end Calendar

namespace Schema

/-- Four, two and two ASCII digits that write a day of the calendar, in the year told. -/
def IsDayOf (year : Nat) (text : List Char) : Prop :=
  ∃ yearDigits month day : List Char,
    yearDigits.length = 4 ∧ month.length = 2 ∧ day.length = 2 ∧
    (∀ c ∈ yearDigits ++ month ++ day, c.isDigit) ∧
    text = ['-'].intercalate [yearDigits, month, day] ∧
    digitsValue yearDigits = year ∧ Calendar.IsDay year (digitsValue month) (digitsValue day)

private theorem natural?_of_isDigit {digits : List Char} (hfilled : digits ≠ [])
    (h : ∀ c ∈ digits, c.isDigit) : natural? digits = some (digitsValue digits) :=
  natural?_eq_some_iff.mpr ⟨digits, hfilled, h, .inl rfl, rfl⟩

private theorem natural?_eq_none_of_not_isDigit {length : Nat} {digits : List Char}
    (h : IsDigits length digits) (hother : ¬ ∀ c ∈ digits, c.isDigit) : natural? digits = none := by
  cases hnumber : natural? digits with
  | none => rfl
  | some number =>
      obtain ⟨written, -, hwritten, rfl | rfl, -⟩ := natural?_eq_some_iff.mp hnumber
      · exact absurd hwritten hother
      · exact absurd (h.2 '+' (by simp)) (by decide)

theorem IsDigits.ne_nil {length : Nat} {digits : List Char} (h : IsDigits (length + 1) digits) :
    digits ≠ [] := by
  rintro rfl
  cases h.1

private theorem isDigit_of_numeralValue_pos {length : Nat} {digits : List Char}
    (h : IsDigits length digits) (hpos : 0 < numeralValue digits) : ∀ c ∈ digits, c.isDigit := by
  by_contra hother
  rw [numeralValue, natural?_eq_none_of_not_isDigit h hother] at hpos
  exact Nat.lt_irrefl 0 hpos

private theorem numeralValue_of_isDigit {digits : List Char} (hfilled : digits ≠ [])
    (h : ∀ c ∈ digits, c.isDigit) : numeralValue digits = digitsValue digits := by
  rw [numeralValue, natural?_of_isDigit hfilled h, Option.getD_some]

private theorem take_dateText {year month day : List Char} (h : year.length = 4) :
    (['-'].intercalate [year, month, day]).take 4 = year := by
  simp [← h]

theorem IsDayOf.take_isDigit {year : Nat} {text : List Char} (h : IsDayOf year text) :
    (text.take 4).all Char.isDigit := by
  obtain ⟨yearDigits, month, day, hlength, -, -, hdigits, rfl, -⟩ := h
  rw [take_dateText hlength, List.all_eq_true]
  exact fun c hc => hdigits c (by simp [hc])

/-- Of an accepted date only the year may be written in another script: month and day have values
that are not zero. -/
theorem IsCalendarDate.isDayOf {text : List Char} (h : IsCalendarDate text)
    (hyear : (text.take 4).all Char.isDigit) :
    IsDayOf (digitsValue (text.take 4)) text := by
  obtain ⟨year, month, day, hyearDigits, hmonthDigits, hdayDigits, rfl, hpos, hbound⟩ := h
  rw [take_dateText hyearDigits.1, List.all_eq_true] at hyear
  have hday := isDigit_of_numeralValue_pos hdayDigits hpos
  have hmonthPos := (Calendar.month_of_daysInMonth_pos (Nat.lt_of_lt_of_le hpos hbound)).1
  have hmonth := isDigit_of_numeralValue_pos hmonthDigits hmonthPos
  rw [numeralValue_of_isDigit hyearDigits.ne_nil hyear,
    numeralValue_of_isDigit hmonthDigits.ne_nil hmonth,
    numeralValue_of_isDigit hdayDigits.ne_nil hday] at hbound
  rw [numeralValue_of_isDigit hdayDigits.ne_nil hday] at hpos
  rw [take_dateText hyearDigits.1]
  refine ⟨year, month, day, hyearDigits.1, hmonthDigits.1, hdayDigits.1, ?_, rfl, rfl,
    Calendar.isDay_iff.mpr ⟨hpos, hbound⟩⟩
  simp only [List.mem_append]
  rintro c ((hc | hc) | hc)
  · exact hyear c hc
  · exact hmonth c hc
  · exact hday c hc

theorem isCalendarDate_of_document {root : Yaml.Value} {record : Record} {date : String}
    (h : (document root).value? = some record) (hdate : record.dateReleased = some date) :
    IsCalendarDate date.toList := by
  obtain ⟨entries, -, hfields⟩ := recordYields_of_document h
  have hcheck : Check.Reads Schema.date fun _ string => IsCalendarDate string.toList :=
    date_yields.reads.imp fun _ _ holds => holds.2
  exact hcheck.of_optional hfields.dateReleased hdate

end Schema

namespace Record

open Bibtex

theorem releaseYear?_eq {record : Record} {date : String}
    (hdate : record.dateReleased = some date) (hshape : Schema.IsCalendarDate date.toList) :
    record.releaseYear? =
      if (date.toList.take 4).all Char.isDigit then some (digitsValue (date.toList.take 4))
      else none := by
  obtain ⟨year, month, day, hyear, -, -, hdigits, -⟩ := hshape
  have htake : date.toList.take 4 = year := by rw [hdigits, Schema.take_dateText hyear.1]
  rw [releaseYear?, hdate, Option.bind_some]
  simp only [htake, hyear.1, ↓reduceIte]
  split
  · rename_i hascii
    exact Schema.natural?_of_isDigit hyear.ne_nil (List.all_eq_true.mp hascii)
  · rename_i hascii
    exact Schema.natural?_eq_none_of_not_isDigit hyear (hascii ∘ List.all_eq_true.mpr)

/-- The year wherever a rendering of the software has a place for one. -/
structure ShowsYear (record : Record) (year : Nat) : Prop where
  citeKey : year.repr.toList <:+: (Entry.ofRecord record).citeKey.toList
  field : (Entry.ofRecord record).get? "year" = some year.repr
  reference : ∀ authorLimit,
    (Apa.authorBlock record.authors authorLimit ++ " (" ++ year.repr ++ ").").toList <+:
      (record.render .apa authorLimit).toList

private theorem infix_citeKeyFor (author : Option Author) (year : Nat) (title : Option String) :
    year.repr.toList <:+: (citeKeyFor author (some year) title).toList := by
  have hchars : citeKeyChars author (some year) title = (author.map authorPart).getD [] ++
      year.repr.toList ++ (title.map titlePart).getD [] := rfl
  unfold citeKeyFor
  split
  · rename_i hnone
    rw [hchars, List.append_eq_nil_iff, List.append_eq_nil_iff] at hnone
    rw [hnone.1.2]
    exact List.nil_infix
  · rw [String.toList_ofList, hchars]
    exact ⟨_, _, rfl⟩

theorem showsYear_of_releaseYear? {record : Record} {year : Nat}
    (hyear : record.releaseYear? = some year) (hsoftware : record.preferredCitation = none) :
    record.ShowsYear year := by
  have hentry : Entry.ofRecord record = Entry.ofSoftware record := by
    rw [Entry.ofRecord, hsoftware]
  have hauthors : record.citedAuthors = record.authors := by
    rw [citedAuthors, hsoftware]
  have hfield : (Entry.ofRecord record).get? "year" = some year.repr := by
    obtain ⟨-, -, hshown, -⟩ := Entry.get?_ofSoftware record
    rw [hentry, hshown, hyear, Option.map_some]
  refine ⟨?_, hfield, ?_⟩
  · rw [hentry, Entry.citeKey_ofSoftware, hyear]
    exact infix_citeKeyFor _ year _
  · intro authorLimit
    have hmark : (Entry.ofRecord record).yearMark = "(" ++ year.repr ++ ")." := by
      rw [Entry.yearMark, hfield]
    rw [render_apa_eq, hauthors, hmark]
    refine ⟨(" " ++ record.citedWork ++ (Entry.ofRecord record).closingLink).toList, ?_⟩
    simp

end Record

namespace Validated

/-- The date of an accepted document is a day of the calendar whose year is told and shown exactly
if its year is written in ASCII digits. Otherwise the record has no year. -/
theorem release_year_iff {root : Yaml.Value} {validated : Validated} {date : String}
    (h : ofDocument root = .ok validated) (hdate : validated.record.dateReleased = some date) :
    ((∃ year, Schema.IsDayOf year date.toList ∧ validated.record.releaseYear? = some year ∧
        (validated.record.preferredCitation = none → validated.record.ShowsYear year)) ↔
      (date.toList.take 4).all Char.isDigit) ∧
    (validated.record.releaseYear?.isSome ↔ (date.toList.take 4).all Char.isDigit) := by
  have hshape := Schema.isCalendarDate_of_document (value?_of_ofChecked_eq_ok h) hdate
  have hyear := Record.releaseYear?_eq hdate hshape
  constructor
  · constructor
    · rintro ⟨year, hday, -⟩
      exact hday.take_isDigit
    · intro hascii
      rw [if_pos hascii] at hyear
      exact ⟨_, hshape.isDayOf hascii, hyear, Record.showsYear_of_releaseYear? hyear⟩
  · rw [hyear]
    split <;> simp_all

def datedDocument (date : String) : Yaml.Value :=
  .mapping [(.string "cff-version", .string "1.2.0"), (.string "message", .string "m"),
    (.string "title", .string "t"),
    (.string "authors", .sequence [.mapping [(.string "name", .string "X")]]),
    (.string "date-released", .string date)]

def datedRecord (date : String) : Record where
  cffVersion := "1.2.0"
  message := "m"
  authors := [.entity { name := "X" }]
  title := "t"
  version := none
  dateReleased := some date
  abstract := none
  url := none
  repositoryCode := none
  license := none
  licenseUrl := none
  keywords := []
  identifiers := []
  preferredCitation := none

theorem leapDay_release_year :
    ofDocument (datedDocument "2024-02-29") = .ok ⟨datedRecord "2024-02-29", []⟩ ∧
      (datedRecord "2024-02-29").dateReleased = some "2024-02-29" ∧
      ∃ year, Schema.IsDayOf year "2024-02-29".toList ∧
        (datedRecord "2024-02-29").releaseYear? = some year ∧
        (datedRecord "2024-02-29").ShowsYear year := by
  have haccepted : ofDocument (datedDocument "2024-02-29") =
      .ok ⟨datedRecord "2024-02-29", []⟩ := by
    decide +kernel
  obtain ⟨year, hday, hyear, hshown⟩ := (release_year_iff haccepted rfl).1.mpr (by decide)
  exact ⟨haccepted, rfl, year, hday, hyear, hshown rfl⟩

/-- The year is 2023, which has no such day, in Arabic digits. -/
def foreignDateText : String :=
  "cff-version: 1.2.0\nmessage: m\ntitle: t\nauthors:\n  - name: X\n" ++
    "date-released: \"٢٠٢٣-02-29\"\n"

theorem foreignDateText_not_isDayOf :
    (∃ validated, Loader.loadText {} foreignDateText = .ok validated ∧
      validated.record.dateReleased = some "٢٠٢٣-02-29" ∧
      validated.record.releaseYear? = none) ∧
    (∀ year, ¬ Schema.IsDayOf year "٢٠٢٣-02-29".toList) ∧ ¬ Calendar.IsDay 2023 2 29 := by
  refine ⟨⟨⟨datedRecord "٢٠٢٣-02-29", []⟩, by decide +kernel, rfl, by decide⟩, ?_, ?_⟩
  · intro year hday
    exact absurd hday.take_isDigit (by decide)
  · rw [Calendar.isDay_iff]
    decide

end Validated

end CitationFile
