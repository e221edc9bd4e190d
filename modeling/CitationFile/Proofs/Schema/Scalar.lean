import CitationFile.Proofs.Schema.Field
import CitationFile.Schema.Citation

namespace CitationFile

theorem IdentifierType.ofName?_eq_some_iff {string : String} {type : IdentifierType} :
    ofName? string = some type ↔ string = type.name := by
  constructor
  · intro h
    simpa [eq_comm] using List.find?_some h
  · rintro rfl
    exact ofName?_name type

theorem CitationType.ofName?_eq_some_iff {string : String} {type : CitationType} :
    ofName? string = some type ↔ string = type.name := by
  constructor
  · intro h
    simpa [eq_comm] using List.find?_some h
  · rintro rfl
    exact ofName?_name type

namespace Schema

open Calendar Yaml Text

/-- Decimal digits of any script, in a fixed number. -/
def IsDigits (length : Nat) (digits : List Char) : Prop :=
  digits.length = length ∧ ∀ c ∈ digits, isDecimalDigit c

theorem hasShape_iff {length : Nat} {digits : List Char} :
    hasShape length digits ↔ IsDigits length digits := by
  simp [hasShape, IsDigits]

private theorem IsDigits.not_mem {length : Nat} {digits : List Char} (h : IsDigits length digits)
    {mark : Char} (hmark : isDecimalDigit mark = false) : mark ∉ digits := by
  intro hmem
  simpa [hmark] using h.2 mark hmem

theorem IsNumeral.not_mem {digits : List Char} (h : IsNumeral digits)
    {mark : Char} (hmark : isDecimalDigit mark = false) : mark ∉ digits := by
  intro hmem
  simpa [hmark] using List.all_eq_true.mp h.2 mark hmem

private theorem eq_intercalate_of_splitOn {mark : Char} {text : List Char}
    {pieces : List (List Char)}
    (h : text.splitOn mark = pieces) : text = [mark].intercalate pieces := by
  rw [← h, List.intercalate_splitOn]

/-- Three numerals parted by dots, of which the first is told. -/
def IsVersionOf (major text : List Char) : Prop :=
  ∃ minor patch, IsNumeral major ∧ IsNumeral minor ∧ IsNumeral patch ∧
    text = ['.'].intercalate [major, minor, patch]

def IsVersion (text : List Char) : Prop :=
  ∃ major, IsVersionOf major text

theorem majorVersion?_eq_some_iff {major text : List Char} :
    majorVersion? text = some major ↔ IsVersionOf major text := by
  constructor
  · intro h
    unfold majorVersion? at h
    split at h
    · rename_i first minor patch hpieces
      split at h
      · rename_i hnumerals
        cases h
        obtain ⟨hmajor, hminor, hpatch⟩ := hnumerals
        exact ⟨minor, patch, hmajor, hminor, hpatch, eq_intercalate_of_splitOn hpieces⟩
      · simp at h
    · simp at h
  · rintro ⟨minor, patch, hmajor, hminor, hpatch, rfl⟩
    have hdot : isDecimalDigit '.' = false := by decide
    have hpieces : (['.'].intercalate [major, minor, patch]).splitOn '.' =
        [major, minor, patch] :=
      List.splitOn_intercalate '.'
        (by simp [hmajor.not_mem hdot, hminor.not_mem hdot, hpatch.not_mem hdot]) (by simp)
    unfold majorVersion?
    rw [hpieces]
    simp only [hmajor, hminor, hpatch, and_self, ↓reduceIte]

/-- A day of the calendar, written with four, two and two digits. -/
def IsCalendarDate (text : List Char) : Prop :=
  ∃ year month day, IsDigits 4 year ∧ IsDigits 2 month ∧ IsDigits 2 day ∧
    text = ['-'].intercalate [year, month, day] ∧
    1 ≤ numeralValue day ∧
    numeralValue day ≤ daysInMonth (numeralValue year) (numeralValue month)

theorem isDate_iff {text : List Char} : isDate text ↔ IsCalendarDate text := by
  constructor
  · intro h
    unfold isDate at h
    split at h
    · rename_i year month day hpieces
      simp only [Bool.and_eq_true, hasShape_iff, decide_eq_true_eq] at h
      obtain ⟨⟨⟨⟨hyear, hmonth⟩, hday⟩, hpositive⟩, hbound⟩ := h
      exact ⟨year, month, day, hyear, hmonth, hday, eq_intercalate_of_splitOn hpieces,
        hpositive, hbound⟩
    · simp at h
  · rintro ⟨year, month, day, hyear, hmonth, hday, rfl, hpositive, hbound⟩
    have hhyphen : isDecimalDigit '-' = false := by decide
    have hpieces : (['-'].intercalate [year, month, day]).splitOn '-' = [year, month, day] :=
      List.splitOn_intercalate '-'
        (by simp [hyear.not_mem hhyphen, hmonth.not_mem hhyphen, hday.not_mem hhyphen]) (by simp)
    unfold isDate
    rw [hpieces]
    simp only [Bool.and_eq_true, hasShape_iff, decide_eq_true_eq]
    exact ⟨⟨⟨⟨hyear, hmonth⟩, hday⟩, hpositive⟩, hbound⟩

def IsUrl (string : String) : Prop :=
  ∃ url, Url.parse string = .ok url

/-- Four groups of four digits behind a slash; the last digit may be an `X`. -/
def IsOrcidPath (path : List Char) : Prop :=
  ∃ first second third fourth last,
    IsDigits 4 first ∧ IsDigits 4 second ∧ IsDigits 4 third ∧ IsDigits 3 fourth ∧
    (isDecimalDigit last ∨ last = 'X') ∧
    path = '/' :: ['-'].intercalate [first, second, third, fourth ++ [last]]

def IsOrcid (string : String) : Prop :=
  ∃ url, Url.parse string = .ok url ∧ url.scheme = "https".toList ∧
    url.host = some (.domain "orcid.org".toList) ∧ IsOrcidPath url.webPath

private theorem lastGroup_iff {group : List Char} :
    (group.length = 4 ∧ (group.take 3).all isDecimalDigit ∧
      (group.drop 3).all fun c => isDecimalDigit c || c = 'X') ↔
    ∃ digits last, IsDigits 3 digits ∧ (isDecimalDigit last ∨ last = 'X') ∧
      group = digits ++ [last] := by
  constructor
  · rintro ⟨hlength, hdigits, hlast⟩
    obtain ⟨last, hdrop⟩ := List.length_eq_one_iff.mp
      (show (group.drop 3).length = 1 by simp [hlength])
    refine ⟨group.take 3, last, ⟨by simp [hlength], by simpa using hdigits⟩, ?_, ?_⟩
    · simpa [hdrop] using hlast
    · rw [← hdrop, List.take_append_drop]
  · rintro ⟨digits, last, ⟨hlength, hdigits⟩, hlast, rfl⟩
    refine ⟨by simp [hlength], ?_, ?_⟩
    · simpa [← hlength] using hdigits
    · simpa [← hlength] using hlast

theorem isOrcidPath_iff {path : List Char} : isOrcidPath path ↔ IsOrcidPath path := by
  have hhyphen : isDecimalDigit '-' = false := by decide
  constructor
  · intro h
    unfold isOrcidPath at h
    split at h
    · split at h
      · rename_i groups first second third fourth hpieces
        simp only [Bool.and_eq_true, hasShape_iff, decide_eq_true_eq, and_assoc] at h
        obtain ⟨hfirst, hsecond, hthird, hgroup⟩ := h
        obtain ⟨digits, last, hdigits, hlast, rfl⟩ := lastGroup_iff.mp hgroup
        exact ⟨first, second, third, digits, last, hfirst, hsecond, hthird, hdigits, hlast,
          congrArg _ (eq_intercalate_of_splitOn hpieces)⟩
      · simp at h
    · simp at h
  · rintro ⟨first, second, third, digits, last, hfirst, hsecond, hthird, hdigits, hlast, rfl⟩
    have hfourth : '-' ∉ digits ++ [last] := by
      intro hmem
      rcases List.mem_append.mp hmem with hmem | hmem
      · exact hdigits.not_mem hhyphen hmem
      · cases List.mem_singleton.mp hmem
        simp [hhyphen] at hlast
    have hpieces : (['-'].intercalate [first, second, third, digits ++ [last]]).splitOn '-' =
        [first, second, third, digits ++ [last]] :=
      List.splitOn_intercalate '-'
        (by simpa [hfirst.not_mem hhyphen, hsecond.not_mem hhyphen, hthird.not_mem hhyphen]
          using hfourth) (by simp)
    unfold isOrcidPath
    simp only [hpieces, Bool.and_eq_true, hasShape_iff, decide_eq_true_eq, and_assoc]
    exact ⟨hfirst, hsecond, hthird, lastGroup_iff.mpr ⟨digits, last, hdigits, hlast, rfl⟩⟩

theorem isOrcid_iff {string : String} : isOrcid string ↔ IsOrcid string := by
  unfold isOrcid IsOrcid
  cases Url.parse string with
  | error cause => simp
  | ok url =>
      simp only [Bool.and_eq_true, decide_eq_true_eq, isOrcidPath_iff, Except.ok.injEq,
        exists_eq_left', and_assoc]

/-- One or more ASCII digits, with or without a plus sign, and the number that they write. -/
def Spells (text : List Char) (number : Nat) : Prop :=
  ∃ digits, digits ≠ [] ∧ (∀ c ∈ digits, c.isDigit) ∧
    (text = digits ∨ text = '+' :: digits) ∧ digitsValue digits = number

private theorem natural?_unsigned {text : List Char} (h : ∀ rest, text ≠ '+' :: rest) :
    natural? text =
      if text ≠ [] ∧ text.all Char.isDigit then some (digitsValue text) else none := by
  simp [natural?]

private theorem natural?_signed (digits : List Char) :
    natural? ('+' :: digits) =
      if digits ≠ [] ∧ digits.all Char.isDigit then some (digitsValue digits) else none := rfl

theorem natural?_eq_some_iff {text : List Char} {number : Nat} :
    natural? text = some number ↔ Spells text number := by
  by_cases hsign : ∃ rest, text = '+' :: rest
  · obtain ⟨rest, rfl⟩ := hsign
    rw [natural?_signed, Option.ite_none_right_eq_some, Option.some.injEq, List.all_eq_true]
    constructor
    · rintro ⟨⟨hnonempty, hdigits⟩, hvalue⟩
      exact ⟨rest, hnonempty, hdigits, .inr rfl, hvalue⟩
    · rintro ⟨digits, hnonempty, hdigits, hunsigned | hsigned, hvalue⟩
      · subst digits
        simpa using hdigits '+' (by simp)
      · cases hsigned
        exact ⟨⟨hnonempty, hdigits⟩, hvalue⟩
  · rw [natural?_unsigned (fun rest heq => hsign ⟨rest, heq⟩), Option.ite_none_right_eq_some,
      Option.some.injEq, List.all_eq_true]
    constructor
    · rintro ⟨⟨hnonempty, hdigits⟩, hvalue⟩
      exact ⟨text, hnonempty, hdigits, .inl rfl, hvalue⟩
    · rintro ⟨digits, hnonempty, hdigits, hunsigned | hsigned, hvalue⟩
      · subst digits
        exact ⟨⟨hnonempty, hdigits⟩, hvalue⟩
      · exact absurd ⟨digits, hsigned⟩ hsign

/-- An untagged integer, or an untagged string that spells one between blanks. -/
inductive Denotes : Value → Nat → Prop
  | integer (number : Nat) : Denotes (.number (.integer number)) number
  | text {string : String} {number : Nat} (hspelled : Spells (trim string.toList) number) :
      Denotes (.string string) number

/-- A string, looked for through tags, that is not blank. -/
def HoldsText (value : Value) (string : String) : Prop :=
  value.string? = some string ∧ ¬ IsBlank string.toList

/-- A number in its canonical text, or a string that is not blank. -/
inductive Shows : Value → String → Prop
  | number (number : Number) : Shows (.number number) number.text
  | text {value : Value} {string : String} (hsaid : HoldsText value string) : Shows value string

theorem text_yields : Check.Yields text HoldsText := by
  intro path value result
  unfold text HoldsText
  cases value.string? with
  | none => simp
  | some string =>
      by_cases hblank : IsBlank string.toList
      · simp only [hblank, ↓reduceIte, Checked.value?_reject, Option.some.injEq]
        constructor
        · simp
        · rintro ⟨rfl, hfilled⟩
          exact absurd hblank hfilled
      · simp only [hblank, ↓reduceIte, Checked.value?_accept, Option.some.injEq]
        constructor
        · rintro rfl
          exact ⟨rfl, hblank⟩
        · exact fun h => h.1

theorem text_andThen_eq_some_iff {path : Path} {value : Value} {next : String → Checked α}
    {result : α} :
    ((text path value).andThen next).value? = some result ↔
      ∃ string, HoldsText value string ∧ (next string).value? = some result := by
  rw [Checked.value?_andThen, Option.bind_eq_some_iff]
  exact exists_congr fun string => and_congr_left' (text_yields path value string)

def HoldsTextSuch (condition : String → Prop) (value : Value) (string : String) : Prop :=
  HoldsText value string ∧ condition string

private theorem text_andThen_yields {next : Path → String → Checked String}
    {condition : String → Prop} (hnext : ∀ path string result,
      (next path string).value? = some result ↔ condition string ∧ string = result) :
    Check.Yields (fun path value => (text path value).andThen (next path))
      (HoldsTextSuch condition) := by
  intro path value result
  simp only [text_andThen_eq_some_iff, hnext, HoldsTextSuch]
  constructor
  · rintro ⟨string, htext, hcondition, rfl⟩
    exact ⟨htext, hcondition⟩
  · rintro ⟨htext, hcondition⟩
    exact ⟨result, htext, hcondition, rfl⟩

private theorem textOrNumber_eq_text {path : Path} {value : Value}
    (h : ∀ number, value ≠ .number number) : textOrNumber path value = text path value := by
  unfold textOrNumber
  split
  · exact absurd rfl (h _)
  · rfl

theorem textOrNumber_yields : Check.Yields textOrNumber Shows := by
  intro path value result
  by_cases hnumber : ∃ number, value = .number number
  · obtain ⟨number, rfl⟩ := hnumber
    simp only [textOrNumber, Checked.value?_accept, Option.some.injEq]
    constructor
    · rintro rfl
      exact .number number
    · rintro (_ | ⟨hstring, -⟩)
      · rfl
      · simp [Value.string?, Value.untagged] at hstring
  · rw [textOrNumber_eq_text (fun number heq => hnumber ⟨number, heq⟩), text_yields path]
    refine ⟨Shows.text, ?_⟩
    rintro (number | htext)
    · exact absurd ⟨number, rfl⟩ hnumber
    · exact htext

theorem version_yields : Check.Yields version (HoldsTextSuch (IsVersion ·.toList)) := by
  apply text_andThen_yields
  intro path string result
  simp only [IsVersion, ← majorVersion?_eq_some_iff]
  cases majorVersion? string.toList <;> simp

theorem date_yields : Check.Yields date (HoldsTextSuch (IsCalendarDate ·.toList)) := by
  apply text_andThen_yields
  intro path string result
  rw [← isDate_iff]
  cases isDate string.toList <;> simp

theorem checkUrl_eq_some_iff {path : Path} {string result : String} :
    (checkUrl path string).value? = some result ↔ IsUrl string ∧ string = result := by
  unfold checkUrl IsUrl
  cases Url.parse string <;> simp

theorem url_yields : Check.Yields url (HoldsTextSuch IsUrl) :=
  text_andThen_yields fun _ _ _ => checkUrl_eq_some_iff

theorem orcid_yields : Check.Yields orcid (HoldsTextSuch IsOrcid) := by
  apply text_andThen_yields
  intro path string result
  rw [← isOrcid_iff]
  cases isOrcid string <;> simp

theorem checkDoi_eq_some_iff {path : Path} {string result : String} :
    (checkDoi path string).value? = some result ↔ string = result := by
  simp [checkDoi]

theorem doi_yields : Check.Yields doi HoldsText := by
  intro path value result
  unfold doi
  simp only [text_andThen_eq_some_iff, checkDoi_eq_some_iff, exists_eq_right]

theorem keyword_yields : Check.Yields keyword fun value string => value.string? = some string := by
  intro path value result
  unfold keyword
  cases hstring : value.string? <;> simp [hstring]

private theorem text_andThen_name_yields {ofName? : String → Option α} {name : α → String}
    {next : Path → String → Checked α}
    (hname : ∀ string member, ofName? string = some member ↔ string = name member)
    (hfilled : ∀ member, ¬ IsBlank (name member).toList)
    (hnext : ∀ path string, (next path string).value? = ofName? string) :
    Check.Yields (fun path value => (text path value).andThen (next path))
      fun value member => value.string? = some (name member) := by
  intro path value member
  simp only [text_andThen_eq_some_iff, hnext, hname]
  constructor
  · rintro ⟨string, ⟨hstring, -⟩, rfl⟩
    exact hstring
  · intro hstring
    exact ⟨name member, ⟨hstring, hfilled member⟩, rfl⟩

theorem identifierType_yields :
    Check.Yields identifierType fun value type => value.string? = some type.name := by
  apply text_andThen_name_yields fun _ _ => IdentifierType.ofName?_eq_some_iff
  · intro type
    cases type <;> decide
  · intro path string
    cases IdentifierType.ofName? string <;> rfl

theorem citationType_yields :
    Check.Yields citationType fun value type => value.string? = some type.name := by
  apply text_andThen_name_yields fun _ _ => CitationType.ofName?_eq_some_iff
  · intro type
    cases type <;> decide
  · intro path string
    cases CitationType.ofName? string <;> rfl

theorem denotes_integer_iff {integer : Int} {number : Nat} :
    Denotes (.number (.integer integer)) number ↔ integer = number := by
  constructor
  · rintro ⟨⟩
    rfl
  · rintro rfl
    exact .integer number

theorem denotes_string_iff {string : String} {number : Nat} :
    Denotes (.string string) number ↔ Spells (trim string.toList) number := by
  constructor
  · rintro ⟨⟩
    assumption
  · exact .text

def DenotesSuch (condition : Nat → Prop) (value : Value) (number : Nat) : Prop :=
  Denotes value number ∧ condition number

private theorem value?_natural_integer (path : Path) (integer : Int) (result : Nat) :
    (natural path (.number (.integer integer))).value? = some result ↔
      integer = result ∧ result < numberBound := by
  by_cases hnegative : integer < 0
  · simp only [natural, hnegative, ↓reduceIte, Checked.value?_reject, reduceCtorEq, false_iff]
    omega
  · by_cases hbound : integer.toNat < numberBound
    · simp only [natural, hnegative, hbound, ↓reduceIte, Checked.value?_accept, Option.some.injEq]
      omega
    · simp only [natural, hnegative, hbound, ↓reduceIte, Checked.value?_reject, reduceCtorEq,
        false_iff]
      omega

private theorem value?_natural_string (path : Path) (string : String) (result : Nat) :
    (natural path (.string string)).value? = some result ↔
      natural? (trim string.toList) = some result ∧ result < numberBound := by
  simp only [natural, naturalBelow?]
  cases natural? (trim string.toList) with
  | none => simp
  | some number =>
      by_cases hbound : number < numberBound
      · simp only [Option.filter_some, hbound, decide_true, ↓reduceIte, Checked.value?_accept,
          Option.some.injEq]
        constructor
        · rintro rfl
          exact ⟨rfl, hbound⟩
        · exact fun h => h.1
      · simp only [Option.filter_some, hbound, decide_false, Bool.false_eq_true, ↓reduceIte,
          Checked.value?_reject, reduceCtorEq, Option.some.injEq, false_iff]
        rintro ⟨rfl, hresult⟩
        exact hbound hresult

theorem natural_yields : Check.Yields natural (DenotesSuch (· < numberBound)) := by
  intro path value result
  unfold DenotesSuch
  cases value with
  | number number =>
      cases number with
      | integer integer => rw [denotes_integer_iff, value?_natural_integer]
      | float float =>
          refine ⟨nofun, ?_⟩
          rintro ⟨⟨⟩, -⟩
  | string string => rw [denotes_string_iff, ← natural?_eq_some_iff, value?_natural_string]
  | null | bool _ | sequence _ | mapping _ | tagged _ _ =>
      refine ⟨nofun, ?_⟩
      rintro ⟨⟨⟩, -⟩

private theorem natural_andThen_yields {next : Path → Nat → Checked Nat} {condition : Nat → Prop}
    (hnext : ∀ path number result,
      (next path number).value? = some result ↔ condition number ∧ number = result) :
    Check.Yields (fun path value => (natural path value).andThen (next path))
      (DenotesSuch fun number => number < numberBound ∧ condition number) := by
  intro path value result
  rw [Checked.value?_andThen, Option.bind_eq_some_iff]
  simp only [natural_yields path value, hnext, DenotesSuch]
  constructor
  · rintro ⟨number, ⟨hdenotes, hbound⟩, hcondition, rfl⟩
    exact ⟨hdenotes, hbound, hcondition⟩
  · rintro ⟨hdenotes, hbound, hcondition⟩
    exact ⟨result, ⟨hdenotes, hbound⟩, hcondition, rfl⟩

theorem positive_yields :
    Check.Yields positive (DenotesSuch fun number => number < numberBound ∧ number ≠ 0) := by
  apply natural_andThen_yields
  intro path number result
  by_cases hzero : number = 0
  · simp [hzero]
  · simp [hzero]

theorem month_yields :
    Check.Yields month
      (DenotesSuch fun number => number < numberBound ∧ 1 ≤ number ∧ number ≤ 12) := by
  apply natural_andThen_yields
  intro path number result
  by_cases hmonth : 1 ≤ number ∧ number ≤ 12
  · simp [hmonth]
  · simp [hmonth]

end Schema

end CitationFile
