import CitationFile.Proofs.Renderings
import Mathlib.Data.List.Infix

/-! Page ranges, which an entry writes with two hyphens and a reference with one. Pages that are a
range already stay as they are, a reference does not tell a range from the pages it was made of, and
so both renderings of a record show the pages that stand in its entry. -/

namespace CitationFile

namespace Bibtex

theorem hasDoubleHyphen_iff {text : List Char} :
    hasDoubleHyphen text ↔ ['-', '-'] <:+: text := by
  fun_induction hasDoubleHyphen text with
  | case1 rest => exact ⟨fun _ => ⟨[], rest, rfl⟩, fun _ => rfl⟩
  | case2 c rest hpair ih =>
      rw [ih, List.infix_cons_iff, or_iff_right]
      rintro ⟨behind, heq⟩
      obtain ⟨hc, hrest⟩ := List.cons.inj heq
      exact hpair behind hc.symm hrest.symm
  | case3 => simp

private theorem doubleFirstHyphen_of_notMem {text : List Char} (h : '-' ∉ text) :
    doubleFirstHyphen text = text := by
  induction text with
  | nil => rfl
  | cons c rest ih =>
      rw [List.mem_cons, not_or] at h
      rw [doubleFirstHyphen, if_neg (Ne.symm h.1), ih h.2]

theorem doubleFirstHyphen_append {opening : List Char} (h : '-' ∉ opening) (rest : List Char) :
    doubleFirstHyphen (opening ++ '-' :: rest) = opening ++ '-' :: '-' :: rest := by
  induction opening with
  | nil => rfl
  | cons c opening ih =>
      rw [List.mem_cons, not_or] at h
      rw [List.cons_append, doubleFirstHyphen, if_neg (Ne.symm h.1), ih h.2]
      rfl

/-- Pages that need no other hyphen: they have none, or two of them in a row. -/
def IsRanged (pages : List Char) : Prop :=
  '-' ∉ pages ∨ ['-', '-'] <:+: pages

/-- The pages as an entry writes them: the only change is to a first hyphen where no two stand in a
row. -/
inductive RangeOf : List Char → List Char → Prop
  | kept {pages : List Char} (hranged : IsRanged pages) : RangeOf pages pages
  | doubled {opening rest : List Char} (hfirst : '-' ∉ opening)
      (hsingle : ¬ ['-', '-'] <:+: opening ++ '-' :: rest) :
      RangeOf (opening ++ '-' :: rest) (opening ++ '-' :: '-' :: rest)

theorem pageRange_eq_self {pages : String} (h : IsRanged pages.toList) :
    pageRange pages = pages := by
  rw [pageRange]
  split
  · rfl
  · rename_i hsingle
    rw [hasDoubleHyphen_iff] at hsingle
    rw [doubleFirstHyphen_of_notMem (h.resolve_right hsingle), String.ofList_toList]

private theorem rangeOf_pageRange (pages : String) :
    RangeOf pages.toList (pageRange pages).toList := by
  by_cases hranged : IsRanged pages.toList
  · rw [pageRange_eq_self hranged]
    exact .kept hranged
  · obtain ⟨hmem, hsingle⟩ := not_or.mp hranged
    obtain ⟨opening, rest, hpages, hfirst⟩ :=
      List.eq_append_cons_of_mem (Classical.not_not.mp hmem)
    rw [pageRange, if_neg (hasDoubleHyphen_iff.not.mpr hsingle), String.toList_ofList, hpages,
      doubleFirstHyphen_append hfirst]
    exact .doubled hfirst (hpages ▸ hsingle)

private theorem RangeOf.isRanged {pages range : List Char} (h : RangeOf pages range) :
    IsRanged range := by
  cases h with
  | kept hranged => exact hranged
  | @doubled opening rest _ _ => exact .inr ⟨opening, rest, by simp⟩

theorem pageRange_pageRange (pages : String) : pageRange (pageRange pages) = pageRange pages :=
  pageRange_eq_self (rangeOf_pageRange pages).isRanged

end Bibtex

namespace Apa

open Bibtex

theorem singleHyphens_append {opening : List Char} (h : '-' ∉ opening) (rest : List Char) :
    singleHyphens (opening ++ rest) = opening ++ singleHyphens rest := by
  induction opening with
  | nil => rfl
  | cons c opening ih =>
      rw [List.mem_cons, not_or] at h
      rw [List.cons_append, singleHyphens, ih h.2, List.cons_append]
      rintro _ rfl
      exact absurd rfl h.1

theorem singleHyphens_cons {rest : List Char} (h : ¬ ['-', '-'] <+: '-' :: rest) :
    singleHyphens ('-' :: rest) = '-' :: singleHyphens rest := by
  rw [singleHyphens]
  rintro behind - rfl
  exact h ⟨behind, rfl⟩

private theorem singleHyphens_of_rangeOf {pages range : List Char} (h : RangeOf pages range) :
    singleHyphens range = singleHyphens pages := by
  cases h with
  | kept _ => rfl
  | @doubled opening rest hfirst hsingle =>
      have hlone : ¬ ['-', '-'] <+: '-' :: rest := by
        intro hpair
        exact hsingle (List.infix_append_of_infix_right hpair.isInfix)
      calc singleHyphens (opening ++ '-' :: '-' :: rest)
          = opening ++ '-' :: singleHyphens rest := singleHyphens_append hfirst _
        _ = opening ++ singleHyphens ('-' :: rest) := by rw [singleHyphens_cons hlone]
        _ = singleHyphens (opening ++ '-' :: rest) := (singleHyphens_append hfirst _).symm

theorem singleHyphens_pageRange (pages : String) :
    singleHyphens (pageRange pages).toList = singleHyphens pages.toList :=
  singleHyphens_of_rangeOf (rangeOf_pageRange pages)

/-- Of two ranges only the first one gets its second hyphen. -/
example : pageRange "7-9, 12-20" = "7--9, 12-20" ∧
    singleHyphens "7--9, 12-20".toList = "7-9, 12-20".toList := by decide +kernel

private theorem pageSpan_map_pageRange (pages : Option String) :
    pageSpan (pages.map pageRange) = pageSpan pages := by
  cases pages with
  | none => rfl
  | some pages => rw [Option.map_some, pageSpan, pageSpan, singleHyphens_pageRange]

end Apa

namespace PreferredCitation

open Bibtex

def withEntryPages (citation : PreferredCitation) : PreferredCitation :=
  { citation with pages := (Entry.ofCitation citation).get? "pages" }

private theorem withEntryPages_eq (citation : PreferredCitation) :
    citation.withEntryPages = { citation with pages := citation.pages.map pageRange } := by
  obtain ⟨-, hpages, -⟩ := Entry.get?_ofCitation citation
  rw [withEntryPages, hpages]

private theorem ofCitation_withEntryPages (citation : PreferredCitation) :
    Entry.ofCitation citation.withEntryPages = Entry.ofCitation citation := by
  have hrange : (citation.pages.map pageRange).map pageRange = citation.pages.map pageRange := by
    rw [Option.map_map]
    exact Option.map_congr fun pages _ => pageRange_pageRange pages
  simp only [withEntryPages_eq, Entry.ofCitation, hrange]

private theorem source?_withEntryPages (citation : PreferredCitation) :
    Apa.source? citation.withEntryPages = Apa.source? citation := by
  simp only [withEntryPages_eq, Apa.source?, Apa.pageSpan_map_pageRange]

private theorem citationReference_withEntryPages (citation : PreferredCitation)
    (authorLimit : Nat) :
    Apa.citationReference citation.withEntryPages authorLimit =
      Apa.citationReference citation authorLimit := by
  rw [Apa.citationReference, source?_withEntryPages]
  rfl

end PreferredCitation

namespace Record

open Bibtex

/-- Software itself is cited without pages. -/
def citedPages? (record : Record) : Option String :=
  record.preferredCitation.bind (·.pages)

def withEntryPages (record : Record) : Record :=
  { record with preferredCitation := record.preferredCitation.map (·.withEntryPages) }

theorem get?_pages_ofRecord (record : Record) :
    (Entry.ofRecord record).get? "pages" = record.citedPages?.map pageRange := by
  unfold Entry.ofRecord citedPages?
  cases record.preferredCitation with
  | some citation => exact (Entry.get?_ofCitation citation).2.1
  | none => exact (Entry.get?_ofSoftware record).2.1

private theorem ofRecord_withEntryPages (record : Record) :
    Entry.ofRecord record.withEntryPages = Entry.ofRecord record := by
  unfold Entry.ofRecord withEntryPages
  cases record.preferredCitation with
  | some citation => exact citation.ofCitation_withEntryPages
  | none => rfl

private theorem reference_withEntryPages (record : Record) (authorLimit : Nat) :
    Apa.reference record.withEntryPages authorLimit = Apa.reference record authorLimit := by
  unfold Apa.reference withEntryPages
  cases record.preferredCitation with
  | some citation => exact citation.citationReference_withEntryPages authorLimit
  | none => rfl

theorem render_withEntryPages (record : Record) (format : Format) (authorLimit : Nat) :
    record.withEntryPages.render format authorLimit = record.render format authorLimit := by
  cases format with
  | apa => exact record.reference_withEntryPages authorLimit
  | bibtex => rw [render, ofRecord_withEntryPages]; rfl

/-- Pages that are made a range stay one, and a reference makes the same of them as before. So both
renderings of a record are what they are for the pages in its entry, which are a range. -/
theorem renderings_show_same_pages (pages : String) (record : Record) (authorLimit : Nat) :
    pageRange (pageRange pages) = pageRange pages ∧
      Apa.singleHyphens (pageRange pages).toList = Apa.singleHyphens pages.toList ∧
      (Entry.ofRecord record).get? "pages" = record.citedPages?.map pageRange ∧
      ∀ format : Format,
        record.withEntryPages.render format authorLimit = record.render format authorLimit :=
  ⟨pageRange_pageRange pages, Apa.singleHyphens_pageRange pages, record.get?_pages_ofRecord,
    fun format => record.render_withEntryPages format authorLimit⟩

end Record

end CitationFile
