import CitationFile.Proofs.Doi.NormalForm
import CitationFile.Proofs.Pieces
import Mathlib.Data.List.TakeDrop

namespace CitationFile.Doi

open Text

def IsCode (digits : List Char) : Prop :=
  digits ≠ [] ∧ ∀ c ∈ digits, isDecimalDigit c

/-- The directory `10`, a code of four to nine digits and further codes, all parted by dots, and a
suffix without blanks behind a slash. -/
def HasDoiShape (text : List Char) : Prop :=
  ∃ code subcodes suffixChars, 4 ≤ code.length ∧ code.length ≤ 9 ∧
    (∀ digits ∈ code :: subcodes, IsCode digits) ∧ suffixChars ≠ [] ∧
    (∀ c ∈ suffixChars, isBlank c = false) ∧
    text = ['.'].intercalate (['1', '0'] :: code :: subcodes) ++ '/' :: suffixChars

theorem isRegistrant_iff {text : List Char} :
    IsRegistrant text ↔ ∃ code subcodes, 4 ≤ code.length ∧ code.length ≤ 9 ∧
      (∀ digits ∈ code :: subcodes, IsCode digits) ∧
      text = ['.'].intercalate (['1', '0'] :: code :: subcodes) := by
  constructor
  · intro h
    unfold IsRegistrant at h
    split at h
    · rename_i directory code subcodes hpieces
      obtain ⟨rfl, hdigits, hlong, hshort, hsubcodes⟩ := h
      refine ⟨code, subcodes, hlong, hshort, ?_, ?_⟩
      · rw [List.forall_mem_cons]
        refine ⟨⟨?_, List.all_eq_true.mp hdigits⟩, fun digits hmem => ?_⟩
        · rintro rfl
          simp at hlong
        · exact ⟨(hsubcodes digits hmem).1, List.all_eq_true.mp (hsubcodes digits hmem).2⟩
      · rw [← hpieces, List.intercalate_splitOn]
    · cases h
  · rintro ⟨code, subcodes, hlong, hshort, hcodes, rfl⟩
    have hdot : ∀ piece ∈ ['1', '0'] :: code :: subcodes, '.' ∉ piece := by
      rw [List.forall_mem_cons]
      refine ⟨by decide, fun digits hmem hdot => ?_⟩
      exact absurd ((hcodes digits hmem).2 '.' hdot) (by decide)
    have hpieces := List.splitOn_intercalate '.' hdot (by simp)
    rw [List.forall_mem_cons] at hcodes
    unfold IsRegistrant
    rw [hpieces]
    refine ⟨rfl, List.all_eq_true.mpr hcodes.1.2, hlong, hshort, fun subcode hmem => ?_⟩
    exact ⟨(hcodes.2 subcode hmem).1, List.all_eq_true.mpr (hcodes.2 subcode hmem).2⟩

private theorem isBlank_of_isDecimalDigit {c : Char} (h : isDecimalDigit c) :
    isBlank c = false := by
  -- The digits of every script lie between two runs of blanks.
  have hapart : ∀ first ∈ zeroDigits, 0x20 < first ∧ first + 10 ≤ 0x85 ∨
      0xA0 < first ∧ first + 10 ≤ 0x1680 ∨ 0x1680 < first ∧ first + 10 ≤ 0x2000 ∨
        0x3000 < first := by
    decide
  obtain ⟨first, hmem, hrange⟩ := List.any_eq_true.mp h
  have hfirst := hapart first hmem
  simp only [Bool.and_eq_true, decide_eq_true_eq] at hrange
  simp only [isBlank, Bool.or_eq_false_iff, Bool.and_eq_false_iff, decide_eq_false_iff_not]
  omega

private theorem mem_registrant {code : List Char} {subcodes : List (List Char)}
    (hcodes : ∀ digits ∈ code :: subcodes, IsCode digits) {c : Char}
    (hc : c ∈ ['.'].intercalate (['1', '0'] :: code :: subcodes)) : c = '.' ∨ isDecimalDigit c := by
  have hdirectory : ∀ d ∈ ['1', '0'], isDecimalDigit d := List.all_eq_true.mp (by decide)
  rcases mem_intercalate hc with hdot | ⟨piece, hpiece, hmem⟩
  · exact .inl hdot
  · rcases List.mem_cons.mp hpiece with rfl | hpiece
    · exact .inr (hdirectory c hmem)
    · exact .inr ((hcodes piece hpiece).2 c hmem)

theorem isDoi_iff {text : List Char} : IsDoi text ↔ HasDoiShape text := by
  have hspan : text.span (· ≠ '/') = (text.takeWhile (· ≠ '/'), text.dropWhile (· ≠ '/')) :=
    List.span_eq_takeWhile_dropWhile _ text
  constructor
  · intro h
    unfold IsDoi at h
    rw [hspan] at h
    split at h
    · rename_i registrant slash suffixChars hcut
      obtain ⟨hregistrant, hfilled, hplain⟩ := h
      obtain ⟨rfl, hrest⟩ := Prod.mk.inj hcut
      obtain ⟨code, subcodes, hlong, hshort, hcodes, hwritten⟩ := isRegistrant_iff.mp hregistrant
      have hslash : slash = '/' := by
        have hfirst := List.head?_dropWhile_not (· ≠ '/') text
        rw [hrest] at hfirst
        simpa using hfirst
      subst hslash
      have hunspaced : ∀ c ∈ suffixChars, isBlank c = false := by simpa using hplain
      refine ⟨code, subcodes, suffixChars, hlong, hshort, hcodes, hfilled, hunspaced, ?_⟩
      rw [← hwritten, ← hrest, List.takeWhile_append_dropWhile]
    · cases h
  · rintro ⟨code, subcodes, suffixChars, hlong, hshort, hcodes, hfilled, hplain, htext⟩
    have hbefore : ∀ c ∈ ['.'].intercalate (['1', '0'] :: code :: subcodes), decide (c ≠ '/') := by
      intro c hc
      rcases mem_registrant hcodes hc with rfl | hdigit
      · decide
      · exact decide_eq_true fun hslash => absurd (hslash ▸ hdigit) (by decide)
    have hslash : decide ('/' ≠ '/') = false := by decide
    rw [htext, takeWhile_append_cons hbefore hslash, dropWhile_append_cons hbefore hslash] at hspan
    unfold IsDoi
    rw [htext, hspan]
    refine ⟨isRegistrant_iff.mpr ⟨code, subcodes, hlong, hshort, hcodes, rfl⟩, hfilled, ?_⟩
    exact fun c hc => Bool.eq_false_iff.mp (hplain c hc)

private theorem IsDoi.isBlank_of_mem {text : List Char} (h : IsDoi text) {c : Char}
    (hc : c ∈ text) :
    isBlank c = false := by
  obtain ⟨code, subcodes, suffixChars, -, -, hcodes, -, hplain, rfl⟩ := isDoi_iff.mp h
  rcases List.mem_append.mp hc with hregistrant | hrest
  · rcases mem_registrant hcodes hregistrant with rfl | hdigit
    · decide
    · exact isBlank_of_isDecimalDigit hdigit
  · rcases List.mem_cons.mp hrest with rfl | hsuffix
    · decide
    · exact hplain c hsuffix

theorem normal_normal_of_isValid {doi : String} (h : isValid doi) :
    normal (normal doi) = normal doi := by
  have hform : IsDoi (normalChars doi.toList) := of_decide_eq_true h
  rw [normal, normal, String.toList_ofList, String.ofList_inj, normalChars_normalChars]
  exact fun c hc => hform.isBlank_of_mem (List.mem_of_mem_getLast? hc)

theorem normal_url (doi : String) : normal (url doi) = normal (normal doi) := by
  have hlead : IsLead ("https://doi.org/".toList ++ []) := .opening (by decide) .nil
  rw [List.append_nil] at hlead
  rw [normal, url, String.toList_append, hlead.normalChars_append, ← normal]

theorem isValid_congr {doi other : String} (h : normal doi = normal other) :
    isValid doi = isValid other := by
  have hchars : normalChars doi.toList = normalChars other.toList := String.ofList_inj.mp h
  rw [isValid, isValid, hchars]

/-- The form and the address of a valid DOI are valid; both have its form, and the address is its
own. -/
theorem isValid_resolves {doi : String} (h : isValid doi) :
    isValid (normal doi) ∧ isValid (url doi) ∧ normal (normal doi) = normal doi ∧
      normal (url doi) = normal doi ∧ url (url doi) = url doi := by
  have hform := normal_normal_of_isValid h
  have hurl : normal (url doi) = normal doi := (normal_url doi).trans hform
  refine ⟨?_, ?_, hform, hurl, ?_⟩
  · rwa [isValid_congr hform]
  · rwa [isValid_congr hurl]
  · rw [url, hurl, ← url]

/-- The code is in Arabic digits, and the suffix ends in a dot before a bracket. -/
theorem bracketedText_resolves :
    isValid "doi: 10.١٢٣٤.5/a,b.)." ∧ isValid (url "doi: 10.١٢٣٤.5/a,b.).") ∧
      normal (url "doi: 10.١٢٣٤.5/a,b.).") = "10.١٢٣٤.5/a,b.)" := by
  have hvalid : isValid "doi: 10.١٢٣٤.5/a,b.)." := by decide +kernel
  obtain ⟨-, hurl, -, hform, -⟩ := isValid_resolves hvalid
  exact ⟨hvalid, hurl, hform.trans (by decide +kernel)⟩

end CitationFile.Doi
