import CitationFile.Text.Blank
import Mathlib.Data.List.Basic

namespace CitationFile.Text

theorem mem_intercalate {mark c : Char} {pieces : List (List Char)}
    (h : c ∈ [mark].intercalate pieces) : c = mark ∨ ∃ piece ∈ pieces, c ∈ piece := by
  induction pieces with
  | nil => simp at h
  | cons piece more ih =>
      cases more with
      | nil => exact .inr ⟨piece, by simp, by simpa using h⟩
      | cons second more =>
          rw [List.intercalate_cons_cons] at h
          simp only [List.mem_append, List.mem_singleton] at h
          rcases h with (hpiece | hmark) | hmore
          · exact .inr ⟨piece, by simp, hpiece⟩
          · exact .inl hmark
          · rcases ih hmore with hmark | ⟨other, hother, hc⟩
            · exact .inl hmark
            · exact .inr ⟨other, List.mem_cons_of_mem _ hother, hc⟩

theorem flatten_splitOnP (separates : Char → Bool) (text : List Char) :
    (text.splitOnP separates).flatten = text.filter (!separates ·) := by
  induction text with
  | nil => simp
  | cons c rest ih =>
      rw [List.splitOnP_cons_eq_if_modifyHead]
      cases hc : separates c with
      | true => simp [hc, ih]
      | false =>
          obtain ⟨first, others, hpieces⟩ :=
            List.exists_cons_of_ne_nil (List.splitOnP_ne_nil separates rest)
          rw [hpieces, List.flatten_cons] at ih
          simp [hc, hpieces, ih]

theorem flatten_words (text : List Char) : (words text).flatten = text.filter (!isBlank ·) := by
  rw [words, ← flatten_splitOnP]
  induction text.splitOnP isBlank with
  | nil => rfl
  | cons piece rest ih => cases piece <;> simpa using ih

private theorem splitOnP_congr {separates ends : Char → Bool} {text : List Char}
    (h : ∀ c ∈ text, separates c = ends c) : text.splitOnP separates = text.splitOnP ends := by
  induction text with
  | nil => simp
  | cons c rest ih =>
      obtain ⟨hc, hrest⟩ := List.forall_mem_cons.mp h
      rw [List.splitOnP_cons_eq_if_modifyHead, List.splitOnP_cons_eq_if_modifyHead, hc, ih hrest]

theorem words_intercalate {pieces : List (List Char)} (hsome : pieces ≠ [])
    (hempty : [] ∉ pieces) (hblank : ∀ piece ∈ pieces, ∀ c ∈ piece, isBlank c = false) :
    words ([' '].intercalate pieces) = pieces := by
  have hspace : ∀ piece ∈ pieces, ' ' ∉ piece := by
    intro piece hpiece hmem
    have := hblank piece hpiece ' ' hmem
    exact absurd this (by decide)
  have honly : ∀ c ∈ [' '].intercalate pieces, isBlank c = (c == ' ') := by
    intro c hc
    rcases mem_intercalate hc with rfl | ⟨piece, hpiece, hmem⟩
    · decide
    · have hne : c ≠ ' ' := fun heq => hspace piece hpiece (heq ▸ hmem)
      simp [hblank piece hpiece c hmem, hne]
  rw [words, splitOnP_congr honly, ← List.splitOn_eq_splitOnP,
    List.splitOn_intercalate ' ' hspace hsome, List.filter_eq_self]
  intro piece hpiece
  simpa using fun heq : piece = [] => hempty (heq ▸ hpiece)

end CitationFile.Text
