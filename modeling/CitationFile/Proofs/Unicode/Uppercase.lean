import CitationFile.Proofs.Unicode.Letter
import CitationFile.Unicode.Uppercase

namespace CitationFile.Unicode

namespace CodeTable

def liesOutside (code : Nat) (range : Nat × Nat) : Bool :=
  code < range.1 || range.2 < code

/-- Whether a run maps its code points outside of a range. The first code point of an image runs
through as many places as the argument. -/
def mapsOutside (run : Run) (range : Nat × Nat) : Bool :=
  match run.image with
  | [] => true
  | start :: rest =>
      (start + (run.last - run.first) < range.1 || range.2 < start) &&
        rest.all (liesOutside · range)

def imagesAvoid (runs : List Run) (ranges : List (Nat × Nat)) : Bool :=
  runs.all fun run => ranges.all (mapsOutside run)

private theorem not_mem_range_of_mapsOutside {run : Run} {range : Nat × Nat} {code image : Nat}
    (h : mapsOutside run range) (hcovers : run.Covers code) (himage : image ∈ run.imageOf code) :
    ¬ (range.1 ≤ image ∧ image ≤ range.2) := by
  obtain ⟨hfirst, hlast, -⟩ := hcovers
  unfold Run.imageOf at himage
  unfold mapsOutside at h
  split at h
  · rename_i hempty
    simp [hempty] at himage
  · rename_i start rest hrun
    rw [hrun] at himage
    simp only [Bool.and_eq_true, Bool.or_eq_true, decide_eq_true_eq, List.all_eq_true] at h
    obtain ⟨hstart, hrest⟩ := h
    cases List.mem_cons.mp himage with
    | inl heq => omega
    | inr hmem =>
        have houtside := hrest image hmem
        rw [liesOutside, Bool.or_eq_true, decide_eq_true_eq, decide_eq_true_eq] at houtside
        omega

private theorem not_mem_range_of_image? {table : CodeTable} {ranges : List (Nat × Nat)}
    {code image : Nat} {codes : List Nat} (h : imagesAvoid table.toList ranges)
    (hcodes : table.image? code = some codes) (himage : image ∈ codes) {range : Nat × Nat}
    (hrange : range ∈ ranges) : ¬ (range.1 ≤ image ∧ image ≤ range.2) := by
  obtain ⟨run, hrun, rfl⟩ := Option.map_eq_some_iff.mp hcodes
  obtain ⟨hmem, hcovers⟩ := covers_of_search hrun
  have hruns := List.all_eq_true.mp h run (Array.mem_toList_iff.mpr hmem)
  exact not_mem_range_of_mapsOutside (List.all_eq_true.mp hruns range hrange) hcovers himage

end CodeTable

/-- Blanks, and all characters of ASCII up to the hyphen. -/
def gapRanges : List (Nat × Nat) :=
  (0, 0x2D) :: blankRanges

private theorem exists_gapRange {c : Char} (h : Text.isBlank c ∨ c = '-') :
    ∃ range ∈ gapRanges, range.1 ≤ c.toNat ∧ c.toNat ≤ range.2 := by
  by_cases hlow : c.toNat ≤ 0x2D
  · exact ⟨(0, 0x2D), List.mem_cons_self, Nat.zero_le _, hlow⟩
  · have hblank : Text.isBlank c := by
      refine h.resolve_right ?_
      rintro rfl
      exact hlow (Nat.le_refl 0x2D)
    have hwide : 0x80 ≤ c.toNat := by
      simp only [Text.isBlank, Bool.or_eq_true, Bool.and_eq_true, decide_eq_true_eq] at hblank
      omega
    obtain ⟨range, hrange, hbounds⟩ := exists_blankRange hblank hwide
    exact ⟨range, List.mem_cons_of_mem _ hrange, hbounds⟩

set_option maxRecDepth 100000 in
private theorem uppercaseTable_avoids_gaps :
    CodeTable.imagesAvoid uppercaseTable.toList gapRanges :=
  (CodeTable.toList_ofText _).symm ▸ (by decide +kernel)

theorem isBlank_of_isAlphabetic {c : Char} (h : isAlphabetic c) : Text.isBlank c = false := by
  rw [← Bool.not_eq_true]
  intro hblank
  have hnone := isAlphanumeric_of_isBlank hblank
  rw [isAlphanumeric, h] at hnone
  cases hnone

theorem isAlphabetic_hyphen : isAlphabetic '-' = false := by
  decide

theorem not_gap_of_mem_uppercase {c d : Char} (hc : isAlphabetic c) (hd : d ∈ uppercase c) :
    Text.isBlank d = false ∧ d ≠ '-' := by
  rw [← Bool.not_eq_true, ne_eq, ← not_or]
  intro hgap
  unfold uppercase at hd
  split at hd
  · rename_i hascii
    rw [isAlphabetic, if_pos hascii] at hc
    have halphanum : d.isAlphanum := by
      rw [List.mem_singleton.mp hd, Text.isAlphanum_toUpper]
      exact Text.isAlphanum_iff.mpr (.inl hc)
    rcases hgap with hblank | rfl
    · rw [Text.isBlank_of_isAlphanum halphanum] at hblank
      cases hblank
    · cases halphanum
  · split at hd
    · rename_i codes hcodes
      obtain ⟨code, hcode, rfl⟩ := List.mem_map.mp hd
      by_cases hvalid : code.isValidChar
      · obtain ⟨range, hrange, hbounds⟩ := exists_gapRange hgap
        have hcodeEq : (Char.ofNat code).toNat = code := by
          rw [Char.ofNat, dif_pos hvalid]
          rfl
        rw [hcodeEq] at hbounds
        exact CodeTable.not_mem_range_of_image? uppercaseTable_avoids_gaps hcodes hcode hrange
          hbounds
      · rw [Char.ofNat, dif_neg hvalid] at hgap
        exact absurd hgap (by decide)
    · obtain rfl := List.mem_singleton.mp hd
      rcases hgap with hblank | rfl
      · rw [isBlank_of_isAlphabetic hc] at hblank
        cases hblank
      · rw [isAlphabetic_hyphen] at hc
        cases hc

end CitationFile.Unicode
