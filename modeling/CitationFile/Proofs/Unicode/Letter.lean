import CitationFile.Text.Blank
import CitationFile.Unicode.Letter
import Mathlib.Data.Nat.Notation

namespace CitationFile.Unicode

namespace CodeTable

theorem covers_of_search {table : CodeTable} {code low high : Nat} {run : Run}
    (h : table.search code low high = some run) : run ∈ table ∧ run.Covers code := by
  fun_induction search table code low high with
  | case1 | case5 | case6 => cases h
  | case2 _ _ _ _ _ _ _ ih | case3 _ _ _ _ _ _ _ _ ih => exact ih h
  | case4 _ _ _ _ found hfound _ _ hcovers =>
      cases h
      exact ⟨Array.mem_of_getElem? hfound, hcovers⟩

private theorem exists_covers_of_contains {table : CodeTable} {code : Nat}
    (h : table.contains code) :
    ∃ run ∈ table, run.Covers code := by
  obtain ⟨run, hrun⟩ := Option.isSome_iff_exists.mp h
  exact ⟨run, covers_of_search hrun⟩

def avoid (runs : List Run) (ranges : List (Nat × Nat)) : Bool :=
  runs.all fun run => ranges.all fun range => run.last < range.1 || range.2 < run.first

private theorem contains_eq_false_of_avoid {table : CodeTable} {ranges : List (Nat × Nat)}
    {code : Nat} (h : avoid table.toList ranges) {range : Nat × Nat} (hrange : range ∈ ranges)
    (hlow : range.1 ≤ code) (hhigh : code ≤ range.2) : table.contains code = false := by
  rw [← Bool.not_eq_true]
  intro hcontains
  obtain ⟨run, hrun, hfirst, hlast, -⟩ := exists_covers_of_contains hcontains
  have hruns := List.all_eq_true.mp h run (Array.mem_toList_iff.mpr hrun)
  have hapart := List.all_eq_true.mp hruns range hrange
  rw [Bool.or_eq_true, decide_eq_true_eq, decide_eq_true_eq] at hapart
  omega

theorem toList_ofText (text : List Char) :
    (ofText (String.ofList text)).toList =
      ((text.splitOnP isSeparator).filter (· ≠ [])).map readRun := by
  rw [ofText, String.toList_ofList, List.toList_toArray]

end CodeTable

/-- The ranges of blank characters beyond ASCII. -/
def blankRanges : List (Nat × Nat) :=
  [(0x85, 0x85), (0xA0, 0xA0), (0x1680, 0x1680), (0x2000, 0x200A), (0x2028, 0x2029),
    (0x202F, 0x202F), (0x205F, 0x205F), (0x3000, 0x3000)]

theorem exists_blankRange {c : Char} (h : Text.isBlank c) (hwide : 0x80 ≤ c.toNat) :
    ∃ range ∈ blankRanges, range.1 ≤ c.toNat ∧ c.toNat ≤ range.2 := by
  simp only [Text.isBlank, Bool.or_eq_true, Bool.and_eq_true, decide_eq_true_eq] at h
  simp only [blankRanges, List.mem_cons, List.not_mem_nil, or_false, exists_eq_or_imp,
    exists_eq_left]
  omega

set_option maxRecDepth 100000 in
private theorem alphabeticTable_avoids_blanks :
    CodeTable.avoid alphabeticTable.toList blankRanges :=
  (CodeTable.toList_ofText _).symm ▸ (by decide +kernel)

set_option maxRecDepth 100000 in
private theorem numericTable_avoids_blanks : CodeTable.avoid numericTable.toList blankRanges :=
  (CodeTable.toList_ofText _).symm ▸ (by decide +kernel)

theorem isAlphanumeric_of_isBlank {c : Char} (h : Text.isBlank c) : isAlphanumeric c = false := by
  by_cases hascii : c.toNat < 0x80
  · have hplain : c.isAlphanum = false := by
      rw [← Bool.not_eq_true]
      intro halphanum
      rw [Text.isBlank_of_isAlphanum halphanum] at h
      cases h
    simp only [isAlphanumeric, isAlphabetic, isNumeric, if_pos hascii]
    exact hplain
  · obtain ⟨range, hrange, hlow, hhigh⟩ := exists_blankRange h (by omega)
    have halphabetic := CodeTable.contains_eq_false_of_avoid alphabeticTable_avoids_blanks hrange
      hlow hhigh
    have hnumeric := CodeTable.contains_eq_false_of_avoid numericTable_avoids_blanks hrange
      hlow hhigh
    simp only [isAlphanumeric, isAlphabetic, isNumeric, if_neg hascii, halphabetic, hnumeric,
      Bool.or_self]

end CitationFile.Unicode
