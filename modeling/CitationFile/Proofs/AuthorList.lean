import CitationFile.Apa
import Mathlib.Data.List.Induction
import Mathlib.Data.List.TakeDrop

/-! Author lists of a reference. Up to the limit every author is listed, with an ampersand before
the last; beyond it those in front and the last one, with dots between them. A limit that no list of
the length exceeds has no effect. -/

namespace CitationFile.Apa

/-- All names one after another, the last two joined by an ampersand. -/
def listedNames : List String → String
  | [] => ""
  | [only] => only
  | [first, last] => first ++ ", & " ++ last
  | name :: second :: third :: rest => name ++ ", " ++ listedNames (second :: third :: rest)

/-- Names one after another, then dots and the last name. -/
def abridgedNames (last : String) : List String → String
  | [] => ". . . " ++ last
  | name :: rest => name ++ ", " ++ abridgedNames last rest

private theorem listedNames_concat {front : List String} (hfilled : front ≠ []) (last : String) :
    listedNames (front ++ [last]) = ", ".intercalate front ++ ", & " ++ last := by
  induction front with
  | nil => exact absurd rfl hfilled
  | cons name rest ih =>
      cases rest with
      | nil => simp [listedNames]
      | cons second rest =>
          obtain ⟨third, more, hmore⟩ : ∃ third more, rest ++ [last] = third :: more :=
            List.exists_cons_of_ne_nil (by simp)
          have hrest := ih (List.cons_ne_nil second rest)
          rw [List.cons_append, hmore] at hrest
          rw [List.cons_append, List.cons_append, hmore, listedNames, hrest,
            String.intercalate_cons_cons]
          simp only [String.append_assoc]

private theorem abridgedNames_eq {shown : List String} (hfilled : shown ≠ []) (last : String) :
    abridgedNames last shown = ", ".intercalate shown ++ ", . . . " ++ last := by
  have hmark : ", " ++ ". . . " = ", . . . " := by decide
  induction shown with
  | nil => exact absurd rfl hfilled
  | cons name rest ih =>
      cases rest with
      | nil =>
          rw [abridgedNames, abridgedNames, String.intercalate_singleton, ← hmark]
          simp only [String.append_assoc]
      | cons second rest =>
          rw [abridgedNames, ih (List.cons_ne_nil second rest), String.intercalate_cons_cons]
          simp only [String.append_assoc]

variable {authors : List Author} {limit : Nat}

theorem authorNames_of_le (h : authors.length ≤ max limit 2) :
    authorNames authors limit = listedNames (authors.map Author.apaName) := by
  cases authors using List.reverseRecOn with
  | nil => rfl
  | append_singleton front last =>
      simp only [authorNames, List.map_append, List.map_cons, List.map_nil, List.getLast?_concat,
        List.dropLast_concat, List.length_append, List.length_map, List.length_singleton]
      rw [List.length_append, List.length_singleton] at h
      rw [if_pos h]
      cases front with
      | nil => simp [listedNames]
      | cons first rest =>
          rw [if_neg (by simp), listedNames_concat (by simp)]

theorem authorNames_of_lt {shown hidden : List Author} (last : Author)
    (hshown : shown.length + 1 = max limit 2) (hhidden : hidden ≠ []) :
    authorNames (shown ++ hidden ++ [last]) limit =
      abridgedNames last.apaName (shown.map Author.apaName) := by
  have hpos := List.length_pos_iff.mpr hhidden
  have hfilled : shown.map Author.apaName ≠ [] := by
    intro hnone
    rw [List.map_eq_nil_iff] at hnone
    subst hnone
    simp only [List.length_nil] at hshown
    omega
  rw [abridgedNames_eq hfilled]
  simp only [authorNames, List.map_append, List.map_cons, List.map_nil, List.getLast?_concat,
    List.length_append, List.length_map, List.length_singleton]
  rw [if_neg (by omega), if_neg (by omega), ← hshown, Nat.add_sub_cancel, List.append_assoc,
    List.take_left' (List.length_map _)]

theorem exists_split_of_lt (h : max limit 2 < authors.length) :
    ∃ shown hidden last, authors = shown ++ hidden ++ [last] ∧
      shown.length + 1 = max limit 2 ∧ hidden ≠ [] := by
  cases authors using List.reverseRecOn with
  | nil => simp at h
  | append_singleton front last =>
      rw [List.length_append, List.length_singleton] at h
      have htaken : (front.take (max limit 2 - 1)).length = max limit 2 - 1 :=
        List.length_take_of_le (by omega)
      refine ⟨front.take (max limit 2 - 1), front.drop (max limit 2 - 1), last, ?_, by omega, ?_⟩
      · rw [List.take_append_drop]
      · rw [Ne, List.drop_eq_nil_iff]
        omega

/-- Every author is listed once and in order if the limit, or two for a lower one, is not exceeded.
Otherwise one author fewer than that is shown in front, and of the others only the last. -/
theorem authorNames_within_limit (authors : List Author) (limit : Nat) :
    (authors.length ≤ max limit 2 →
      authorNames authors limit = listedNames (authors.map Author.apaName)) ∧
    (max limit 2 < authors.length →
      ∃ shown hidden last, authors = shown ++ hidden ++ [last] ∧
        shown.length + 1 = max limit 2 ∧ hidden ≠ [] ∧
        authorNames authors limit = abridgedNames last.apaName (shown.map Author.apaName)) ∧
    ∀ other, authors.length ≤ limit → authors.length ≤ other →
      authorNames authors limit = authorNames authors other := by
  refine ⟨authorNames_of_le, ?_, ?_⟩
  · intro h
    obtain ⟨shown, hidden, last, rfl, hshown, hhidden⟩ := exists_split_of_lt h
    exact ⟨shown, hidden, last, rfl, hshown, hhidden, authorNames_of_lt last hshown hhidden⟩
  · intro other hlimit hother
    rw [authorNames_of_le (Nat.le_trans hlimit (Nat.le_max_left limit 2)),
      authorNames_of_le (Nat.le_trans hother (Nat.le_max_left other 2))]

def groups (count : Nat) : List Author :=
  (List.range count).map fun index => .entity { name := "Group " ++ (index + 1).repr }

theorem groups_within_limit :
    (max 0 2 < (groups 3).length ∧
      ∃ shown hidden last, groups 3 = shown ++ hidden ++ [last] ∧ shown.length + 1 = max 0 2 ∧
        hidden ≠ [] ∧
        authorNames (groups 3) 0 = abridgedNames last.apaName (shown.map Author.apaName)) ∧
    ((groups 3).length ≤ 3 ∧ authorNames (groups 3) 3 = authorNames (groups 3) 20) ∧
    authorNames (groups 3) 0 = "Group 1, . . . Group 3" ∧
    authorNames (groups 3) 20 = "Group 1, Group 2, & Group 3" := by
  have hover : max 0 2 < (groups 3).length := by decide
  have hwithin : (groups 3).length ≤ 3 := by decide
  exact ⟨⟨hover, (authorNames_within_limit (groups 3) 0).2.1 hover⟩,
    ⟨hwithin, (authorNames_within_limit (groups 3) 3).2.2 20 hwithin (by decide)⟩,
    by decide +kernel, by decide +kernel⟩

end CitationFile.Apa
