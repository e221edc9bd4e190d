import CitationFile.Text.Cut
import Mathlib.Data.List.Basic
import Mathlib.Data.List.TakeWhile

namespace CitationFile.Text

variable {c : Char} {mark word left right text : List Char}

theorem infix_append_cons_iff (h : c ∉ mark) :
    mark <:+: left ++ c :: right ↔ mark <:+: left ∨ mark <:+: right := by
  have hopens : ∀ {piece}, (∀ d ∈ piece, d ∈ mark) → piece <+: c :: right → piece = [] := by
    intro piece hsub hpiece
    rcases List.prefix_cons_iff.mp hpiece with hnil | ⟨tail, rfl, -⟩
    · exact hnil
    · exact absurd (hsub c List.mem_cons_self) h
  rw [List.infix_append_iff, List.infix_cons_iff]
  constructor
  · rintro (hleft | (hstart | hright) | ⟨front, back, rfl, hfront, hback⟩)
    · exact .inl hleft
    · rw [hopens (fun _ hd => hd) hstart]
      exact .inl List.nil_infix
    · exact .inr hright
    · rw [hopens (fun _ hd => List.mem_append_right front hd) hback, List.append_nil]
      exact .inl hfront.isInfix
  · rintro (hleft | hright)
    · exact .inl hleft
    · exact .inr (.inl (.inr hright))

theorem infix_of_infix_append (h : c ∉ left) (hmark : c :: word <:+: left ++ right) :
    c :: word <:+: right := by
  rcases List.infix_append_iff.mp hmark with hleft | hright | ⟨front, back, heq, hfront, hback⟩
  · exact absurd (hleft.mem List.mem_cons_self) h
  · exact hright
  · cases front with
    | nil =>
        rw [heq]
        exact hback.isInfix
    | cons d front =>
        obtain ⟨rfl, -⟩ := List.cons.inj heq
        exact absurd (hfront.mem List.mem_cons_self) h

/-- Each character is written as itself, or as a backslash with characters other than blanks. -/
def IsEscaping (escape : Char → List Char) : Prop :=
  ∀ c, escape c = [c] ∨ ∃ tail, escape c = '\\' :: tail ∧ ' ' ∉ tail

section Escapes

variable {escape : Char → List Char}

theorem flatMap_eq_self (h : ∀ c ∈ text, escape c = [c]) : text.flatMap escape = text := by
  rw [List.flatMap_congr h, List.flatMap_singleton']

private theorem IsEscaping.isPrefix_of_flatMap (hescape : IsEscaping escape) (hword : '\\' ∉ word)
    (h : word <+: text.flatMap escape) : word <+: text := by
  induction text generalizing word with
  | nil => exact h
  | cons c rest ih =>
      rw [List.flatMap_cons] at h
      rcases hescape c with hplain | ⟨tail, htail, -⟩
      · rw [hplain, List.singleton_append] at h
        rcases List.prefix_cons_iff.mp h with rfl | ⟨later, rfl, hlater⟩
        · exact List.nil_prefix
        · rw [List.mem_cons, not_or] at hword
          exact List.cons_prefix_cons.mpr ⟨rfl, ih hword.2 hlater⟩
      · rw [htail, List.cons_append] at h
        rcases List.prefix_cons_iff.mp h with rfl | ⟨later, rfl, -⟩
        · exact List.nil_prefix
        · exact absurd List.mem_cons_self hword

theorem IsEscaping.infix_flatMap_iff (hescape : IsEscaping escape) (hword : '\\' ∉ word)
    (hplain : ∀ c ∈ ' ' :: word, escape c = [c]) :
    ' ' :: word <:+: text.flatMap escape ↔ ' ' :: word <:+: text := by
  constructor
  · intro h
    induction text with
    | nil => exact h
    | cons c rest ih =>
        rw [List.flatMap_cons] at h
        rcases hescape c with hc | ⟨tail, htail, hblank⟩
        · rw [hc, List.singleton_append] at h
          rcases List.infix_cons_iff.mp h with hopens | hlater
          · obtain ⟨heq, hrest⟩ := List.cons_prefix_cons.mp hopens
            have hword := hescape.isPrefix_of_flatMap hword hrest
            exact (List.cons_prefix_cons.mpr ⟨heq, hword⟩).isInfix
          · exact List.infix_cons (ih hlater)
        · have hfree : ' ' ∉ escape c := by simp [htail, hblank]
          exact List.infix_cons (ih (infix_of_infix_append hfree h))
  · rintro ⟨before, behind, rfl⟩
    refine ⟨before.flatMap escape, behind.flatMap escape, ?_⟩
    rw [List.flatMap_append, List.flatMap_append, flatMap_eq_self hplain]

end Escapes

theorem exists_cutAtFirst?_char (c : Char) (text right : List Char) :
    ∃ behind, cutAtFirst? [c] (text ++ c :: right) = some (text.takeWhile (· != c), behind) := by
  have htaken : ∀ {before : List Char}, c ∉ before → ∀ d ∈ before, (d != c) = true :=
    fun hfree d hd => bne_iff_ne.mpr fun heq => hfree (heq ▸ hd)
  by_cases hmem : c ∈ text
  · obtain ⟨before, later, rfl, hfree⟩ := List.eq_append_cons_of_mem hmem
    refine ⟨later ++ c :: right, ?_⟩
    rw [List.takeWhile_append_of_pos (htaken hfree), List.takeWhile_cons_of_neg (by simp),
      List.append_nil, List.append_assoc, List.cons_append, cutAtFirst?_char hfree]
  · rw [List.takeWhile_eq_self_iff.mpr (htaken hmem), cutAtFirst?_char hmem]
    exact ⟨right, rfl⟩

theorem cutAtFirst?_concat (hleft : c ∉ left) (hword : c ∉ word) (behind : List Char) :
    cutAtFirst? (word ++ [c]) (left ++ (word ++ c :: behind)) = some (left, behind) := by
  induction left with
  | nil =>
      cases word with
      | nil => exact cutAtFirst?_mark_append c [] behind
      | cons d word =>
          have hopens := cutAtFirst?_mark_append d (word ++ [c]) behind
          simpa using hopens
  | cons d left ih =>
      have hlater : ¬ word ++ [c] <+: d :: (left ++ (word ++ c :: behind)) := by
        intro hopens
        have hwithin : word ++ [c] <+: d :: left ++ word := by
          refine List.prefix_of_prefix_length_le hopens ⟨c :: behind, by simp⟩ ?_
          simp only [List.length_append, List.length_cons, List.length_nil]
          omega
        have hmem := hwithin.mem (List.mem_append_right word (List.mem_singleton_self c))
        exact (List.mem_append.mp hmem).elim hleft hword
      rw [List.mem_cons, not_or] at hleft
      rw [List.cons_append, cutAtFirst?, if_neg (by simpa using hlater), ih hleft.2]
      rfl

theorem beforeLast?_sound (h : beforeLast? mark text = some left) :
    ∃ behind, text = left ++ mark ++ behind := by
  induction text generalizing left with
  | nil =>
      rw [beforeLast?] at h
      split at h
      · cases h
        exact ⟨[], by simp [*]⟩
      · cases h
  | cons d rest ih =>
      rw [beforeLast?] at h
      split at h
      · rename_i before hbefore
        cases h
        obtain ⟨behind, heq⟩ := ih hbefore
        exact ⟨behind, by rw [heq, List.cons_append, List.cons_append]⟩
      · split at h
        · rename_i hopens
          cases h
          obtain ⟨behind, heq⟩ := List.isPrefixOf_iff_prefix.mp hopens
          exact ⟨behind, heq.symm⟩
        · cases h

theorem beforeLast?_eq_none_iff (hmark : mark ≠ []) :
    beforeLast? mark text = none ↔ ¬ mark <:+: text := by
  induction text with
  | nil => simp [beforeLast?, hmark]
  | cons d rest ih =>
      rw [beforeLast?, List.infix_cons_iff, not_or, ← ih]
      cases beforeLast? mark rest with
      | none => simp
      | some before => simp

/-- A mark is the last one if no other begins behind its first character. -/
theorem beforeLast?_append_eq_some (hmark : mark ≠ []) (h : ¬ mark <:+: mark.tail ++ right) :
    beforeLast? mark (left ++ (mark ++ right)) = some left := by
  obtain ⟨c, word, rfl⟩ := List.exists_cons_of_ne_nil hmark
  induction left with
  | nil =>
      have hnone := (beforeLast?_eq_none_iff hmark).mpr h
      simp_all [beforeLast?]
  | cons d left ih => rw [List.cons_append, beforeLast?, ih]

end CitationFile.Text
