import CitationFile.Bibtex.Escape
import CitationFile.Text.Ascii
import Mathlib.Data.List.Basic

namespace CitationFile.Bibtex

open Text

/-- The characters that do not stand for themselves. -/
def escapedChars : List Char := ['#', '$', '%', '&', '_', '{', '}']

def takeEscaped? (text : List Char) : Option (Char × List Char) :=
  escapedChars.findSome? fun c => (dropOpening? (escapeChar c) text).map fun rest => (c, rest)

private theorem takeEscaped?_sound {text rest : List Char} {c : Char}
    (h : takeEscaped? text = some (c, rest)) :
    c ∈ escapedChars ∧ text = escapeChar c ++ rest := by
  obtain ⟨d, hmem, htaken⟩ := List.exists_of_findSome?_eq_some h
  obtain ⟨behind, hbehind, heq⟩ := Option.map_eq_some_iff.mp htaken
  obtain ⟨rfl, rfl⟩ := Prod.mk.inj heq
  exact ⟨hmem, dropOpening?_eq_some_iff.mp hbehind⟩

theorem escapeChar_of_not_mem {c : Char} (h : c ∉ escapedChars) : escapeChar c = [c] := by
  simp only [escapedChars, List.mem_cons, List.not_mem_nil, or_false, not_or] at h
  simp [escapeChar, isSpecial, h]

theorem escapeChar_of_mem {c : Char} (h : c ∈ escapedChars) :
    ∃ word, escapeChar c = '\\' :: word ∧ '\\' ∉ word ∧ ∃ d ∈ word, d ∈ escapedChars := by
  simp only [escapedChars, List.mem_cons, List.not_mem_nil, or_false] at h
  have hspecial : isSpecial c ∨ c = '{' ∨ c = '}' := by
    rcases h with rfl | rfl | rfl | rfl | rfl | rfl | rfl <;> decide
  rcases hspecial with hspecial | rfl | rfl
  · refine ⟨[c], by simp [escapeChar, hspecial], ?_, c, by simp, by simpa [escapedChars] using h⟩
    intro hmem
    obtain rfl := List.mem_singleton.mp hmem
    revert hspecial
    decide
  · exact ⟨"textbraceleft".toList ++ ['{', '}'], by decide, by decide, '{', by decide, by decide⟩
  · exact ⟨"textbraceright".toList ++ ['{', '}'], by decide, by decide, '{', by decide, by decide⟩

private theorem escapeChar_opens_inj {c d : Char} (hc : c ∈ escapedChars) (hd : d ∈ escapedChars)
    (h : escapeChar c <+: escapeChar d) : c = d := by
  have hall : escapedChars.all (fun c => escapedChars.all fun d =>
      !(escapeChar c).isPrefixOf (escapeChar d) || c = d) := by
    decide
  have hpair := List.all_eq_true.mp (List.all_eq_true.mp hall c hc) d hd
  simpa [List.isPrefixOf_iff_prefix.mpr h] using hpair

theorem escapeChar_append_inj {c d : Char} {rest behind : List Char} (hc : c ∈ escapedChars)
    (hd : d ∈ escapedChars) (h : escapeChar c ++ rest = escapeChar d ++ behind) :
    c = d ∧ rest = behind := by
  have hsame : c = d := by
    have hopens : escapeChar c <+: escapeChar d ++ behind := ⟨rest, h⟩
    rcases List.prefix_or_prefix_of_prefix hopens (List.prefix_append _ _) with hshort | hshort
    · exact escapeChar_opens_inj hc hd hshort
    · exact (escapeChar_opens_inj hd hc hshort).symm
  subst hsame
  exact ⟨rfl, List.append_cancel_left h⟩

private theorem takeEscaped?_escapeChar {c : Char} (h : c ∈ escapedChars) (rest : List Char) :
    takeEscaped? (escapeChar c ++ rest) = some (c, rest) := by
  cases htaken : takeEscaped? (escapeChar c ++ rest) with
  | none =>
      have hnone := List.findSome?_eq_none_iff.mp htaken c h
      simp [dropOpening?_eq_some_iff.mpr rfl] at hnone
  | some taken =>
      obtain ⟨d, behind⟩ := taken
      obtain ⟨hd, heq⟩ := takeEscaped?_sound htaken
      obtain ⟨rfl, rfl⟩ := escapeChar_append_inj h hd heq
      rfl

theorem escapeChars_eq_cons {text more : List Char} {c : Char}
    (h : escapeChars text = c :: more) :
    c = '\\' ∨ c ∉ escapedChars ∧ ∃ rest, more = escapeChars rest := by
  cases text with
  | nil => simp at h
  | cons d rest =>
      rw [escapeChars_cons] at h
      by_cases hmem : d ∈ escapedChars
      · obtain ⟨word, hword, -, -⟩ := escapeChar_of_mem hmem
        rw [hword, List.cons_append] at h
        exact Or.inl (List.cons.inj h).1.symm
      · rw [escapeChar_of_not_mem hmem, List.singleton_append] at h
        obtain ⟨rfl, rfl⟩ := List.cons.inj h
        exact Or.inr ⟨hmem, rest, rfl⟩

theorem not_opens_escapeChars {word : List Char} (hplain : '\\' ∉ word)
    (hescaped : ∃ d ∈ word, d ∈ escapedChars) (text : List Char) :
    ¬ word <+: escapeChars text := by
  induction word generalizing text with
  | nil => simp at hescaped
  | cons c rest ih =>
      rintro ⟨behind, hbehind⟩
      rw [List.mem_cons, not_or] at hplain
      -- Without a backslash the word can only have been typed, and `d` is never written plainly.
      rcases escapeChars_eq_cons hbehind.symm with hslash | ⟨hc, tail, htail⟩
      · exact hplain.1 hslash.symm
      · have hrest : ∃ d ∈ rest, d ∈ escapedChars := by
          obtain ⟨d, hd, hmem⟩ := hescaped
          rcases List.mem_cons.mp hd with rfl | hd
          · exact absurd hmem hc
          · exact ⟨d, hd, hmem⟩
        exact ih hplain.2 hrest tail ⟨behind, htail⟩

private theorem takeEscaped?_cons_escapeChars (c : Char) (rest : List Char) :
    takeEscaped? (c :: escapeChars rest) = none := by
  cases htaken : takeEscaped? (c :: escapeChars rest) with
  | none => rfl
  | some taken =>
      obtain ⟨d, behind⟩ := taken
      obtain ⟨hd, heq⟩ := takeEscaped?_sound htaken
      obtain ⟨word, hword, hplain, hescaped⟩ := escapeChar_of_mem hd
      rw [hword, List.cons_append] at heq
      have hopens : word <+: escapeChars rest := ⟨behind, (List.cons.inj heq).2.symm⟩
      exact absurd hopens (not_opens_escapeChars hplain hescaped rest)

private theorem length_of_takeEscaped? {text rest : List Char} {c : Char}
    (h : takeEscaped? text = some (c, rest)) : rest.length < text.length := by
  obtain ⟨hmem, rfl⟩ := takeEscaped?_sound h
  obtain ⟨word, hword, -, -⟩ := escapeChar_of_mem hmem
  rw [hword, List.cons_append, List.length_cons, List.length_append]
  omega

/-- Takes escaped forms from the left, and every other character as it stands. -/
def unescape : List Char → List Char
  | [] => []
  | c :: rest =>
      match _htaken : takeEscaped? (c :: rest) with
      | some (d, behind) => d :: unescape behind
      | none => c :: unescape rest
termination_by text => text.length
decreasing_by
  · exact length_of_takeEscaped? _htaken
  · exact Nat.lt_succ_self _

private theorem unescape_of_some {text rest : List Char} {c : Char}
    (h : takeEscaped? text = some (c, rest)) : unescape text = c :: unescape rest := by
  cases text with
  | nil => simpa using length_of_takeEscaped? h
  | cons d behind =>
      rw [unescape]
      split
      · rename_i htaken
        rw [h] at htaken
        obtain ⟨rfl, rfl⟩ := Prod.mk.inj (Option.some.inj htaken)
        rfl
      · rename_i htaken
        rw [h] at htaken
        cases htaken

private theorem unescape_of_none {rest : List Char} {c : Char}
    (h : takeEscaped? (c :: rest) = none) :
    unescape (c :: rest) = c :: unescape rest := by
  rw [unescape]
  split
  · rename_i htaken
    rw [h] at htaken
    cases htaken
  · rfl

@[simp] theorem unescape_escapeChars (text : List Char) : unescape (escapeChars text) = text := by
  induction text with
  | nil => rw [escapeChars_nil, unescape]
  | cons c rest ih =>
      rw [escapeChars_cons]
      by_cases hmem : c ∈ escapedChars
      · rw [unescape_of_some (takeEscaped?_escapeChar hmem _), ih]
      · rw [escapeChar_of_not_mem hmem, List.singleton_append,
          unescape_of_none (takeEscaped?_cons_escapeChars c rest), ih]

end CitationFile.Bibtex
