import CitationFile.Proofs.Bibtex.Brace
import CitationFile.Proofs.Bibtex.Unescape
import Mathlib.Algebra.Ring.Parity
import Mathlib.Data.List.DropRight

/-! What a reader finds in an escaped text. Its braces are balanced and the text before can be read
off it, whatever was typed. TeX, to which two backslashes are a command of their own, finds the
escaped characters only where the typed backslashes before them come in pairs. -/

namespace CitationFile.Bibtex

def unescapeText (text : String) : String :=
  String.ofList (unescape text.toList)

theorem unescapeText_escape (text : String) : unescapeText (escape text) = text := by
  rw [unescapeText, escape, String.toList_ofList, unescape_escapeChars, String.ofList_toList]

/-- Also of texts with backslashes, or with words that look like escaped characters. -/
theorem escape_isLossless :
    (∀ text, Balanced (escape text).toList) ∧
      (∀ text, unescapeText (escape text) = text) ∧ Function.Injective escape :=
  ⟨balanced_escape, unescapeText_escape,
    Function.LeftInverse.injective unescapeText_escape⟩

def backslashes (text : List Char) : Nat :=
  (text.rtakeWhile (· = '\\')).length

@[simp] theorem backslashes_nil : backslashes [] = 0 := by
  simp [backslashes]

@[simp] theorem backslashes_concat_backslash (text : List Char) :
    backslashes (text ++ ['\\']) = backslashes text + 1 := by
  rw [backslashes, List.rtakeWhile_concat_pos _ _ _ (by simp), List.length_append, backslashes,
    List.length_singleton]

private theorem backslashes_concat_of_ne {c : Char} (h : c ≠ '\\') (text : List Char) :
    backslashes (text ++ [c]) = 0 := by
  rw [backslashes, List.rtakeWhile_concat_neg _ _ _ (by simpa using h), List.length_nil]

private theorem exists_escapeChar_eq_concat {c : Char} (h : c ≠ '\\') :
    ∃ front last, escapeChar c = front ++ [last] ∧ last ≠ '\\' := by
  unfold escapeChar
  split
  · exact ⟨['\\'], c, rfl, h⟩
  split
  · exact ⟨'\\' :: ("textbraceleft".toList ++ ['{']), '}', leftBrace_eq, by decide⟩
  split
  · exact ⟨'\\' :: ("textbraceright".toList ++ ['{']), '}', rightBrace_eq, by decide⟩
  · exact ⟨[], c, rfl, h⟩

@[simp] theorem backslashes_escapeChars (text : List Char) :
    backslashes (escapeChars text) = backslashes text := by
  induction text using List.reverseRecOn with
  | nil => rfl
  | append_singleton front c ih =>
      rw [escapeChars_append, escapeChars_cons, escapeChars_nil, List.append_nil]
      by_cases hslash : c = '\\'
      · subst hslash
        have hplain : escapeChar '\\' = ['\\'] := by decide
        rw [hplain, backslashes_concat_backslash, backslashes_concat_backslash, ih]
      · obtain ⟨form, last, hform, hlast⟩ := exists_escapeChar_eq_concat hslash
        rw [hform, ← List.append_assoc, backslashes_concat_of_ne hlast,
          backslashes_concat_of_ne hslash]

theorem mem_escapedChars_of_isSpecial {c : Char} (h : isSpecial c) : c ∈ escapedChars := by
  simp only [isSpecial, Bool.or_eq_true, decide_eq_true_eq] at h
  rcases h with (((rfl | rfl) | rfl) | rfl) | rfl <;> decide

theorem escapeChar_of_isSpecial {c : Char} (h : isSpecial c) : escapeChar c = ['\\', c] := by
  simp [escapeChar, h]

private theorem eq_of_mem_escapeChar {c d : Char} (h : isSpecial c) (hmem : c ∈ escapeChar d) :
    c = d := by
  unfold escapeChar at hmem
  have hne : c ≠ '\\' := by
    rintro rfl
    revert h
    decide
  split at hmem
  · simpa [hne] using hmem
  split at hmem
  · have hnone : leftBrace.all (!isSpecial ·) := by decide
    simpa [h] using List.all_eq_true.mp hnone c hmem
  split at hmem
  · have hnone : rightBrace.all (!isSpecial ·) := by decide
    simpa [h] using List.all_eq_true.mp hnone c hmem
  · exact List.mem_singleton.mp hmem

/-- A place in an escaped text lies between the forms of two characters or within that of one. -/
inductive CutOf (text before after : List Char) : Prop
  | between (left right : List Char) (htyped : text = left ++ right)
      (hfront : before = escapeChars left) (hback : after = escapeChars right)
  | within (left right : List Char) {start rest : List Char} {d : Char}
      (htyped : text = left ++ d :: right) (hform : escapeChar d = start ++ rest)
      (hbegun : start ≠ []) (hunfinished : rest ≠ [])
      (hfront : before = escapeChars left ++ start) (hback : after = rest ++ escapeChars right)

private theorem CutOf.cons {text before after : List Char} (d : Char)
    (h : CutOf text before after) :
    CutOf (d :: text) (escapeChar d ++ before) after := by
  cases h with
  | between left right htyped hfront hback =>
      refine .between (d :: left) right (by rw [htyped]; rfl) ?_ hback
      rw [hfront, escapeChars_cons]
  | within left right htyped hform hbegun hunfinished hfront hback =>
      refine .within (d :: left) right (by rw [htyped]; rfl) hform hbegun hunfinished ?_ hback
      rw [hfront, escapeChars_cons, List.append_assoc]

private theorem cutOf_escapeChars {text before after : List Char}
    (h : escapeChars text = before ++ after) : CutOf text before after := by
  induction text generalizing before with
  | nil =>
      obtain ⟨rfl, rfl⟩ := List.append_eq_nil_iff.mp h.symm
      exact .between [] [] rfl rfl rfl
  | cons d rest ih =>
      rw [escapeChars_cons] at h
      rcases List.append_eq_append_iff.mp h with ⟨middle, rfl, hrest⟩ | ⟨middle, hform, hrest⟩
      · exact (ih hrest).cons d
      · by_cases hstart : before = []
        · subst hstart
          exact .between [] (d :: rest) rfl rfl (by rw [escapeChars_cons, h, List.nil_append])
        by_cases hend : middle = []
        · subst hend
          rw [List.append_nil] at hform
          exact .between [d] rest rfl (by simp [hform]) hrest
        · exact .within [] rest rfl hform hstart hend rfl hrest

/-- A special character in an escaped text was typed, and its backslash stands before it. -/
theorem exists_typed_of_isSpecial {c : Char} (h : isSpecial c) {text before after : List Char}
    (hescaped : escapeChars text = before ++ c :: after) :
    ∃ left right, text = left ++ c :: right ∧ before = escapeChars left ++ ['\\'] := by
  have hne : c ≠ '\\' := by
    rintro rfl
    revert h
    decide
  cases cutOf_escapeChars hescaped with
  | between _ _ _ _ hback =>
      rcases escapeChars_eq_cons hback.symm with hslash | ⟨hplain, -⟩
      · exact absurd hslash hne
      · exact absurd (mem_escapedChars_of_isSpecial h) hplain
  | @within left right _ _ d htyped hform hbegun hunfinished hfront hback =>
      obtain ⟨_, tail, rfl⟩ := List.exists_cons_of_ne_nil hunfinished
      obtain ⟨rfl, -⟩ := List.cons.inj hback
      obtain rfl := eq_of_mem_escapeChar h (d := d) (by simp [hform])
      obtain ⟨slash, more, rfl⟩ := List.exists_cons_of_ne_nil hbegun
      rw [escapeChar_of_isSpecial h] at hform
      obtain ⟨rfl, hmore⟩ := List.cons.inj hform
      obtain rfl : more = [] := by cases more <;> simp_all
      exact ⟨left, right, htyped, hfront⟩

private theorem eq_nil_of_escapeChar_eq {c : Char} {before after : List Char}
    (h : escapeChar c = before ++ '\\' :: after) : before = [] := by
  cases before with
  | nil => rfl
  | cons first more =>
      by_cases hmem : c ∈ escapedChars
      · obtain ⟨word, hword, hplain, -⟩ := escapeChar_of_mem hmem
        rw [hword] at h
        exact absurd (by simp [(List.cons.inj h).2]) hplain
      · rw [escapeChar_of_not_mem hmem] at h
        simp at h

/-- Nothing that was typed makes up the escaped form of a character. -/
theorem exists_typed_of_escapeChar {c : Char} (h : c ∈ escapedChars)
    {text before after : List Char}
    (hescaped : escapeChars text = before ++ (escapeChar c ++ after)) :
    ∃ left right, text = left ++ c :: right ∧ before = escapeChars left := by
  obtain ⟨word, hword, hplain, hmark⟩ := escapeChar_of_mem h
  cases cutOf_escapeChars hescaped with
  | between left right htyped hfront hback =>
      cases right with
      | nil => simp [hword] at hback
      | cons d rest =>
          rw [escapeChars_cons] at hback
          by_cases hd : d ∈ escapedChars
          · obtain ⟨rfl, -⟩ := escapeChar_append_inj h hd hback
            exact ⟨left, rest, htyped, hfront⟩
          · rw [escapeChar_of_not_mem hd, hword] at hback
            have hopens : word <+: escapeChars rest := ⟨after, (List.cons.inj hback).2⟩
            exact absurd hopens (not_opens_escapeChars hplain hmark rest)
  | within _ _ _ hform hbegun hunfinished _ hback =>
      -- A form that begins within another one begins with the backslash of that one.
      obtain ⟨_, tail, rfl⟩ := List.exists_cons_of_ne_nil hunfinished
      rw [hword] at hback
      obtain ⟨rfl, -⟩ := List.cons.inj hback
      exact absurd (eq_nil_of_escapeChar_eq hform) hbegun

/-- Every backslash that escapes something is the last of an odd number of them, so that it is not
itself taken for the second of a pair. -/
structure TakesEffect (output : List Char) : Prop where
  special : ∀ before c after, isSpecial c → output = before ++ c :: after →
    Odd (backslashes before)
  brace : ∀ before command after, command ∈ [leftBrace, rightBrace] →
    output = before ++ (command ++ after) → Odd (backslashes (before ++ ['\\']))

/-- The backslashes that were typed in front of a character to be escaped come in pairs. -/
def HasPairedBackslashes (text : List Char) : Prop :=
  ∀ before c after, c ∈ escapedChars → text = before ++ c :: after → Even (backslashes before)

theorem exists_brace_of_mem {command : List Char} (h : command ∈ [leftBrace, rightBrace]) :
    ∃ c ∈ escapedChars, command = escapeChar c := by
  rcases List.mem_pair.mp h with rfl | rfl
  · exact ⟨'{', by decide, by decide⟩
  · exact ⟨'}', by decide, by decide⟩

theorem mem_commands_of_not_isSpecial {c : Char} (h : c ∈ escapedChars) (hspecial : ¬ isSpecial c) :
    escapeChar c ∈ [leftBrace, rightBrace] := by
  have hall : escapedChars.all fun c =>
      isSpecial c || [leftBrace, rightBrace].contains (escapeChar c) := by
    decide
  simpa [hspecial] using List.all_eq_true.mp hall c h

/-- The escaping looks at single characters, so a backslash typed in front of one undoes it. -/
theorem escape_takesEffect_iff (text : String) :
    TakesEffect (escape text).toList ↔ HasPairedBackslashes text.toList := by
  rw [escape, String.toList_ofList]
  constructor
  · intro h before c after hmem htext
    have hescaped : escapeChars text.toList =
        escapeChars before ++ (escapeChar c ++ escapeChars after) := by
      rw [htext, escapeChars_append, escapeChars_cons]
    have hodd : Odd (backslashes (escapeChars before ++ ['\\'])) := by
      by_cases hspecial : isSpecial c
      · rw [escapeChar_of_isSpecial hspecial] at hescaped
        exact h.special _ c (escapeChars after) hspecial (by simpa using hescaped)
      · exact h.brace _ _ _ (mem_commands_of_not_isSpecial hmem hspecial) hescaped
    rwa [backslashes_concat_backslash, backslashes_escapeChars, Nat.odd_add_one,
      Nat.not_odd_iff_even] at hodd
  · intro h
    have hodd {c : Char} {left right : List Char} (hmem : c ∈ escapedChars)
        (htext : text.toList = left ++ c :: right) :
        Odd (backslashes (escapeChars left ++ ['\\'])) := by
      rw [backslashes_concat_backslash, backslashes_escapeChars, Nat.odd_add_one,
        Nat.not_odd_iff_even]
      exact h left c right hmem htext
    constructor
    · intro before c after hspecial hescaped
      obtain ⟨left, right, htext, rfl⟩ := exists_typed_of_isSpecial hspecial hescaped
      exact hodd (mem_escapedChars_of_isSpecial hspecial) htext
    · intro before command after hcommand hescaped
      obtain ⟨c, hmem, rfl⟩ := exists_brace_of_mem hcommand
      obtain ⟨left, right, htext, rfl⟩ := exists_typed_of_escapeChar hmem hescaped
      exact hodd hmem htext

/-- What is typed as an escaped ampersand comes out as a line break and a bare ampersand. -/
theorem escapedAmpersand_not_takesEffect : ¬ TakesEffect (escape "\\&").toList := by
  intro h
  have hodd : Odd (backslashes ['\\', '\\']) := h.special _ '&' [] (by decide) (by decide)
  exact absurd hodd (by decide)

end CitationFile.Bibtex
