import CitationFile.Text.Quoted
import CitationFile.Proofs.Marks

namespace CitationFile.Text

variable {text : List Char}

private theorem exists_digitChar_of_mem_toDigits {base number : Nat} {c : Char} (hbase : 1 < base)
    (h : c ∈ Nat.toDigits base number) : ∃ digit < base, c = digit.digitChar := by
  induction number using Nat.strongRecOn with
  | ind number ih =>
      rw [Nat.toDigits_eq_if hbase] at h
      split at h
      · rename_i hless
        exact ⟨number, hless, List.mem_singleton.mp h⟩
      · rename_i hmore
        rcases List.mem_append.mp h with hfront | hlast
        · exact ih (number / base) (Nat.div_lt_self (by omega) hbase) hfront
        · exact ⟨number % base, Nat.mod_lt number (by omega), List.mem_singleton.mp hlast⟩

/-- What stands behind the backslash of an escape for the character. -/
structure IsEscapeName (c : Char) (name : List Char) : Prop where
  filled : name ≠ []
  noBlank : ' ' ∉ name
  quote : '"' ∈ name → c = '"'

private theorem exists_codeEscape_eq (c : Char) :
    ∃ name, codeEscape c = '\\' :: name ∧ IsEscapeName c name := by
  have hdigits : ∀ digit < 16, digit.digitChar ≠ ' ' ∧ digit.digitChar ≠ '"' := by decide
  have hcode : ∀ d ∈ Nat.toDigits 16 c.toNat, d ≠ ' ' ∧ d ≠ '"' := by
    intro d hd
    obtain ⟨digit, hless, rfl⟩ := exists_digitChar_of_mem_toDigits (by decide) hd
    exact hdigits digit hless
  refine ⟨'u' :: '{' :: Nat.toDigits 16 c.toNat ++ ['}'], rfl, by simp, ?_, ?_⟩
  · have hfree : ' ' ∉ Nat.toDigits 16 c.toNat := fun hmem => (hcode ' ' hmem).1 rfl
    simpa using hfree
  · have hfree : '"' ∉ Nat.toDigits 16 c.toNat := fun hmem => (hcode '"' hmem).2 rfl
    simp [hfree]

private theorem quoteChar_eq_or (c : Char) :
    quoteChar c = [c] ∨ ∃ name, quoteChar c = '\\' :: name ∧ IsEscapeName c name := by
  unfold quoteChar
  split
  case h_6 => exact .inr ⟨['"'], rfl, by decide, by decide, fun _ => rfl⟩
  case h_7 =>
    split
    · exact .inl rfl
    · split
      · exact .inr (exists_codeEscape_eq c)
      · exact .inl rfl
  -- The characters whose escapes have a name of one character, none of them a quote.
  all_goals exact .inr ⟨[_], rfl, by decide, by decide, by decide⟩

theorem quoteChar_isEscaping : IsEscaping quoteChar := by
  intro c
  rcases quoteChar_eq_or c with hplain | ⟨name, heq, hname⟩
  · exact .inl hplain
  · exact .inr ⟨name, heq, hname.noBlank⟩

theorem quote_mem_quoteChar_iff {c : Char} : '"' ∈ quoteChar c ↔ c = '"' := by
  constructor
  · intro h
    rcases quoteChar_eq_or c with hplain | ⟨name, heq, hname⟩
    · rw [hplain] at h
      exact (List.mem_singleton.mp h).symm
    · rw [heq, List.mem_cons] at h
      exact hname.quote (h.resolve_left (by decide))
  · rintro rfl
    exact List.mem_cons_of_mem '\\' (List.mem_singleton_self '"')

private theorem one_le_length_quoteChar (c : Char) : 1 ≤ (quoteChar c).length := by
  rcases quoteChar_eq_or c with hplain | ⟨name, heq, -⟩
  · rw [hplain]
    exact Nat.le_refl 1
  · rw [heq]
    exact Nat.le_add_left 1 name.length

private theorem length_le_flatMap_quoteChar (text : List Char) :
    text.length ≤ (text.flatMap quoteChar).length := by
  induction text with
  | nil => exact Nat.le_refl 0
  | cons c rest ih =>
      have hone := one_le_length_quoteChar c
      rw [List.flatMap_cons, List.length_append, List.length_cons]
      omega

theorem flatMap_quoteChar_eq_self_iff :
    text.flatMap quoteChar = text ↔ ∀ c ∈ text, quoteChar c = [c] := by
  refine ⟨?_, flatMap_eq_self⟩
  intro h
  induction text with
  | nil => exact fun c hc => absurd hc List.not_mem_nil
  | cons c rest ih =>
      rw [List.flatMap_cons] at h
      rcases quoteChar_eq_or c with hplain | ⟨name, heq, hname⟩
      · rw [hplain, List.singleton_append, List.cons.injEq] at h
        exact List.forall_mem_cons.mpr ⟨hplain, ih h.2⟩
      · have hlong := length_le_flatMap_quoteChar rest
        have hname := List.length_pos_iff.mpr hname.filled
        have hlength := congrArg List.length h
        simp only [heq, List.length_append, List.length_cons] at hlength
        omega

theorem quote_mem_flatMap_quoteChar_iff : '"' ∈ text.flatMap quoteChar ↔ '"' ∈ text := by
  simp only [List.mem_flatMap, quote_mem_quoteChar_iff, exists_eq_right]

theorem takeWhile_flatMap_quoteChar_eq_self_iff :
    (text.flatMap quoteChar).takeWhile (· != '"') = text ↔ ∀ c ∈ text, quoteChar c = [c] := by
  have hwhole : '"' ∉ text →
      (text.flatMap quoteChar).takeWhile (· != '"') = text.flatMap quoteChar := by
    intro hquote
    rw [← quote_mem_flatMap_quoteChar_iff] at hquote
    exact List.takeWhile_eq_self_iff.mpr fun c hc => bne_iff_ne.mpr fun heq => hquote (heq ▸ hc)
  rw [← flatMap_quoteChar_eq_self_iff]
  constructor
  · intro h
    have hquote : '"' ∉ text := by
      rw [← h]
      intro hmem
      have hkept := List.mem_takeWhile_imp hmem
      exact bne_iff_ne.mp hkept rfl
    exact (hwhole hquote).symm.trans h
  · intro h
    have hquote : '"' ∉ text := by
      intro hmem
      have hplain := flatMap_quoteChar_eq_self_iff.mp h '"' hmem
      exact absurd hplain (by decide)
    exact (hwhole hquote).trans h

theorem toList_quote (text : String) :
    (quote text).toList = '"' :: (text.toList.flatMap quoteChar ++ ['"']) :=
  String.toList_ofList

end CitationFile.Text
