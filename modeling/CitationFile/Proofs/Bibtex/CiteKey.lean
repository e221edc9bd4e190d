import CitationFile.Proofs.Bibtex.Keys

namespace CitationFile.Bibtex

open Text

/-- Whether a text opens with an uppercase letter or a digit, if with anything. -/
def OpensLarge (text : List Char) : Prop :=
  ∀ c ∈ text.head?, c.isUpper ∨ c.isDigit

private theorem OpensLarge.append {front back : List Char} (hfront : OpensLarge front)
    (hback : OpensLarge back) : OpensLarge (front ++ back) := by
  cases front with
  | nil => exact hback
  | cons c rest => exact hfront

/-- What a name or word is shortened to: the ASCII letters and digits of its decomposition, in
lowercase but for the first one. -/
structure IsKeyPartOf (text part : List Char) : Prop where
  spelled : asciiLower part = asciiLower (asciiProjection text)
  alphanumeric : ∀ c ∈ part, c.isAlphanum
  opening : OpensLarge part
  lowercase : ∀ c ∈ part.tail, c.isUpper = false

private theorem isUpper_toLower (c : Char) : c.toLower.isUpper = false := by
  rw [Bool.eq_false_iff, ne_eq, isUpper_iff, toNat_toLower]
  simp only [isUpper_iff]
  split <;> omega

private theorem toLower_toUpper (c : Char) : c.toUpper.toLower = c.toLower := by
  rw [← Char.toNat_inj]
  have hupper := toNat_toUpper c
  simp only [isLower_iff] at hupper
  simp only [toNat_toLower, isUpper_iff]
  split at hupper <;> split <;> split <;> omega

private theorem asciiLower_asciiLower (text : List Char) :
    asciiLower (asciiLower text) = asciiLower text := by
  have hagain : ∀ c : Char, c.toLower.toLower = c.toLower := fun c =>
    toLower_of_not_isUpper (Bool.eq_false_iff.mp (isUpper_toLower c))
  simp only [asciiLower, List.map_map, Function.comp_def, hagain]

private theorem asciiLower_capitalise (text : List Char) :
    asciiLower (capitalise text) = asciiLower text := by
  cases text with
  | nil => rfl
  | cons c rest =>
      rw [capitalise, asciiLower, asciiLower, List.map_cons, List.map_cons, toLower_toUpper]

private theorem opensLarge_capitalise {text : List Char} (h : ∀ c ∈ text, c.isAlphanum) :
    OpensLarge (capitalise text) := by
  cases text with
  | nil => simp [OpensLarge, capitalise]
  | cons c rest =>
      have halphanum := h c List.mem_cons_self
      simp only [isAlphanum_iff, isAlpha_iff, isUpper_iff, isLower_iff, isDigit_iff] at halphanum
      rintro _ ⟨⟩
      rw [isUpper_iff, isDigit_iff, toNat_toUpper]
      simp only [isLower_iff]
      split <;> omega

private theorem isUpper_eq_false_of_mem_tail_capitalise {text : List Char} {c : Char}
    (h : c ∈ (capitalise (asciiLower text)).tail) : c.isUpper = false := by
  cases text with
  | nil => simp [asciiLower, capitalise] at h
  | cons first rest =>
      rw [asciiLower, List.map_cons, capitalise, List.tail_cons, List.mem_map] at h
      obtain ⟨d, -, rfl⟩ := h
      exact isUpper_toLower d

private theorem isKeyPartOf_keyPart (text : List Char) : IsKeyPartOf text (keyPart text) where
  spelled := by rw [keyPart, asciiLower_capitalise, asciiLower_asciiLower]
  alphanumeric := isAlphanum_of_mem_keyPart text
  opening := opensLarge_capitalise fun _ => isAlphanum_of_mem_asciiProjection
  lowercase _ := isUpper_eq_false_of_mem_tail_capitalise

theorem keyPart_nil : keyPart [] = [] := rfl

def keyText? : Author → Option (List Char)
  | .person person => some person.familyNames.toList
  | .entity entity => significantWord? entity.name.toList

/-- The part of a text that may be missing. -/
def IsPartOf (text? : Option (List Char)) (part : List Char) : Prop :=
  match text? with
  | some text => IsKeyPartOf text part
  | none => part = []

theorem isPartOf_keyPart (text? : Option (List Char)) :
    IsPartOf text? (keyPart (text?.getD [])) := by
  cases text? with
  | none => exact keyPart_nil
  | some text => exact isKeyPartOf_keyPart text

private theorem IsPartOf.opensLarge {text? : Option (List Char)} {part : List Char}
    (h : IsPartOf text? part) : OpensLarge part := by
  cases text? with
  | none =>
      cases h
      simp [OpensLarge]
  | some text => exact h.opening

theorem citeKeyChars_eq (author : Option Author) (year : Option Nat) (title : Option String) :
    citeKeyChars author year title =
      keyPart ((author.bind keyText?).getD []) ++ (year.map (Nat.toDigits 10)).getD [] ++
        keyPart ((title.bind (significantWord? ·.toList)).getD []) := by
  have hauthor : (author.map authorPart).getD [] = keyPart ((author.bind keyText?).getD []) := by
    cases author with
    | none => exact keyPart_nil.symm
    | some author =>
        rw [Option.map_some, Option.getD_some, Option.bind_some]
        cases author with
        | person person => rw [authorPart, keyText?, Option.getD_some]
        | entity entity => rw [authorPart, keyText?]
  have hyear : (year.map fun number => number.repr.toList) = year.map (Nat.toDigits 10) := by
    cases year <;> simp
  have htitle : (title.map titlePart).getD [] =
      keyPart ((title.bind (significantWord? ·.toList)).getD []) := by
    cases title with
    | none => exact keyPart_nil.symm
    | some title => rw [Option.map_some, Option.getD_some, titlePart, Option.bind_some]
  rw [citeKeyChars, hauthor, hyear, htitle]

private theorem opensLarge_toDigits (year : Option Nat) :
    OpensLarge ((year.map (Nat.toDigits 10)).getD []) := by
  cases year with
  | none => simp [OpensLarge]
  | some year =>
      intro c hc
      exact .inr (Nat.isDigit_of_mem_toDigits (by decide) (by decide) (List.mem_of_mem_head? hc))

theorem opensLarge_citeKeyChars (author : Option Author) (year : Option Nat)
    (title : Option String) : OpensLarge (citeKeyChars author year title) := by
  rw [citeKeyChars_eq]
  exact ((isPartOf_keyPart _).opensLarge.append (opensLarge_toDigits year)).append
    (isPartOf_keyPart _).opensLarge

/-- A key that every reader of BibTeX takes: ASCII letters and digits, at least one of them, and the
first one large. -/
structure IsLegalKey (key : List Char) : Prop where
  filled : key ≠ []
  alphanumeric : ∀ c ∈ key, c.isAlphanum
  opening : OpensLarge key

theorem toList_citeKeyFor (author : Option Author) (year : Option Nat) (title : Option String) :
    (citeKeyFor author year title).toList =
      if citeKeyChars author year title = [] then "Unknown".toList
      else citeKeyChars author year title := by
  unfold citeKeyFor
  cases citeKeyChars author year title with
  | nil => rfl
  | cons c rest => simp

theorem opensLarge_unknown : OpensLarge "Unknown".toList := by
  rintro _ ⟨⟩
  decide

/-- Whatever scripts the names and titles are written in, the key is legal, and it is run together
from the parts of the author, the year and the title, or `Unknown` if all three come to nothing. -/
theorem citeKeyFor_isLegal (author : Option Author) (year : Option Nat) (title : Option String) :
    IsLegalKey (citeKeyFor author year title).toList ∧
      ∃ name word : List Char, IsPartOf (author.bind keyText?) name ∧
        IsPartOf (title.bind (significantWord? ·.toList)) word ∧
        (citeKeyFor author year title).toList =
          if name ++ (year.map (Nat.toDigits 10)).getD [] ++ word = [] then "Unknown".toList
          else name ++ (year.map (Nat.toDigits 10)).getD [] ++ word := by
  refine ⟨⟨?_, isAlphanum_of_mem_citeKeyFor, ?_⟩, _, _, isPartOf_keyPart _, isPartOf_keyPart _, ?_⟩
  · rw [toList_citeKeyFor]
    split
    · decide
    · assumption
  · rw [toList_citeKeyFor]
    split
    · exact opensLarge_unknown
    · exact opensLarge_citeKeyChars author year title
  · rw [← citeKeyChars_eq, toList_citeKeyFor]

end CitationFile.Bibtex
