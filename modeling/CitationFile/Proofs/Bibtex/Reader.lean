import CitationFile.Proofs.Bibtex.Brace
import CitationFile.Proofs.Bibtex.Keys
import CitationFile.Proofs.Bibtex.Unescape
import CitationFile.Text.Blank
import Mathlib.Data.Option.Basic

namespace CitationFile.Bibtex

open Text

def openAfter (c : Char) (inside : Nat) : Nat :=
  if c = '{' then inside + 1 else if c = '}' then inside - 1 else inside

/-- The text of a group up to the brace that closes it, and the rest behind that brace; within the
group, `inside` others are open. -/
def closeGroup? (inside : Nat) : List Char → Option (List Char × List Char)
  | [] => none
  | c :: rest =>
      if c = '}' ∧ inside = 0 then some ([], rest)
      else (closeGroup? (openAfter c inside) rest).map fun group => (c :: group.1, group.2)

def readValue? (text : List Char) : Option (List Char × List Char) :=
  match dropOpening? ['{'] text with
  | some rest => closeGroup? 0 rest
  | none =>
      let digits := text.takeWhile Char.isDigit
      if digits = [] then none else some (digits, text.dropWhile Char.isDigit)

def Field.ofText (key value : List Char) : Field :=
  ⟨String.ofList key, String.ofList (if isVerbatim key then value else unescape value)⟩

def readField? (text : List Char) : Option (Field × List Char) := do
  let key := text.takeWhile Char.isAlpha
  guard (key ≠ [])
  let valueText ← dropOpening? ['='] (trimStart (text.dropWhile Char.isAlpha))
  let (value, behind) ← readValue? (trimStart valueText)
  let rest ← dropOpening? [','] (trimStart behind)
  return (Field.ofText key value, rest)

private theorem length_of_closeGroup? {inside : Nat} {text value rest : List Char}
    (h : closeGroup? inside text = some (value, rest)) : rest.length < text.length := by
  induction text generalizing inside value with
  | nil => simp [closeGroup?] at h
  | cons c more ih =>
      rw [closeGroup?] at h
      rw [List.length_cons]
      split at h
      · obtain ⟨-, rfl⟩ := Prod.mk.inj (Option.some.inj h)
        exact Nat.lt_succ_self _
      · obtain ⟨⟨value', rest'⟩, hgroup, heq⟩ := Option.map_eq_some_iff.mp h
        obtain ⟨-, rfl⟩ := Prod.mk.inj heq
        exact Nat.lt_succ_of_lt (ih hgroup)

private theorem length_of_dropOpening? {c : Char} {text rest : List Char}
    (h : dropOpening? [c] text = some rest) : rest.length < text.length := by
  rw [dropOpening?_eq_some_iff.mp h]
  simp

private theorem length_of_readValue? {text value rest : List Char}
    (h : readValue? text = some (value, rest)) : rest.length ≤ text.length := by
  unfold readValue? at h
  cases hopen : dropOpening? ['{'] text with
  | some inner =>
      rw [hopen] at h
      have hinner := length_of_dropOpening? hopen
      have hrest := length_of_closeGroup? h
      omega
  | none =>
      simp only [hopen] at h
      split at h
      · cases h
      · obtain ⟨-, rfl⟩ := Prod.mk.inj (Option.some.inj h)
        exact (List.dropWhile_suffix Char.isDigit).length_le

private theorem length_of_readField? {text rest : List Char} {field : Field}
    (h : readField? text = some (field, rest)) : rest.length < text.length := by
  unfold readField? at h
  simp only [Option.bind_eq_bind, Option.bind_eq_some_iff, Prod.exists] at h
  obtain ⟨-, -, valueText, hequals, value, behind, hvalue, comma, hcomma, hfield⟩ := h
  obtain ⟨-, rfl⟩ := Prod.mk.inj (Option.some.inj hfield)
  have hkey := (List.dropWhile_suffix (l := text) Char.isAlpha).length_le
  have hblanks := length_trimStart_le (text.dropWhile Char.isAlpha)
  have hvalueText := length_of_dropOpening? hequals
  have hbehind := length_of_readValue? hvalue
  have hvalueBlanks := length_trimStart_le valueText
  have hrest := length_of_dropOpening? hcomma
  have hbehindBlanks := length_trimStart_le behind
  omega

/-- Field after field up to the brace that closes the entry, and the rest behind that brace. -/
def readFields? (text : List Char) : Option (List Field × List Char) :=
  match dropOpening? ['}'] (trimStart text) with
  | some rest => some ([], rest)
  | none =>
      match _taken : readField? (trimStart text) with
      | some (field, rest) => (readFields? rest).map fun fields => (field :: fields.1, fields.2)
      | none => none
termination_by text.length
decreasing_by
  have hblanks := length_trimStart_le text
  have hrest := length_of_readField? _taken
  omega

def isCiteKeyChar (c : Char) : Bool :=
  c ≠ ',' && c ≠ '{' && c ≠ '}' && c ≠ '\n'

/-- One entry, with nothing behind it. -/
def readEntry? (text : List Char) : Option Entry := do
  let typeText ← dropOpening? ['@'] text
  let type ← EntryType.ofName? (String.ofList (typeText.takeWhile Char.isAlpha))
  let body ← dropOpening? ['{'] (typeText.dropWhile Char.isAlpha)
  let fieldsText ← dropOpening? [','] (body.dropWhile isCiteKeyChar)
  let (fields, rest) ← readFields? fieldsText
  guard (rest = [])
  return ⟨String.ofList (body.takeWhile isCiteKeyChar), type, fields⟩

def Entry.read? (text : String) : Option Entry :=
  readEntry? text.toList

end CitationFile.Bibtex
