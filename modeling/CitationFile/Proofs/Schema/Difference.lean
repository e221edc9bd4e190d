import CitationFile.Proofs.Schema.Field

namespace CitationFile.Schema

open Yaml

def InEntries (change : List (Value × Value) → List (Value × Value) → Prop)
    (left right : Value) : Prop :=
  ∃ entries others, left.mapping? = some entries ∧ right.mapping? = some others ∧
    change entries others

/-- All entries are the same but one, of which the values are related. -/
inductive AtKey (key : String) (change : Value → Value → Prop) :
    List (Value × Value) → List (Value × Value) → Prop
  | intro (before after : List (Value × Value)) {left right : Value}
      (hchanged : change left right) :
      AtKey key change (before ++ (.string key, left) :: after)
        (before ++ (.string key, right) :: after)

/-- Two lists with the same items but one, of which the values are related. -/
def AtItem (index : Nat) (change : Value → Value → Prop) (left right : Value) : Prop :=
  ∃ before item other after, left.sequence? = some (before ++ item :: after) ∧
    right.sequence? = some (before ++ other :: after) ∧ before.length = index ∧ change item other

theorem isNull_of_mapping? {value : Value} {entries : List (Value × Value)}
    (h : value.mapping? = some entries) : value.isNull = false := by
  unfold Value.mapping? at h
  unfold Value.isNull
  split at h
  · simp [*]
  · contradiction

private theorem isNull_of_sequence? {value : Value} {items : List Value}
    (h : value.sequence? = some items) : value.isNull = false := by
  unfold Value.sequence? at h
  unfold Value.isNull
  split at h
  · simp [*]
  · contradiction

theorem InEntries.filled {change : List (Value × Value) → List (Value × Value) → Prop}
    {left right : Value} (h : InEntries change left right) :
    left.isNull = false ∧ right.isNull = false := by
  obtain ⟨entries, others, hleft, hright, -⟩ := h
  exact ⟨isNull_of_mapping? hleft, isNull_of_mapping? hright⟩

theorem AtItem.filled {index : Nat} {change : Value → Value → Prop} {left right : Value}
    (h : AtItem index change left right) : left.isNull = false ∧ right.isNull = false := by
  obtain ⟨before, item, other, after, hleft, hright, -, -⟩ := h
  exact ⟨isNull_of_sequence? hleft, isNull_of_sequence? hright⟩

theorem isKey_string (text name : String) :
    (Value.string text).isKey name = decide (text = name) := rfl

theorem isKey_iff {value : Value} {name : String} : value.isKey name ↔ value = .string name := by
  cases value <;> simp [Value.isKey]

def Agree (keys : String → Prop) (entries others : List (Value × Value)) : Prop :=
  ∀ key, keys key → field? entries key = field? others key

section AtKey

variable {key : String} {change : Value → Value → Prop}
variable {entries others : List (Value × Value)}

theorem entry?_append_cons_self (before after : List (Value × Value)) (key : String)
    (value : Value) :
    Value.entry? (before ++ (.string key, value) :: after) key =
      (Value.entry? before key).or (some value) := by
  have hself : (Value.string key).isKey key := by simp [isKey_string]
  unfold Value.entry?
  cases hbefore : before.find? fun entry => entry.1.isKey key <;>
    simp [List.find?_append, hbefore, hself]

theorem entry?_append_cons_of_not_isKey (before after : List (Value × Value))
    {entry : Value × Value} {key : String} (h : entry.1.isKey key = false) :
    Value.entry? (before ++ entry :: after) key = Value.entry? (before ++ after) key := by
  simp [Value.entry?, List.find?_append, h]

theorem AtKey.agree (h : AtKey key change entries others) : Agree (· ≠ key) entries others := by
  obtain ⟨before, after, hchanged⟩ := h
  intro other hne
  have hkey : (Value.string key).isKey other = false := by simpa [isKey_string] using hne.symm
  unfold field?
  rw [entry?_append_cons_of_not_isKey before after hkey,
    entry?_append_cons_of_not_isKey before after hkey]

theorem AtKey.congr_field? (h : AtKey key change entries others) (read : Option Value → β)
    (hfilled : ∀ left right, change left right → left.isNull = false ∧ right.isNull = false)
    (hread : ∀ left right, change left right → read (some left) = read (some right)) :
    read (field? entries key) = read (field? others key) := by
  obtain ⟨before, after, hchanged⟩ := h
  obtain ⟨hleft, hright⟩ := hfilled _ _ hchanged
  unfold field?
  rw [entry?_append_cons_self, entry?_append_cons_self]
  cases Value.entry? before key with
  | none =>
      simp only [Option.none_or, Option.filter_some, hleft, hright, Bool.not_false, ↓reduceIte]
      exact hread _ _ hchanged
  | some value =>
      -- An earlier entry with the same key hides both values.
      rw [Option.some_or, Option.some_or]

end AtKey

end CitationFile.Schema
