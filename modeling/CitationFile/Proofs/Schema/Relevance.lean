import CitationFile.Proofs.Schema.Difference
import CitationFile.Proofs.Schema.Distinct
import Mathlib.Logic.Relation

/-! Validation reads nothing but the values of known keys that are not null: neither the order of
the entries of a mapping, nor entries under other keys, nor null values change its outcome. -/

namespace CitationFile

namespace Schema

open Yaml

/-- Changes of a mapping with distinct keys that leave its known fields alone. -/
inductive Immaterial (known : List String) :
    List (Value × Value) → List (Value × Value) → Prop
  | permuted {entries others : List (Value × Value)}
      (hdistinct : entries.Pairwise fun entry other => entry.1.same other.1 = false)
      (hpermuted : entries.Perm others) : Immaterial known entries others
  | unknown (before after : List (Value × Value)) {key value : Value}
      (hunknown : ∀ name ∈ known, key.isKey name = false) :
      Immaterial known (before ++ after) (before ++ (key, value) :: after)
  | null (before after : List (Value × Value)) {name : String} {value : Value}
      (hnull : value.isNull) (hfresh : ∀ entry ∈ before ++ after, entry.1.isKey name = false) :
      Immaterial known (before ++ after) (before ++ (.string name, value) :: after)

private theorem entry?_eq_of_perm {entries others : List (Value × Value)}
    (hdistinct : entries.Pairwise fun entry other => entry.1.same other.1 = false)
    (h : entries.Perm others) (name : String) :
    Value.entry? entries name = Value.entry? others name := by
  let named (entry : Value × Value) : Bool := entry.1.isKey name
  -- There is at most one entry of the name, so that no order is left among those of the name.
  have hfilter : entries.filter named = others.filter named := by
    have hperm := h.filter named
    cases hentries : entries.filter named with
    | nil =>
        rw [hentries] at hperm
        exact (List.nil_perm.mp hperm).symm
    | cons entry rest =>
        cases rest with
        | nil =>
            rw [hentries] at hperm
            exact (List.perm_singleton.mp hperm.symm).symm
        | cons other rest =>
            have hpair := hdistinct.filter named
            have hnamed : ∀ entry ∈ entries.filter named, entry.1 = .string name :=
              fun entry hentry => isKey_iff.mp (List.mem_filter.mp hentry).2
            rw [hentries] at hpair hnamed
            have hsame := (List.pairwise_cons.mp hpair).1 other (by simp)
            rw [hnamed entry (by simp), hnamed other (by simp)] at hsame
            simp [Value.same] at hsame
  unfold Value.entry?
  rw [← List.head?_filter, ← List.head?_filter]
  exact congrArg (fun found => found.head?.map (·.2)) hfilter

theorem entry?_eq_none {entries : List (Value × Value)} {name : String}
    (h : ∀ entry ∈ entries, entry.1.isKey name = false) : Value.entry? entries name = none := by
  rw [Value.entry?, Option.map_eq_none_iff, List.find?_eq_none]
  simpa using h

private theorem Immaterial.agree {known : List String} {entries others : List (Value × Value)}
    (h : Immaterial known entries others) : Agree (· ∈ known) entries others := by
  intro key hkey
  unfold field?
  cases h with
  | permuted hdistinct hperm => rw [entry?_eq_of_perm hdistinct hperm]
  | unknown before after hunknown =>
      rw [entry?_append_cons_of_not_isKey before after (hunknown key hkey)]
  | @null before after name value hnull hfresh =>
      by_cases heq : name = key
      · subst name
        have habsent := entry?_eq_none hfresh
        have hbefore : Value.entry? before key = none :=
          entry?_eq_none fun entry hentry => hfresh entry (List.mem_append_left after hentry)
        rw [habsent, entry?_append_cons_self, hbefore, Option.none_or, Option.filter_some, hnull]
        rfl
      · have hother : (Value.string name).isKey key = false := by simpa [isKey_string] using heq
        rw [entry?_append_cons_of_not_isKey before after hother]

/-- A change of values that a check does not see. -/
def Check.Ignores (check : Check α) (change : Value → Value → Prop) : Prop :=
  ∀ path left right, change left right → check path left = check path right

def Alike (check : Check α) (key : String) (entries others : List (Value × Value)) : Prop :=
  ∀ path, (field? entries key).map (check path) = (field? others key).map (check path)

section Fields

variable {check : Check α} {key : String} {entries others : List (Value × Value)}

private theorem Agree.alike {keys : String → Prop} (h : Agree keys entries others) (hkey : keys key)
    (check : Check α) : Alike check key entries others := by
  intro path
  rw [h key hkey]

private theorem Check.Ignores.alike {change : Value → Value → Prop} (h : check.Ignores change)
    (hfilled : ∀ left right, change left right → left.isNull = false ∧ right.isNull = false)
    (hentries : AtKey key change entries others) : Alike check key entries others := by
  intro path
  exact hentries.congr_field? (Option.map (check path)) hfilled fun left right hchange =>
    congrArg some (h path left right hchange)

private theorem Alike.required_eq (h : Alike check key entries others) (path : Path) :
    required ⟨path, entries⟩ key check = required ⟨path, others⟩ key check := by
  have hrequired : ∀ entries, required ⟨path, entries⟩ key check =
      ((field? entries key).map (check (path ++ [.key key]))).getD
        (.reject (path ++ [.key key]) .missing) := by
    intro entries
    unfold required
    rw [Fields.find?_eq]
    cases field? entries key <;> rfl
  rw [hrequired entries, h, ← hrequired others]

private theorem Alike.optional_eq (h : Alike check key entries others) (path : Path) :
    optional ⟨path, entries⟩ key check = optional ⟨path, others⟩ key check := by
  have hoptional : ∀ entries, optional ⟨path, entries⟩ key check =
      (((field? entries key).map (check (path ++ [.key key]))).map (Checked.map some)).getD
        (.accept none) := by
    intro entries
    unfold optional
    rw [Fields.find?_eq]
    cases field? entries key <;> rfl
  rw [hoptional entries, h, ← hoptional others]

private theorem Alike.optionalList_eq {check : Check (List α)} (h : Alike check key entries others)
    (path : Path) :
    optionalList ⟨path, entries⟩ key check = optionalList ⟨path, others⟩ key check := by
  rw [optionalList, optionalList, h.optional_eq]

end Fields

section Agree

variable {keys : String → Prop} {key : String} {entries others : List (Value × Value)}

private theorem Agree.mono {fewer : String → Prop} (h : Agree keys entries others)
    (himp : ∀ key, fewer key → keys key) : Agree fewer entries others :=
  fun key hkey => h key (himp key hkey)

private theorem Agree.required_eq (h : Agree keys entries others) (path : Path) (hkey : keys key)
    (check : Check α) : required ⟨path, entries⟩ key check = required ⟨path, others⟩ key check :=
  (h.alike hkey check).required_eq path

private theorem Agree.optional_eq (h : Agree keys entries others) (path : Path) (hkey : keys key)
    (check : Check α) : optional ⟨path, entries⟩ key check = optional ⟨path, others⟩ key check :=
  (h.alike hkey check).optional_eq path

private theorem Agree.optionalList_eq (h : Agree keys entries others) (path : Path)
    (hkey : keys key) (check : Check (List α)) :
    optionalList ⟨path, entries⟩ key check = optionalList ⟨path, others⟩ key check :=
  (h.alike hkey check).optionalList_eq path

end Agree

private theorem Check.Ignores.listOf {check : Check α} {change : Value → Value → Prop}
    (h : check.Ignores change) (index : Nat) : (listOf check).Ignores (AtItem index change) := by
  rintro path left right ⟨before, item, other, after, hleft, hright, rfl, hchange⟩
  simp only [Schema.listOf, hleft, hright, List.mapIdx_append, List.mapIdx_cons]
  rw [h _ item other hchange]

def authorKeys : List String :=
  ["name", "family-names", "given-names", "affiliation", "orcid", "email"]

private theorem author_ignores : author.Ignores (InEntries (Immaterial authorKeys)) := by
  rintro path left right ⟨entries, others, hleft, hright, hchange⟩
  have h := hchange.agree
  have hname : field? entries "name" = field? others "name" := h "name" (by decide)
  have hfamily : field? entries "family-names" = field? others "family-names" :=
    h "family-names" (by decide)
  simp (disch := decide) only [author, hleft, hright, Fields.find?_eq, hname, hfamily, entity,
    person, h.required_eq, h.optional_eq]

private theorem authors_ignores (index : Nat) :
    authors.Ignores (AtItem index (InEntries (Immaterial authorKeys))) := by
  intro path left right h
  obtain ⟨before, item, other, after, hleft, hright, -, -⟩ := id h
  rw [authors_of_ne_empty (by simp [hleft]), authors_of_ne_empty (by simp [hright])]
  exact author_ignores.listOf index path left right h

def identifierKeys : List String :=
  ["type", "value", "description"]

private theorem identifier_ignores :
    identifier.Ignores (InEntries (Immaterial identifierKeys)) := by
  rintro path left right ⟨entries, others, hleft, hright, hchange⟩
  have h := hchange.agree
  simp (disch := decide) only [identifier, hleft, hright, typedValue, h.required_eq, h.optional_eq]
  rfl

def citationKeys : List String :=
  ["type", "authors", "title", "journal", "publisher", "volume", "number", "issue", "pages",
    "year", "month", "doi", "url"]

/-- Changes in the mapping of a citation, or in that of one of its authors. -/
inductive CitationRevised (left right : Value) : Prop
  | entries (hchange : InEntries (Immaterial citationKeys) left right)
  | author (index : Nat)
      (hchange : InEntries (AtKey "authors" (AtItem index (InEntries (Immaterial authorKeys))))
        left right)

private theorem CitationRevised.filled {left right : Value} (h : CitationRevised left right) :
    left.isNull = false ∧ right.isNull = false := by
  cases h with
  | entries hchange => exact hchange.filled
  | author index hchange => exact hchange.filled

private theorem preferredCitation_congr (path : Path) {left right : Value}
    {entries others : List (Value × Value)} (hleft : left.mapping? = some entries)
    (hright : right.mapping? = some others)
    (h : Agree (fun key => key ∈ citationKeys ∧ key ≠ "authors") entries others)
    (hauthors : Alike authors "authors" entries others) :
    preferredCitation path left = preferredCitation path right := by
  have hnumber : numberKey ⟨path, entries⟩ = numberKey ⟨path, others⟩ :=
    numberKey_congr (h "number" (by decide))
  -- The key of the number depends on the mapping; whichever it is, it is a known one.
  have hread : numberKey ⟨path, others⟩ ∈ citationKeys ∧ numberKey ⟨path, others⟩ ≠ "authors" := by
    rcases numberKey_eq ⟨path, others⟩ with heq | heq <;> rw [heq] <;> decide
  simp (disch := decide) only [preferredCitation, hleft, hright, hauthors.required_eq,
    h.required_eq, h.optional_eq, hnumber, h.optional_eq path hread]
  rfl

private theorem preferredCitation_ignores : preferredCitation.Ignores CitationRevised := by
  intro path left right h
  cases h with
  | entries hchange =>
      obtain ⟨entries, others, hleft, hright, hchange⟩ := hchange
      have hagree := hchange.agree
      exact preferredCitation_congr path hleft hright (hagree.mono fun _ => And.left)
        (hagree.alike (by decide) authors)
  | author index hchange =>
      obtain ⟨entries, others, hleft, hright, hchange⟩ := hchange
      exact preferredCitation_congr path hleft hright (hchange.agree.mono fun _ => And.right)
        ((authors_ignores index).alike (fun _ _ => AtItem.filled) hchange)

/-- Changes in the mapping at the root, or in one of the mappings below it. -/
inductive Revised (left right : Value) : Prop
  | entries (hchange : InEntries (Immaterial recordKeys) left right)
  | author (index : Nat)
      (hchange : InEntries (AtKey "authors" (AtItem index (InEntries (Immaterial authorKeys))))
        left right)
  | identifier (index : Nat)
      (hchange : InEntries
        (AtKey "identifiers" (AtItem index (InEntries (Immaterial identifierKeys)))) left right)
  | citation (hchange : InEntries (AtKey "preferred-citation" CitationRevised) left right)

def nestedKeys : List String :=
  ["authors", "identifiers", "preferred-citation"]

private theorem record_congr (path : Path) {entries others : List (Value × Value)}
    (h : Agree (fun key => key ∈ recordKeys ∧ key ∉ nestedKeys) entries others)
    (hauthors : Alike authors "authors" entries others)
    (hidentifiers : Alike (listOf identifier) "identifiers" entries others)
    (hcitation : Alike preferredCitation "preferred-citation" entries others) :
    record ⟨path, entries⟩ = record ⟨path, others⟩ := by
  simp (disch := decide) only [record, hauthors.required_eq, hidentifiers.optionalList_eq,
    hcitation.optional_eq, h.required_eq, h.optional_eq, h.optionalList_eq]

private theorem AtKey.agree_elsewhere {change : Value → Value → Prop} {key : String}
    {entries others : List (Value × Value)} (h : AtKey key change entries others)
    (hkey : key ∈ nestedKeys) :
    Agree (fun key => key ∈ recordKeys ∧ key ∉ nestedKeys) entries others :=
  h.agree.mono fun _ hother => (ne_of_mem_of_not_mem hkey hother.2).symm

private theorem document_congr {change : List (Value × Value) → List (Value × Value) → Prop}
    (hrecord : ∀ entries others, change entries others →
      record ⟨[], entries⟩ = record ⟨[], others⟩) {left right : Value}
    (h : InEntries change left right) : document left = document right := by
  obtain ⟨entries, others, hleft, hright, hchange⟩ := h
  rw [document_eq_record hleft, document_eq_record hright]
  exact hrecord entries others hchange

theorem document_eq_of_revised {left right : Value} (h : Revised left right) :
    document left = document right := by
  cases h with
  | entries hchange =>
      refine document_congr (fun entries others hchange => ?_) hchange
      have h := hchange.agree
      exact record_congr [] (h.mono fun _ => And.left) (h.alike (by decide) authors)
        (h.alike (by decide) _) (h.alike (by decide) preferredCitation)
  | author index hchange =>
      refine document_congr (fun entries others hchange => ?_) hchange
      have h := hchange.agree
      exact record_congr [] (hchange.agree_elsewhere (by decide))
        ((authors_ignores index).alike (fun _ _ => AtItem.filled) hchange)
        (h.alike (by decide) _) (h.alike (by decide) preferredCitation)
  | identifier index hchange =>
      refine document_congr (fun entries others hchange => ?_) hchange
      have h := hchange.agree
      exact record_congr [] (hchange.agree_elsewhere (by decide)) (h.alike (by decide) authors)
        ((identifier_ignores.listOf index).alike (fun _ _ => AtItem.filled) hchange)
        (h.alike (by decide) preferredCitation)
  | citation hchange =>
      refine document_congr (fun entries others hchange => ?_) hchange
      have h := hchange.agree
      exact record_congr [] (hchange.agree_elsewhere (by decide)) (h.alike (by decide) authors)
        (h.alike (by decide) _)
        (preferredCitation_ignores.alike (fun _ _ => CitationRevised.filled) hchange)

end Schema

namespace Validated

/-- Documents that arise from each other by any number of revisions, in either direction, have the
same record and warnings, or the same report. -/
theorem ofDocument_eq_of_revised {left right : Yaml.Value}
    (h : Relation.EqvGen Schema.Revised left right) : ofDocument left = ofDocument right := by
  induction h with
  | rel left right hrevised =>
      rw [ofDocument, ofDocument, Schema.document_eq_of_revised hrevised]
  | refl root => rfl
  | symm left right _ ih => exact ih.symm
  | trans left middle right _ _ ih ihnext => exact ih.trans ihnext

/-- A document whose author and preferred citation have these entries. -/
def citingEntries (author citation : List (Yaml.Value × Yaml.Value)) :
    List (Yaml.Value × Yaml.Value) :=
  [(.string "cff-version", .string "1.2.0"), (.string "message", .string "Cite it."),
    (.string "title", .string "Tools"), (.string "authors", .sequence [.mapping author]),
    (.string "preferred-citation", .mapping citation)]

def teamEntries : List (Yaml.Value × Yaml.Value) :=
  [(.string "name", .string "The Team")]

def articleEntries : List (Yaml.Value × Yaml.Value) :=
  [(.string "type", .string "article"), (.string "title", .string "On Tools"),
    (.string "authors", .sequence [.mapping teamEntries]),
    (.string "issue", .number (.integer 3))]

theorem citingDocument_eq_of_revised :
    let numbered := (.number (.integer 7), .bool true) :: teamEntries
    let nullified := (.string "number", .null) :: articleEntries
    let left := Yaml.Value.mapping (citingEntries teamEntries articleEntries)
    let right := Yaml.Value.mapping (citingEntries numbered nullified).reverse
    Relation.EqvGen Schema.Revised left right ∧ ofDocument left = ofDocument right := by
  intro numbered nullified left right
  have hauthor : Schema.Revised left (.mapping (citingEntries numbered articleEntries)) :=
    .author 0 ⟨_, _, rfl, rfl, .intro ((citingEntries [] []).take 3)
      [(.string "preferred-citation", .mapping articleEntries)]
      ⟨[], .mapping teamEntries, .mapping numbered, [], rfl, rfl, rfl,
        _, _, rfl, rfl, .unknown [] teamEntries (by decide)⟩⟩
  have hcitation : Schema.Revised (.mapping (citingEntries numbered articleEntries))
      (.mapping (citingEntries numbered nullified)) :=
    .citation ⟨_, _, rfl, rfl, .intro ((citingEntries numbered []).take 4) []
      (.entries ⟨_, _, rfl, rfl, .null [] articleEntries rfl (by decide)⟩)⟩
  have hreversed : Schema.Revised (.mapping (citingEntries numbered nullified)) right :=
    .entries ⟨_, _, rfl, rfl, .permuted (by simp [citingEntries, Yaml.Value.same])
      (List.reverse_perm _).symm⟩
  have hrevised : Relation.EqvGen Schema.Revised left right :=
    (.trans _ _ _ (.rel _ _ hauthor) (.trans _ _ _ (.rel _ _ hcitation) (.rel _ _ hreversed)))
  exact ⟨hrevised, ofDocument_eq_of_revised hrevised⟩

end Validated

end CitationFile
