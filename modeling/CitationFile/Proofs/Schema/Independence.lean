import CitationFile.Proofs.Schema.Difference
import CitationFile.Proofs.Schema.Distinct

/-! Violations are told independently of one another: where two documents differ in one field, or in
one item of a list, the problems found elsewhere are the same and in the same order. -/

namespace CitationFile

namespace Schema

open Yaml

namespace Checked

/-- The problems that lie neither at a path nor below it. -/
def outside (path : Path) (result : Checked α) : List Problem :=
  result.problems.filter fun problem => !path.isPrefixOf problem.path

@[simp] theorem outside_verdict (path : Path) (result : Checked α) :
    outside path result.verdict = outside path result := by
  simp [outside]

private theorem outside_verdicts (path : Path) (results : List (Checked Unit)) :
    outside path (verdicts results) = results.flatMap (outside path) := by
  rw [outside, problems_verdicts, List.filter_flatMap]
  rfl

theorem IsOrderly.outside_eq_nil {path : Path} {result : Checked α} (h : result.IsOrderly path) :
    outside path result = [] := by
  rw [outside, List.filter_eq_nil_iff]
  intro problem hproblem
  obtain ⟨rest, -, heq⟩ := h.problems.below _ (List.mem_map_of_mem hproblem)
  simp [heq]

end Checked

/-- A change of the value, at some steps below it, is not seen outside of these steps. -/
def Check.Confines (check : Check α) (steps : Path) (change : Value → Value → Prop) : Prop :=
  ∀ path left right, change left right →
    (check path left).outside (path ++ steps) = (check path right).outside (path ++ steps)

def FieldCheck.Confines (check : FieldCheck) (steps : Path) (change : Value → Value → Prop) :
    Prop :=
  ∀ path left right, change left right →
    (check.found path (some left)).outside (path ++ steps) =
      (check.found path (some right)).outside (path ++ steps)

section Confined

variable {check : Check α} {steps : Path} {change : Value → Value → Prop}

private theorem Check.Confines.required (h : check.Confines steps change) (key : String) :
    (FieldCheck.required key check).Confines steps change := by
  intro path left right hchange
  simpa [FieldCheck.required] using h path left right hchange

private theorem Check.Confines.optional (h : check.Confines steps change) (key : String) :
    (FieldCheck.optional key check).Confines steps change := by
  intro path left right hchange
  simpa [FieldCheck.optional] using h path left right hchange

end Confined

section Fields

variable {checks : List FieldCheck} {entries others : List (Value × Value)}
variable {key : String}

private theorem outside_checkFields (above : Path) (checks : List FieldCheck) (fields : Fields) :
    (checkFields checks fields).outside above =
      checks.flatMap fun check => (check.verdict fields).outside above := by
  rw [checkFields, Checked.outside_verdicts, List.flatMap_map]

private theorem FieldCheck.verdict_congr {check : FieldCheck} (path : Path)
    (h : field? entries check.key = field? others check.key) :
    check.verdict ⟨path, entries⟩ = check.verdict ⟨path, others⟩ := by
  unfold FieldCheck.verdict
  rw [Fields.find?_eq, Fields.find?_eq]
  exact congrArg (check.found _) h

private theorem outside_checkFields_of_agree (path : Path)
    (horderly : ∀ check ∈ checks, check.IsOrderly) (h : Agree (· ≠ key) entries others) :
    (checkFields checks ⟨path, entries⟩).outside (path ++ [.key key]) =
      (checkFields checks ⟨path, others⟩).outside (path ++ [.key key]) := by
  rw [outside_checkFields, outside_checkFields]
  apply List.flatMap_congr
  intro check hcheck
  by_cases hkey : check.key = key
  · subst key
    -- The problems of a field lie at its key, whatever is there or not.
    have hnone := fun entries => (horderly check hcheck ⟨path, entries⟩).outside_eq_nil
    exact (hnone entries).trans (hnone others).symm
  · rw [FieldCheck.verdict_congr path (h check.key hkey)]

private theorem outside_checkFields_of_atKey (path : Path) {field : FieldCheck} {steps : Path}
    {change : Value → Value → Prop} (hdistinct : (checks.map (·.key)).Nodup)
    (hfield : field ∈ checks) (hconfines : field.Confines steps change)
    (hfilled : ∀ left right, change left right → left.isNull = false ∧ right.isNull = false)
    (h : AtKey field.key change entries others) :
    (checkFields checks ⟨path, entries⟩).outside (path ++ .key field.key :: steps) =
      (checkFields checks ⟨path, others⟩).outside (path ++ .key field.key :: steps) := by
  rw [outside_checkFields, outside_checkFields]
  apply List.flatMap_congr
  intro check hcheck
  by_cases hkey : check.key = field.key
  · have hsame : check = field := List.inj_on_of_nodup_map hdistinct hcheck hfield hkey
    subst hsame
    unfold FieldCheck.verdict Fields.pathOf
    rw [Fields.find?_eq, Fields.find?_eq, List.append_cons]
    exact h.congr_field? (fun found => (check.found (path ++ [.key check.key]) found).outside _)
      hfilled (hconfines (path ++ [.key check.key]))
  · rw [FieldCheck.verdict_congr path (h.agree check.key hkey)]

end Fields

def anyChange (_ _ : Value) : Prop :=
  True

private theorem outside_listOf (above : Path) (check : Check α) (path : Path) {value : Value}
    {items : List Value} (h : value.sequence? = some items) :
    (listOf check path value).outside above =
      items.zipIdx.flatMap fun entry =>
        (check (path ++ [.item entry.2]) entry.1).outside above := by
  rw [← Checked.outside_verdict, verdict_listOf check path h, Checked.outside_verdicts,
    List.flatMap_map]
  simp

private theorem Check.IsOrderly.listOf_confines {check : Check α} (h : check.IsOrderly)
    (index : Nat) :
    (Schema.listOf check).Confines [.item index] (AtItem index anyChange) := by
  rintro path left right ⟨before, item, other, after, hleft, hright, rfl, -⟩
  have hnone := fun item => (h (path ++ [.item before.length]) item).outside_eq_nil
  rw [outside_listOf _ check path hleft, outside_listOf _ check path hright]
  simp [List.zipIdx_append, hnone]

private theorem authors_confines (index : Nat) :
    authors.Confines [.item index] (AtItem index anyChange) := by
  intro path left right h
  obtain ⟨before, item, other, after, hleft, hright, -, -⟩ := id h
  rw [authors_of_ne_empty (by simp [hleft]), authors_of_ne_empty (by simp [hright])]
  exact author_isOrderly.listOf_confines index path left right h

private theorem outside_preferredCitation (above path : Path) {value : Value}
    {entries : List (Value × Value)} (h : value.mapping? = some entries) :
    (preferredCitation path value).outside above =
      (checkFields (citationFields ⟨path, entries⟩) ⟨path, entries⟩).outside above := by
  obtain ⟨citation, heq, hverdict⟩ := exists_preferredCitation_eq path h
  rw [heq, ← hverdict, Checked.outside_verdict, Checked.outside, problems_andThen_checkJournal]
  rfl

private theorem preferredCitation_confines (index : Nat) :
    preferredCitation.Confines [.key "authors", .item index]
      (InEntries (AtKey "authors" (AtItem index anyChange))) := by
  rintro path left right ⟨entries, others, hleft, hright, h⟩
  have hnumber : numberKey ⟨path, entries⟩ = numberKey ⟨path, others⟩ :=
    numberKey_congr (h.agree "number" (by decide))
  have hfields : citationFields ⟨path, entries⟩ = citationFields ⟨path, others⟩ := by
    rw [citationFields, citationFields, hnumber]
  rw [outside_preferredCitation _ path hleft, outside_preferredCitation _ path hright, ← hfields]
  have hauthors : .required "authors" authors ∈ citationFields ⟨path, entries⟩ := by
    simp [citationFields]
  exact outside_checkFields_of_atKey path (citationFields_keys _).1 hauthors
    ((authors_confines index).required "authors") (fun _ _ => AtItem.filled) h

/-- Two documents that differ in one field of the root, or in one item of one of its lists. -/
inductive DifferAt : Path → Value → Value → Prop
  | key (name : String) {left right : Value}
      (hentries : InEntries (fun entries others =>
        (entries.filter fun entry => !entry.1.isKey name) =
          others.filter fun entry => !entry.1.isKey name) left right) :
      DifferAt [.key name] left right
  | item (name : String) (index : Nat) {left right : Value}
      (hlisted : name ∈ ["authors", "identifiers", "keywords"])
      (hitems : InEntries (AtKey name (AtItem index anyChange)) left right) :
      DifferAt [.key name, .item index] left right
  | citationAuthor (index : Nat) {left right : Value}
      (hauthors : InEntries (AtKey "preferred-citation"
        (InEntries (AtKey "authors" (AtItem index anyChange)))) left right) :
      DifferAt [.key "preferred-citation", .key "authors", .item index] left right

private theorem agree_of_filter_eq {name : String} {entries others : List (Value × Value)}
    (h : (entries.filter fun entry => !entry.1.isKey name) =
      others.filter fun entry => !entry.1.isKey name) : Agree (· ≠ name) entries others := by
  intro key hne
  have hskip : ∀ entries : List (Value × Value),
      Value.entry? (entries.filter fun entry => !entry.1.isKey name) key =
        Value.entry? entries key := by
    intro entries
    unfold Value.entry?
    rw [List.find?_filter]
    congr 2
    funext entry
    by_cases hkey : entry.1.isKey key
    · simp [isKey_iff.mp hkey, isKey_string, hne]
    · simp [hkey]
  unfold field?
  rw [← hskip entries, h, hskip others]

private theorem outside_record (above : Path) (fields : Fields) :
    (record fields).outside above = (checkFields recordFields fields).outside above := by
  rw [← verdict_record, Checked.outside_verdict]

private theorem document_outside_of_atKey {field : FieldCheck} {steps : Path}
    {change : Value → Value → Prop} {left right : Value} (hfield : field ∈ recordFields)
    (hconfines : field.Confines steps change)
    (hfilled : ∀ left right, change left right → left.isNull = false ∧ right.isNull = false)
    (h : InEntries (AtKey field.key change) left right) :
    (document left).outside (.key field.key :: steps) =
      (document right).outside (.key field.key :: steps) := by
  obtain ⟨entries, others, hleft, hright, h⟩ := h
  rw [document_eq_record hleft, document_eq_record hright, outside_record, outside_record]
  exact outside_checkFields_of_atKey [] recordKeys_nodup hfield hconfines hfilled h

theorem document_outside_eq {path : Path} {left right : Value} (h : DifferAt path left right) :
    (document left).outside path = (document right).outside path := by
  cases h with
  | key name hentries =>
      obtain ⟨entries, others, hleft, hright, h⟩ := hentries
      rw [document_eq_record hleft, document_eq_record hright, outside_record, outside_record]
      exact outside_checkFields_of_agree [] recordFields_isOrderly (agree_of_filter_eq h)
  | item name index hlisted hitems =>
      simp only [List.mem_cons, List.not_mem_nil, or_false] at hlisted
      rcases hlisted with rfl | rfl | rfl
      · have hfield : .required "authors" authors ∈ recordFields := by simp [recordFields]
        exact document_outside_of_atKey hfield ((authors_confines index).required "authors")
          (fun _ _ => AtItem.filled) hitems
      · have hfield : .optional "identifiers" (listOf identifier) ∈ recordFields := by
          simp [recordFields]
        exact document_outside_of_atKey hfield
          ((identifier_isOrderly.listOf_confines index).optional "identifiers")
          (fun _ _ => AtItem.filled) hitems
      · have hfield : .optional "keywords" (listOf keyword) ∈ recordFields := by
          simp [recordFields]
        exact document_outside_of_atKey hfield
          ((keyword_isClear.isOrderly.listOf_confines index).optional "keywords")
          (fun _ _ => AtItem.filled) hitems
  | citationAuthor index hauthors =>
      have hfield : .optional "preferred-citation" preferredCitation ∈ recordFields := by
        simp [recordFields]
      exact document_outside_of_atKey hfield
        ((preferredCitation_confines index).optional "preferred-citation")
        (fun _ _ => InEntries.filled) hauthors

theorem DifferAt.ne_nil {path : Path} {left right : Value} (h : DifferAt path left right) :
    path ≠ [] := by
  cases h <;> simp

theorem filter_issues_eq_of_outside_eq {path : Path} (hpath : path ≠ []) {left right : Checked α}
    (h : left.outside path = right.outside path) :
    ((left.problems.map Problem.issue).filter fun issue => !issue.isBelow path.text) =
      (right.problems.map Problem.issue).filter fun issue => !issue.isBelow path.text := by
  -- What lies below a path lies below its text, so the issues can be filtered by the path first.
  have hthrough : ∀ result : Checked α,
      ((result.problems.map Problem.issue).filter fun issue => !issue.isBelow path.text) =
        ((result.outside path).map Problem.issue).filter fun issue => !issue.isBelow path.text := by
    intro result
    rw [Checked.outside, List.filter_map, List.filter_map, List.filter_filter]
    congr 1
    apply List.filter_congr
    intro problem _
    by_cases hinside : path.isPrefixOf problem.path
    · have hbelow : problem.issue.isBelow path.text :=
        isBelow_of_isPrefix rfl hpath (List.isPrefixOf_iff_prefix.mp hinside)
      simp [hbelow]
    · simp [hinside]
  rw [hthrough left, h, ← hthrough right]

end Schema

namespace Validated

/-- Where documents differ in one field of the root or in one item of a list, all errors found
elsewhere are told of both, in the same order. -/
theorem errors_elsewhere_eq {path : Schema.Path} {left right : Yaml.Value}
    (h : Schema.DifferAt path left right) :
    ((errors (ofDocument left)).filter fun issue => !issue.isBelow path.text) =
      (errors (ofDocument right)).filter fun issue => !issue.isBelow path.text := by
  rw [errors_ofDocument, errors_ofDocument]
  exact Schema.filter_issues_eq_of_outside_eq h.ne_nil (Schema.document_outside_eq h)

/-- A document with faults at the root and in the citation, for any second author of the latter. -/
def draftDocument (author : Yaml.Value) : Yaml.Value :=
  .mapping [
    (.string "cff-version", .string "1.2.0"),
    (.string "title", .string " "),
    (.string "authors", .sequence [.mapping [(.string "name", .string "The Team")]]),
    (.string "preferred-citation", .mapping [
      (.string "type", .string "article"),
      (.string "year", .string "soon"),
      (.string "authors", .sequence [.mapping [(.string "email", .null)], author]),
      (.string "title", .string "On Tools")])]

theorem draftDocument_differAt (author other : Yaml.Value) :
    Schema.DifferAt [.key "preferred-citation", .key "authors", .item 1] (draftDocument author)
      (draftDocument other) :=
  .citationAuthor 1 ⟨_, _, rfl, rfl, .intro
    [(.string "cff-version", .string "1.2.0"), (.string "title", .string " "),
      (.string "authors", .sequence [.mapping [(.string "name", .string "The Team")]])] []
    ⟨_, _, rfl, rfl, .intro
      [(.string "type", .string "article"), (.string "year", .string "soon")]
      [(.string "title", .string "On Tools")]
      ⟨[.mapping [(.string "email", .null)]], author, other, [], rfl, rfl, rfl, trivial⟩⟩⟩

theorem draftDocument_errors_elsewhere_eq :
    let path : Schema.Path := [.key "preferred-citation", .key "authors", .item 1]
    let left := draftDocument (.number (.integer 42))
    let right := draftDocument (.mapping [(.string "family-names", .string "Lee")])
    Schema.DifferAt path left right ∧
      ((errors (ofDocument left)).filter fun issue => !issue.isBelow path.text) =
        (errors (ofDocument right)).filter fun issue => !issue.isBelow path.text :=
  have hdiffer := draftDocument_differAt (.number (.integer 42))
    (.mapping [(.string "family-names", .string "Lee")])
  ⟨hdiffer, errors_elsewhere_eq hdiffer⟩

example :
    (errors (ofDocument (draftDocument (.number (.integer 42))))).map Issue.path =
      ["message", "title", "preferred-citation.authors[0]", "preferred-citation.authors[1]",
        "preferred-citation.year"] := by
  decide +kernel

end Validated

end CitationFile
