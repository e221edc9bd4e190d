import CitationFile.Proofs.Schema.Field
import CitationFile.Schema.Citation

namespace CitationFile.Schema

open Yaml

namespace Checked

/-- What a check finds, without the value that it accepts. -/
def verdict (result : Checked α) : Checked Unit :=
  result.map fun _ => ()

def both (first second : Checked Unit) : Checked Unit :=
  first *> second

def verdicts (results : List (Checked Unit)) : Checked Unit :=
  results.foldr both (.accept ())

@[simp] theorem problems_verdict (result : Checked α) :
    result.verdict.problems = result.problems := by
  cases result <;> rfl

@[simp] theorem cautions_verdict (result : Checked α) :
    result.verdict.cautions = result.cautions := by
  cases result <;> rfl

@[simp] theorem verdict_map (f : α → β) (result : Checked α) :
    (result.map f).verdict = result.verdict := by
  cases result <;> rfl

@[simp] theorem verdict_apply (function : Checked (α → β)) (argument : Checked α) :
    (function.apply argument).verdict = function.verdict.both argument.verdict := by
  cases function <;> cases argument <;> rfl

@[simp] theorem both_accept (result : Checked Unit) : result.both (.accept ()) = result := by
  cases result <;> simp [both, apply, map, accept, problems]

private theorem both_assoc (first second third : Checked Unit) :
    (first.both second).both third = first.both (second.both third) := by
  cases first <;> cases second <;> cases third <;> simp [both, apply, map, problems]

@[simp] theorem verdicts_nil : verdicts [] = .accept () := rfl

@[simp] theorem verdicts_cons (result : Checked Unit) (rest : List (Checked Unit)) :
    verdicts (result :: rest) = result.both (verdicts rest) := rfl

theorem verdict_all (results : List (Checked α)) :
    (all results).verdict = verdicts (results.map verdict) := by
  induction results with
  | nil => rfl
  | cons result rest ih => simp [all, ih]

@[simp] theorem problems_both (first second : Checked Unit) :
    (first.both second).problems = first.problems ++ second.problems := by
  simp [both]

theorem problems_verdicts (results : List (Checked Unit)) :
    (verdicts results).problems = results.flatMap problems := by
  induction results with
  | nil => rfl
  | cons result rest ih => simp [ih]

theorem cautions_both_sublist (first second : Checked Unit) :
    (first.both second).cautions.Sublist (first.cautions ++ second.cautions) := by
  -- Not an equation: the cautions of an accepted result are lost if the other one is rejected.
  cases first <;> cases second <;> simp [both, apply, map, cautions]

theorem cautions_verdicts_sublist (results : List (Checked Unit)) :
    (verdicts results).cautions.Sublist (results.flatMap cautions) := by
  induction results with
  | nil => exact List.Sublist.refl []
  | cons result rest ih =>
      exact (cautions_both_sublist result (verdicts rest)).trans (ih.append_left result.cautions)

end Checked

/-- The check of one field, at its path and on what stands there. -/
structure FieldCheck where
  key : String
  found : Path → Option Value → Checked Unit

namespace FieldCheck

def required (key : String) (check : Check α) : FieldCheck where
  key := key
  found path
    | some value => (check path value).verdict
    | none => .reject path .missing

def optional (key : String) (check : Check α) : FieldCheck where
  key := key
  found path
    | some value => (check path value).verdict
    | none => .accept ()

def verdict (check : FieldCheck) (fields : Fields) : Checked Unit :=
  check.found (fields.pathOf check.key) (fields.find? check.key)

end FieldCheck

theorem verdict_required (fields : Fields) (key : String) (check : Check α) :
    (required fields key check).verdict = (FieldCheck.required key check).verdict fields := by
  unfold required FieldCheck.required FieldCheck.verdict
  cases fields.find? key <;> rfl

theorem verdict_optional (fields : Fields) (key : String) (check : Check α) :
    (optional fields key check).verdict = (FieldCheck.optional key check).verdict fields := by
  unfold optional FieldCheck.optional FieldCheck.verdict
  cases fields.find? key with
  | none => rfl
  | some value => exact Checked.verdict_map some (check _ value)

theorem verdict_optionalList (fields : Fields) (key : String) (check : Check (List α)) :
    (optionalList fields key check).verdict = (FieldCheck.optional key check).verdict fields := by
  rw [optionalList, Checked.verdict_map, verdict_optional]

def checkFields (checks : List FieldCheck) (fields : Fields) : Checked Unit :=
  .verdicts (checks.map (·.verdict fields))

theorem problems_checkFields (checks : List FieldCheck) (fields : Fields) :
    (checkFields checks fields).problems =
      checks.flatMap fun check => (check.verdict fields).problems := by
  rw [checkFields, Checked.problems_verdicts, List.flatMap_map]

def entityFields : List FieldCheck :=
  [.optional "email" text, .required "name" text]

def personFields : List FieldCheck :=
  [.optional "email" text, .required "family-names" text, .optional "given-names" text,
    .optional "affiliation" text, .optional "orcid" orcid]

def citationFields (fields : Fields) : List FieldCheck :=
  [.required "type" citationType, .required "authors" authors, .required "title" text,
    .optional "journal" text, .optional "publisher" text, .optional "volume" natural,
    .optional (numberKey fields) natural, .optional "pages" textOrNumber,
    .optional "year" positive, .optional "month" month, .optional "doi" doi,
    .optional "url" url]

def recordFields : List FieldCheck :=
  [.required "cff-version" version, .required "message" text, .required "authors" authors,
    .required "title" text, .optional "version" textOrNumber, .optional "date-released" date,
    .optional "abstract" text, .optional "url" url, .optional "repository-code" url,
    .optional "license" text, .optional "license-url" url,
    .optional "keywords" (listOf keyword), .optional "identifiers" (listOf identifier),
    .optional "preferred-citation" preferredCitation]

def recordKeys : List String :=
  ["cff-version", "message", "authors", "title", "version", "date-released", "abstract", "url",
    "repository-code", "license", "license-url", "keywords", "identifiers", "preferred-citation"]

private theorem keys_recordFields : recordFields.map (·.key) = recordKeys := rfl

theorem recordKeys_nodup : recordKeys.Nodup := by
  decide

theorem key_mem_recordKeys {check : FieldCheck} (h : check ∈ recordFields) :
    check.key ∈ recordKeys :=
  keys_recordFields ▸ List.mem_map_of_mem h

theorem numberKey_eq (fields : Fields) :
    numberKey fields = "number" ∨ numberKey fields = "issue" := by
  unfold numberKey
  split
  · exact .inl rfl
  · exact .inr rfl

theorem numberKey_congr {path : Path} {entries others : List (Value × Value)}
    (h : field? entries "number" = field? others "number") :
    numberKey ⟨path, entries⟩ = numberKey ⟨path, others⟩ := by
  unfold numberKey
  rw [Fields.find?_eq, Fields.find?_eq, h]

theorem verdict_entity (fields : Fields) :
    (entity fields (optional fields "email" text)).verdict = checkFields entityFields fields := by
  simp [entity, checkFields, entityFields, verdict_required, verdict_optional]

theorem verdict_person (fields : Fields) :
    (person fields (optional fields "email" text)).verdict = checkFields personFields fields := by
  simp [person, checkFields, personFields, verdict_required, verdict_optional, Checked.both_assoc]

/-- A citation is checked field by field before the question whether it lacks a journal. -/
theorem exists_preferredCitation_eq (path : Path) {value : Value}
    {entries : List (Value × Value)} (h : value.mapping? = some entries) :
    ∃ citation : Checked PreferredCitation,
      preferredCitation path value = citation.andThen (checkJournal ⟨path, entries⟩) ∧
        citation.verdict = checkFields (citationFields ⟨path, entries⟩) ⟨path, entries⟩ := by
  unfold preferredCitation
  rw [h]
  refine ⟨_, rfl, ?_⟩
  simp [checkFields, citationFields, verdict_required, verdict_optional, Checked.both_assoc]

theorem verdict_record (fields : Fields) :
    (record fields).verdict = checkFields recordFields fields := by
  simp [record, checkFields, recordFields, verdict_required, verdict_optional,
    verdict_optionalList, Checked.both_assoc]

end CitationFile.Schema
