import CitationFile.Loading
import CitationFile.Proofs.Schema.Doubt

/-! Strict and lenient loading. A lenient loader warns of what the record leaves in doubt and of
nothing else, and a strict loader refuses a text for exactly these warnings. -/

namespace CitationFile

namespace Record

def warning (path : String) (doubt : Schema.Doubt) : Issue :=
  ⟨path, doubt.message, .warning⟩

def versionWarnings (record : Record) : List Issue :=
  if record.cffVersion.toList.takeWhile (· ≠ '.') = ['1'] then []
  else [warning "cff-version" (.schemaVersion record.cffVersion)]

def identifierWarnings (record : Record) : List Issue :=
  record.identifiers.zipIdx.flatMap fun (identifier, index) =>
    if identifier.type = .doi ∧ ¬ Doi.isValid identifier.value then
      [warning ("identifiers[" ++ index.repr ++ "].value") (.suspectDoi identifier.value)]
    else []

def citedDoiWarnings (citation : PreferredCitation) : List Issue :=
  match citation.doi with
  | some doi =>
      if Doi.isValid doi then [] else [warning "preferred-citation.doi" (.suspectDoi doi)]
  | none => []

def journalWarnings (citation : PreferredCitation) : List Issue :=
  if citation.type = .article ∧ citation.journal = none then
    [warning "preferred-citation.journal" .articleWithoutJournal]
  else []

/-- Everything that is worth a warning in a record, in the order of the schema. -/
def warnings (record : Record) : List Issue :=
  record.versionWarnings ++ record.identifierWarnings ++
    match record.preferredCitation with
    | some citation => citedDoiWarnings citation ++ journalWarnings citation
    | none => []

private theorem map_issue_versionDoubts (record : Record) :
    (Schema.versionDoubts [.key "cff-version"] record.cffVersion).map Schema.Caution.issue =
      record.versionWarnings := by
  unfold Schema.versionDoubts versionWarnings Schema.majorText
  split <;> rfl

private theorem map_issue_doiDoubts (path : Schema.Path) (doi : String) :
    (Schema.doiDoubts path doi).map Schema.Caution.issue =
      if Doi.isValid doi then [] else [warning path.text (.suspectDoi doi)] := by
  unfold Schema.doiDoubts
  split <;> rfl

private theorem text_identifierValue (index : Nat) :
    Schema.Path.text [.key "identifiers", .item index, .key "value"] =
      "identifiers[" ++ index.repr ++ "].value" := by
  rw [← String.toList_inj]
  simp [Schema.Path.text, Schema.Path.stepText]

private theorem map_issue_identifierDoubts (record : Record) :
    (Schema.itemDoubts Schema.identifierDoubts [.key "identifiers"] record.identifiers).map
        Schema.Caution.issue = record.identifierWarnings := by
  rw [Schema.itemDoubts, identifierWarnings, List.map_flatMap]
  refine List.flatMap_congr fun (identifier, index) _ => ?_
  by_cases hdoi : identifier.type = .doi
  · have htext := text_identifierValue index
    cases hvalid : Doi.isValid identifier.value <;>
      simp [Schema.identifierDoubts, hdoi, hvalid, map_issue_doiDoubts, htext]
  · simp [Schema.identifierDoubts, hdoi]

private theorem map_issue_citationDoubts (citation : PreferredCitation) :
    (Schema.citationDoubts [.key "preferred-citation"] citation).map Schema.Caution.issue =
      citedDoiWarnings citation ++ journalWarnings citation := by
  have hdoi : (citation.doi.elim [] (Schema.doiDoubts
      [.key "preferred-citation", .key "doi"])).map Schema.Caution.issue =
        citedDoiWarnings citation := by
    unfold citedDoiWarnings
    cases citation.doi with
    | none => rfl
    | some doi => exact map_issue_doiDoubts _ doi
  have hjournal : Schema.lacksJournal citation ↔
      citation.type = .article ∧ citation.journal = none := by
    simp [Schema.lacksJournal]
  rw [Schema.citationDoubts, List.map_append, journalWarnings, ← if_congr hjournal rfl rfl]
  refine congrArg₂ _ hdoi ?_
  split <;> rfl

private theorem map_issue_recordDoubts (record : Record) :
    (Schema.recordDoubts record).map Schema.Caution.issue = record.warnings := by
  rw [Schema.recordDoubts, List.map_append, List.map_append, map_issue_versionDoubts,
    map_issue_identifierDoubts, warnings, List.append_assoc]
  cases record.preferredCitation with
  | none => rfl
  | some citation => rw [Option.elim_some, map_issue_citationDoubts]

end Record

theorem Validated.warnings_of_ofDocument {root : Yaml.Value} {validated : Validated}
    (h : ofDocument root = .ok validated) : validated.warnings = validated.record.warnings := by
  unfold ofDocument at h
  have hcautions := Schema.cautions_document (value?_of_ofChecked_eq_ok h)
  rw [← Record.map_issue_recordDoubts, ← hcautions]
  cases hdocument : Schema.document root with
  | rejected first others => simp [hdocument, ofChecked] at h
  | accepted record cautions =>
      rw [hdocument] at h
      cases h
      rfl

namespace Loader

theorem validate_lenient_eq_ok_iff {root : Yaml.Value} {validated : Validated} :
    Loader.validate {} root = .ok validated ↔ Validated.ofDocument root = .ok validated := by
  unfold validate
  cases Validated.ofDocument root with
  | error report => simp
  | ok other => simp [Validated.demand, Except.mapError]

theorem validate_strict {root : Yaml.Value} {validated : Validated}
    (h : Validated.ofDocument root = .ok validated) :
    Loader.validate { strict := true } root =
      if validated.warnings = [] then .ok validated
      else .error (.invalid ⟨validated.warnings.map Issue.asError⟩) := by
  rw [validate, h]
  by_cases hwarnings : validated.warnings = [] <;>
    simp [Validated.demand, hwarnings, Except.mapError]

theorem validate_eq_error_of_lenient {root : Yaml.Value} {error : LoadError} (loader : Loader)
    (h : Loader.validate {} root = .error error) : loader.validate root = .error error := by
  unfold validate at h ⊢
  cases hdocument : Validated.ofDocument root with
  | error report => simpa [hdocument] using h
  | ok validated => simp [hdocument, Validated.demand, Except.mapError] at h

/-- A lenient loader warns of all that the record leaves in doubt and of nothing else. A strict
loader refuses a text for these warnings, if there are any, or for the reason of a lenient one. -/
theorem loadText_strict_of_lenient (source : String) :
    (∀ validated, Loader.loadText {} source = .ok validated →
      validated.warnings = validated.record.warnings ∧
        Loader.loadText { strict := true } source =
          if validated.record.warnings = [] then .ok validated
          else .error (.invalid ⟨validated.record.warnings.map Issue.asError⟩)) ∧
      ∀ error, Loader.loadText {} source = .error error →
        Loader.loadText { strict := true } source = .error error := by
  unfold loadText
  cases Document.parse source with
  | error failure => simp
  | ok root =>
      refine ⟨fun validated h => ?_, fun error => validate_eq_error_of_lenient _⟩
      have hdocument := validate_lenient_eq_ok_iff.mp h
      have hwarnings := Validated.warnings_of_ofDocument hdocument
      exact ⟨hwarnings, hwarnings ▸ validate_strict hdocument⟩

/-- A text that raises every kind of warning, and has a DOI that raises none. -/
def doubtfulText : String :=
  "cff-version: 2.0.0\nmessage: m\ntitle: t\nauthors:\n  - name: X\n" ++
    "identifiers:\n  - type: doi\n    value: 10.5281/zenodo.1\n" ++
    "  - type: doi\n    value: zenodo.2\n" ++
    "preferred-citation:\n  type: article\n  title: P\n  authors:\n    - name: Y\n  doi: amp2\n"

def doubtfulRecord : Record where
  cffVersion := "2.0.0"
  message := "m"
  authors := [.entity { name := "X" }]
  title := "t"
  version := none
  dateReleased := none
  abstract := none
  url := none
  repositoryCode := none
  license := none
  licenseUrl := none
  keywords := []
  identifiers := [⟨.doi, "10.5281/zenodo.1", none⟩, ⟨.doi, "zenodo.2", none⟩]
  preferredCitation := some {
    type := .article
    authors := [.entity { name := "Y" }]
    title := "P"
    journal := none
    publisher := none
    volume := none
    number := none
    pages := none
    year := none
    month := none
    doi := some "amp2"
    url := none }

theorem doubtfulText_loadText_strict :
    (∃ validated, Loader.loadText {} doubtfulText = .ok validated ∧
      validated.record = doubtfulRecord ∧ validated.warnings = doubtfulRecord.warnings ∧
      doubtfulRecord.warnings.map Issue.path = ["cff-version", "identifiers[1].value",
        "preferred-citation.doi", "preferred-citation.journal"] ∧
      Loader.loadText { strict := true } doubtfulText =
        .error (.invalid ⟨doubtfulRecord.warnings.map Issue.asError⟩)) ∧
    ∃ error, Loader.loadText {} "title: t" = .error error ∧
      Loader.loadText { strict := true } "title: t" = .error error := by
  have haccepted : Loader.loadText {} doubtfulText =
      .ok ⟨doubtfulRecord, doubtfulRecord.warnings⟩ := by
    decide +kernel
  have hpaths : doubtfulRecord.warnings.map Issue.path = ["cff-version", "identifiers[1].value",
      "preferred-citation.doi", "preferred-citation.journal"] := by
    decide +kernel
  have hrejected : Loader.loadText {} "title: t" = .error (.invalid
      ⟨[⟨"cff-version", "missing required key", .error⟩,
        ⟨"message", "missing required key", .error⟩,
        ⟨"authors", "missing required key", .error⟩]⟩) := by
    decide +kernel
  have hdoubted : doubtfulRecord.warnings ≠ [] := by
    intro hnone
    simp [hnone] at hpaths
  have hstrict := (loadText_strict_of_lenient doubtfulText).1 _ haccepted
  rw [if_neg hdoubted] at hstrict
  exact ⟨⟨_, haccepted, rfl, hstrict.1, hpaths, hstrict.2⟩,
    _, hrejected, (loadText_strict_of_lenient "title: t").2 _ hrejected⟩

end Loader

end CitationFile
