import CitationFile.Proofs.Schema.Acceptance
import CitationFile.Proofs.Schema.Placement

/-! Validation never fails without a problem and tells nothing twice: the paths of the issues of a
report are distinct, and so are the paths of the warnings about an accepted document. -/

namespace CitationFile

namespace Schema

open Yaml

theorem text_isClear : Check.IsClear text := by
  intro path value
  unfold text
  cases value.string? with
  | none => exact .reject _
  | some string =>
      dsimp only
      split
      · exact .reject _
      · exact .accept _

theorem textOrNumber_isClear : Check.IsClear textOrNumber := by
  intro path value
  unfold textOrNumber
  split
  · exact .accept _
  · exact text_isClear path value

theorem natural_isClear : Check.IsClear natural := by
  intro path value
  unfold natural
  split
  · split
    · exact .reject _
    · split
      · exact .accept _
      · exact .reject _
  · split
    · exact .accept _
    · exact .reject _
  · exact .reject _

theorem checkUrl_isClear (path : Path) (string : String) : (checkUrl path string).IsClear path := by
  unfold checkUrl
  split
  · exact .accept _
  · exact .reject _

private theorem checkDoi_isWithin (path : Path) (string : String) :
    (checkDoi path string).IsWithin [path] :=
  Checked.isWithin_warnIf _ _ _ _

theorem version_isWithin (path : Path) (value : Value) : (version path value).IsWithin [path] := by
  refine (text_isClear path value).andThen_isWithin fun string => ?_
  split
  · exact Checked.isWithin_warnIf _ _ _ _
  · exact (Checked.IsClear.reject _).isWithin

theorem date_isClear : Check.IsClear date := by
  intro path value
  refine (text_isClear path value).andThen fun string => ?_
  split
  · exact .accept _
  · exact .reject _

theorem url_isClear : Check.IsClear url :=
  fun path value => (text_isClear path value).andThen (checkUrl_isClear path)

theorem doi_isWithin (path : Path) (value : Value) : (doi path value).IsWithin [path] :=
  (text_isClear path value).andThen_isWithin (checkDoi_isWithin path)

theorem orcid_isClear : Check.IsClear orcid := by
  intro path value
  refine (text_isClear path value).andThen fun string => ?_
  split
  · exact .accept _
  · exact .reject _

theorem positive_isClear : Check.IsClear positive := by
  intro path value
  refine (natural_isClear path value).andThen fun number => ?_
  split
  · exact .reject _
  · exact .accept _

theorem month_isClear : Check.IsClear month := by
  intro path value
  refine (natural_isClear path value).andThen fun number => ?_
  split
  · exact .accept _
  · exact .reject _

theorem keyword_isClear : Check.IsClear keyword := by
  intro path value
  unfold keyword
  split
  · exact .accept _
  · exact .reject _

theorem identifierType_isClear : Check.IsClear identifierType := by
  intro path value
  refine (text_isClear path value).andThen fun name => ?_
  split
  · exact .accept _
  · exact .reject _

theorem citationType_isClear : Check.IsClear citationType := by
  intro path value
  refine (text_isClear path value).andThen fun name => ?_
  split
  · exact .accept _
  · exact .reject _

private theorem version_isOrderly : Check.IsOrderly version :=
  fun path value => (version_isWithin path value).isOrderly (Orderly.singleton path)

private theorem doi_isOrderly : Check.IsOrderly doi :=
  fun path value => (doi_isWithin path value).isOrderly (Orderly.singleton path)

theorem verdict_listOf (check : Check α) (path : Path) {value : Value} {items : List Value}
    (h : value.sequence? = some items) :
    (listOf check path value).verdict =
      .verdicts (items.zipIdx.map fun entry =>
        (check (path ++ [.item entry.2]) entry.1).verdict) := by
  simp [listOf, h, Checked.verdict_all, List.mapIdx_eq_zipIdx_map, Function.comp_def]

theorem listOf_of_not_list (check : Check α) (path : Path) {value : Value}
    (h : value.sequence? = none) :
    listOf check path value = .reject path (.notList (Kind.of value)) := by
  simp [listOf, h]

private theorem Check.IsOrderly.listOf {check : Check α} (h : check.IsOrderly) :
    (listOf check).IsOrderly := by
  intro path value
  cases hitems : value.sequence? with
  | none =>
      rw [listOf_of_not_list check path hitems]
      exact (Checked.IsClear.reject _).isOrderly
  | some items =>
      rw [← Checked.isOrderly_verdict_iff, verdict_listOf check path hitems]
      refine Checked.isOrderly_verdicts (fun entry => .item entry.2) ?_ ?_ ?_
      · have hindices : ((items.zipIdx.map Prod.snd).map Step.item).Nodup :=
          (List.nodup_zipIdx_map_snd items).map fun _ _ heq => Step.item.inj heq
        rwa [List.map_map] at hindices
      · exact fun entry _ => trivial
      · exact fun entry _ => Checked.isOrderly_verdict_iff.mpr (h _ entry.1)

theorem Check.IsQuiet.listOf {check : Check α} (h : check.IsQuiet) : (listOf check).IsQuiet := by
  intro path value
  cases hitems : value.sequence? with
  | none =>
      rw [listOf_of_not_list check path hitems]
      rfl
  | some items =>
      rw [← Checked.cautions_verdict, verdict_listOf check path hitems]
      apply List.eq_nil_of_sublist_nil
      refine (Checked.cautions_verdicts_sublist _).trans ?_
      simp only [List.flatMap_map, Checked.cautions_verdict, List.sublist_nil,
        List.flatMap_eq_nil_iff]
      exact fun entry _ => h _ entry.1

private theorem isOrderly_seqRight_reject {fields : Fields} {key : String} {result : Checked α}
    (hplain : (Step.key key).IsPlain) (h : result.IsClear (fields.pathOf key)) (fault : Fault) :
    (result *> (.reject fields.path fault : Checked β)).IsOrderly fields.path := by
  have hboth : Orderly fields.path [fields.pathOf key, fields.path] := by
    constructor
    · simp only [List.forall_mem_cons, List.not_mem_nil, false_imp_iff, implies_true, and_true]
      exact ⟨⟨[.key key], by simpa using hplain, rfl⟩, [], by simp, by simp⟩
    · simp [Fields.pathOf]
  cases h with
  | accept value => exact ⟨hboth.sublist (by simp), Orderly.nil _⟩
  | reject other => exact ⟨hboth.sublist (by simp), Orderly.nil _⟩

private theorem cautions_seqRight_reject (result : Checked α) (path : Path) (fault : Fault) :
    (result *> (.reject path fault : Checked β)).cautions = [] := by
  cases result <;> rfl

theorem author_isOrderly : Check.IsOrderly author := by
  intro path value
  unfold author
  cases value.mapping? with
  | none => exact (Checked.IsClear.reject _).isOrderly
  | some entries =>
      dsimp only
      have hemail := text_isClear.optional ⟨path, entries⟩ "email"
      split
      · exact isOrderly_seqRight_reject (by decide) hemail _
      · exact isOrderly_seqRight_reject (by decide) hemail _
      · rw [← Checked.isOrderly_verdict_iff, verdict_entity]
        refine isOrderly_checkFields ⟨path, entries⟩ (by decide) (by decide) ?_
        simp [entityFields, text_isClear.isOrderly.optional, text_isClear.isOrderly.required]
      · rw [← Checked.isOrderly_verdict_iff, verdict_person]
        refine isOrderly_checkFields ⟨path, entries⟩ (by decide) (by decide) ?_
        simp [personFields, text_isClear.isOrderly.optional, text_isClear.isOrderly.required,
          orcid_isClear.isOrderly.optional]

private theorem author_isQuiet : Check.IsQuiet author := by
  intro path value
  unfold author
  cases value.mapping? with
  | none => rfl
  | some entries =>
      dsimp only
      split
      · exact cautions_seqRight_reject _ _ _
      · exact cautions_seqRight_reject _ _ _
      · rw [← Checked.cautions_verdict, verdict_entity]
        apply List.eq_nil_of_sublist_nil
        simpa [entityFields, text_isClear.isQuiet.optional, text_isClear.isQuiet.required] using
          cautions_checkFields_sublist entityFields ⟨path, entries⟩
      · rw [← Checked.cautions_verdict, verdict_person]
        apply List.eq_nil_of_sublist_nil
        simpa [personFields, text_isClear.isQuiet.optional, text_isClear.isQuiet.required,
          orcid_isClear.isQuiet.optional] using
          cautions_checkFields_sublist personFields ⟨path, entries⟩

private theorem authors_isOrderly : Check.IsOrderly authors := by
  intro path value
  by_cases hempty : value.sequence? = some []
  · rw [authors_of_empty hempty]
    exact (Checked.IsClear.reject _).isOrderly
  · rw [authors_of_ne_empty hempty]
    exact author_isOrderly.listOf path value

theorem authors_isQuiet : Check.IsQuiet authors := by
  intro path value
  by_cases hempty : value.sequence? = some []
  · rw [authors_of_empty hempty]
    rfl
  · rw [authors_of_ne_empty hempty]
    exact author_isQuiet.listOf path value

private theorem checkIdentifier_isWithin (path : Path) (kind : IdentifierType) (string : String) :
    (checkIdentifier path kind string).IsWithin [path] := by
  cases kind with
  | url => exact (checkUrl_isClear path string).isWithin
  | doi => exact checkDoi_isWithin path string
  | swh | other => exact (Checked.IsClear.accept string).isWithin

theorem typedValue_isWithin (fields : Fields) :
    (typedValue fields).IsWithin [fields.pathOf "type", fields.pathOf "value"] := by
  have hkind := identifierType_isClear.required fields "type"
  have hstring := text_isClear.required fields "value"
  unfold typedValue
  generalize required fields "type" identifierType = kind? at hkind
  generalize required fields "value" text = string? at hstring
  cases hkind with
  | reject fault =>
      cases hstring with
      | reject other => exact ⟨List.Sublist.refl _, List.nil_sublist _⟩
      | accept string => exact ⟨by simp, List.nil_sublist _⟩
  | accept kind =>
      cases hstring with
      | reject other => exact ⟨by simp, List.nil_sublist _⟩
      | accept string =>
          -- The value is checked against its type only here, where it has no problem yet.
          have hsuits := checkIdentifier_isWithin (fields.pathOf "value") kind string
          have hlast : [fields.pathOf "value"].Sublist
              [fields.pathOf "type", fields.pathOf "value"] := by simp
          change ((Checked.accept (kind, string)).andThen _).IsWithin _
          rw [Checked.accept_andThen]
          exact (hsuits.map fun value => (kind, value)).mono hlast

theorem identifier_isOrderly : Check.IsOrderly identifier := by
  intro path value
  unfold identifier
  cases value.mapping? with
  | none => exact (Checked.IsClear.reject _).isOrderly
  | some entries =>
      have hdescription := (text_isClear.optional ⟨path, entries⟩ "description").isWithin
      have htyped := typedValue_isWithin ⟨path, entries⟩
      have hpaths : Orderly path (["description", "type", "value"].map (path ++ [.key ·])) :=
        orderly_fields ⟨path, entries⟩ (by decide) (by decide)
      rw [← Checked.isOrderly_verdict_iff]
      simp only [Checked.map_eq, Checked.seq_eq, Checked.verdict_apply, Checked.verdict_map]
      exact (hdescription.verdict.both htyped.verdict).isOrderly hpaths

theorem citationFields_isOrderly (fields : Fields) :
    ∀ check ∈ citationFields fields, check.IsOrderly := by
  simp [citationFields, citationType_isClear.isOrderly.required, authors_isOrderly.required,
    text_isClear.isOrderly.required, text_isClear.isOrderly.optional,
    natural_isClear.isOrderly.optional, textOrNumber_isClear.isOrderly.optional,
    positive_isClear.isOrderly.optional, month_isClear.isOrderly.optional,
    doi_isOrderly.optional, url_isClear.isOrderly.optional]

theorem citationFields_keys (fields : Fields) :
    ((citationFields fields).map (·.key)).Nodup ∧
      ∀ key ∈ (citationFields fields).map (·.key), (Step.key key).IsPlain := by
  rcases numberKey_eq fields with hnumber | hnumber
  · rw [citationFields, hnumber]
    decide
  · rw [citationFields, hnumber]
    decide

theorem cautions_citationFields (fields : Fields) :
    ((citationFields fields).flatMap fun check => (check.verdict fields).cautions) =
      ((FieldCheck.optional "doi" doi).verdict fields).cautions := by
  simp [citationFields, citationType_isClear.isQuiet.required, authors_isQuiet.required,
    text_isClear.isQuiet.required, text_isClear.isQuiet.optional,
    natural_isClear.isQuiet.optional, textOrNumber_isClear.isQuiet.optional,
    positive_isClear.isQuiet.optional, month_isClear.isQuiet.optional,
    url_isClear.isQuiet.optional]

private theorem optional_doi_isWithin (fields : Fields) :
    (optional fields "doi" doi).IsWithin [fields.pathOf "doi"] := by
  unfold optional
  cases fields.find? "doi" with
  | none => exact (Checked.IsClear.accept _).isWithin
  | some value => exact (doi_isWithin _ value).map some

theorem problems_andThen_checkJournal (citation : Checked PreferredCitation) (fields : Fields) :
    (citation.andThen (checkJournal fields)).problems = citation.problems := by
  rw [Checked.problems_andThen]
  cases citation.value? <;> simp [checkJournal]

theorem cautions_andThen_checkJournal_sublist (citation : Checked PreferredCitation)
    (fields : Fields) :
    ((citation.andThen (checkJournal fields)).cautions.map Caution.path).Sublist
      (citation.cautions.map Caution.path ++ [fields.pathOf "journal"]) := by
  cases citation with
  | rejected first others => exact List.nil_sublist _
  | accepted citation cautions =>
      by_cases hlacks : lacksJournal citation
      · simp [checkJournal, hlacks, Checked.andThen, Checked.accept, Checked.warnIf,
          Checked.cautions]
      · simp [checkJournal, hlacks, Checked.andThen, Checked.accept, Checked.warnIf,
          Checked.cautions]

private theorem preferredCitation_isOrderly : Check.IsOrderly preferredCitation := by
  intro path value
  cases hmapping : value.mapping? with
  | none =>
      unfold preferredCitation
      rw [hmapping]
      exact (Checked.IsClear.reject _).isOrderly
  | some entries =>
      obtain ⟨citation, heq, hverdict⟩ := exists_preferredCitation_eq path hmapping
      obtain ⟨hdistinct, hplain⟩ := citationFields_keys ⟨path, entries⟩
      have hfields := isOrderly_checkFields ⟨path, entries⟩ hdistinct hplain
        (citationFields_isOrderly ⟨path, entries⟩)
      rw [← hverdict, Checked.isOrderly_verdict_iff] at hfields
      have hcautions : (citation.cautions.map Caution.path).Sublist [path ++ [.key "doi"]] := by
        rw [← Checked.cautions_verdict, hverdict]
        refine ((cautions_checkFields_sublist _ _).map Caution.path).trans ?_
        rw [cautions_citationFields, ← verdict_optional, Checked.cautions_verdict]
        exact (optional_doi_isWithin ⟨path, entries⟩).cautions
      have hpaths : Orderly path (["doi", "journal"].map (path ++ [.key ·])) :=
        orderly_fields ⟨path, entries⟩ (by decide) (by decide)
      rw [heq]
      constructor
      · rw [problems_andThen_checkJournal]
        exact hfields.problems
      · refine hpaths.sublist ((cautions_andThen_checkJournal_sublist _ _).trans ?_)
        exact hcautions.append_right _

theorem document_eq_record {value : Value} {entries : List (Value × Value)}
    (h : value.mapping? = some entries) : document value = record ⟨[], entries⟩ := by
  simp [document, h]

theorem recordFields_isOrderly : ∀ check ∈ recordFields, check.IsOrderly := by
  simp [recordFields, version_isOrderly.required, text_isClear.isOrderly.required,
    authors_isOrderly.required, text_isClear.isOrderly.optional,
    textOrNumber_isClear.isOrderly.optional, date_isClear.isOrderly.optional,
    url_isClear.isOrderly.optional, keyword_isClear.isOrderly.listOf.optional,
    identifier_isOrderly.listOf.optional, preferredCitation_isOrderly.optional]

theorem recordKeys_isPlain : ∀ key ∈ recordKeys, (Step.key key).IsPlain := by
  decide

private theorem record_isOrderly (fields : Fields) : (record fields).IsOrderly fields.path := by
  rw [← Checked.isOrderly_verdict_iff, verdict_record]
  exact isOrderly_checkFields fields recordKeys_nodup recordKeys_isPlain recordFields_isOrderly

def OpensWithKey (path : Path) : Prop :=
  ∃ key ∈ recordKeys, ∃ rest : Path, (∀ step ∈ rest, step.IsPlain) ∧ path = [.key key] ++ rest

theorem OpensWithKey.isAddress {path : Path} (h : OpensWithKey path) : path.IsAddress := by
  obtain ⟨key, hkey, rest, hrest, rfl⟩ := h
  exact List.forall_mem_cons.mpr ⟨recordKeys_isPlain key hkey, hrest⟩

theorem record_opensWithKey (entries : List (Value × Value)) :
    (∀ problem ∈ (record ⟨[], entries⟩).problems, OpensWithKey problem.path) ∧
      ∀ caution ∈ (record ⟨[], entries⟩).cautions, OpensWithKey caution.path := by
  rw [← Checked.problems_verdict, ← Checked.cautions_verdict, verdict_record]
  have horderly := fun check hcheck => recordFields_isOrderly check hcheck ⟨[], entries⟩
  constructor
  · intro problem hproblem
    rw [problems_checkFields] at hproblem
    obtain ⟨check, hcheck, hproblem⟩ := List.mem_flatMap.mp hproblem
    exact ⟨check.key, key_mem_recordKeys hcheck,
      (horderly check hcheck).problems.below _ (List.mem_map_of_mem hproblem)⟩
  · intro caution hcaution
    have hcaution := (cautions_checkFields_sublist _ _).subset hcaution
    obtain ⟨check, hcheck, hcaution⟩ := List.mem_flatMap.mp hcaution
    exact ⟨check.key, key_mem_recordKeys hcheck,
      (horderly check hcheck).cautions.below _ (List.mem_map_of_mem hcaution)⟩

theorem record_isAddress (entries : List (Value × Value)) :
    (∀ problem ∈ (record ⟨[], entries⟩).problems, problem.path.IsAddress) ∧
      ∀ caution ∈ (record ⟨[], entries⟩).cautions, caution.path.IsAddress := by
  obtain ⟨hproblems, hcautions⟩ := record_opensWithKey entries
  exact ⟨fun problem hproblem => (hproblems problem hproblem).isAddress,
    fun caution hcaution => (hcautions caution hcaution).isAddress⟩

private theorem nodup_map_text {paths : List Path} (h : paths.Nodup)
    (haddress : ∀ path ∈ paths, path.IsAddress) : (paths.map Path.text).Nodup :=
  h.map_on fun left hleft right hright =>
    Path.text_inj (haddress left hleft) (haddress right hright)

theorem nodup_document_problems (root : Value) :
    ((document root).problems.map fun problem => problem.path.text).Nodup := by
  unfold document
  cases root.mapping? with
  | none => simp
  | some entries =>
      rw [← Function.comp_def, ← List.map_map]
      refine nodup_map_text (record_isOrderly ⟨[], entries⟩).problems.distinct ?_
      simpa using (record_isAddress entries).1

theorem nodup_document_cautions (root : Value) :
    ((document root).cautions.map fun caution => caution.path.text).Nodup := by
  unfold document
  cases root.mapping? with
  | none => exact List.nodup_nil
  | some entries =>
      rw [← Function.comp_def, ← List.map_map]
      refine nodup_map_text (record_isOrderly ⟨[], entries⟩).cautions.distinct ?_
      simpa using (record_isAddress entries).2

end Schema

namespace Validated

def errors : Except Report Validated → List Issue
  | .error report => report.issues
  | .ok _ => []

theorem errors_ofDocument (root : Yaml.Value) :
    errors (ofDocument root) = (Schema.document root).problems.map Schema.Problem.issue := by
  unfold ofDocument
  cases Schema.document root <;> rfl

/-- A report is never empty and holds nothing but errors, a validated document nothing but warnings,
and neither has two issues at the same path. -/
theorem ofDocument_issues_distinct (root : Yaml.Value) :
    match ofDocument root with
    | .error report =>
        report.issues ≠ [] ∧ (∀ issue ∈ report.issues, issue.severity = .error) ∧
          (report.issues.map Issue.path).Nodup
    | .ok validated =>
        (∀ issue ∈ validated.warnings, issue.severity = .warning) ∧
          (validated.warnings.map Issue.path).Nodup := by
  have hproblems := Schema.nodup_document_problems root
  have hcautions := Schema.nodup_document_cautions root
  unfold ofDocument
  cases hdocument : Schema.document root with
  | rejected first others =>
      rw [hdocument] at hproblems
      refine ⟨by simp, ?_, ?_⟩
      · rw [List.forall_mem_map]
        exact fun problem _ => rfl
      · rwa [List.map_map]
  | accepted record cautions =>
      rw [hdocument] at hcautions
      constructor
      · rw [List.forall_mem_map]
        exact fun caution _ => rfl
      · rwa [List.map_map]

end Validated

end CitationFile
