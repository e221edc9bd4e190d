import CitationFile.Proofs.Schema.Distinct

/-! Paths as addresses of a document. Every issue lies at a place of the document that it is about:
at a value that is there, or at a key that a mapping lacks; and the text of its path is the address
of this place. -/

namespace CitationFile

namespace Schema

open Yaml

/-- The value at an address: a key leads on to a value that is not null, an index to an item. -/
def valueAt? (root : Value) : Path → Option Value
  | [] => some root
  | .key name :: rest =>
      (root.mapping?.bind (field? · name)).bind fun inner => valueAt? inner rest
  | .item index :: rest =>
      (root.sequence?.bind (·[index]?)).bind fun inner => valueAt? inner rest

/-- The address of a value that is there, or of a key that is absent or null in a mapping. -/
inductive IsPlaceIn (root : Value) : Path → Prop
  | filled {path : Path} {value : Value} (hvalue : valueAt? root path = some value) :
      IsPlaceIn root path
  | vacant {path : Path} {holder : Value} {entries : List (Value × Value)} {name : String}
      (hholder : valueAt? root path = some holder) (hmapping : holder.mapping? = some entries)
      (hfield : field? entries name = none) : IsPlaceIn root (path ++ [.key name])

section Steps

variable {root inner : Value} {entries : List (Value × Value)} {name : String} {path : Path}

private theorem valueAt?_key (hmapping : root.mapping? = some entries)
    (hfield : field? entries name = some inner) (path : Path) :
    valueAt? root (.key name :: path) = valueAt? inner path := by
  simp [valueAt?, hmapping, hfield]

private theorem valueAt?_item {items : List Value} {index : Nat}
    (hitems : root.sequence? = some items) (hitem : items[index]? = some inner) (path : Path) :
    valueAt? root (.item index :: path) = valueAt? inner path := by
  simp [valueAt?, hitems, hitem]

private theorem IsPlaceIn.cons {step : Step}
    (hstep : ∀ path, valueAt? root (step :: path) = valueAt? inner path)
    (h : IsPlaceIn inner path) : IsPlaceIn root (step :: path) := by
  cases h with
  | filled hvalue => exact .filled ((hstep _).trans hvalue)
  | vacant hholder hmapping hfield => exact .vacant ((hstep _).trans hholder) hmapping hfield

private theorem IsPlaceIn.self (root : Value) : IsPlaceIn root [] :=
  .filled rfl

private theorem isPlaceIn_key (hmapping : root.mapping? = some entries) (name : String) :
    IsPlaceIn root [.key name] := by
  cases hfield : field? entries name with
  | none => exact @IsPlaceIn.vacant root [] root entries name rfl hmapping hfield
  | some inner => exact (IsPlaceIn.self inner).cons (valueAt?_key hmapping hfield)

end Steps

/-- A path that leads on from a base, where a value stands, to a place in this value. -/
def LeadsInto (base : Path) (value : Value) (path : Path) : Prop :=
  ∃ rest, IsPlaceIn value rest ∧ path = base ++ rest

section LeadsInto

variable {base path : Path} {value : Value}

private theorem LeadsInto.self (base : Path) (value : Value) : LeadsInto base value base :=
  ⟨[], .self value, (List.append_nil base).symm⟩

private theorem LeadsInto.step {step : Step} {inner : Value}
    (hstep : ∀ path, valueAt? value (step :: path) = valueAt? inner path)
    (h : LeadsInto (base ++ [step]) inner path) : LeadsInto base value path := by
  obtain ⟨rest, hrest, rfl⟩ := h
  exact ⟨step :: rest, hrest.cons hstep, by simp⟩

private theorem leadsInto_key {entries : List (Value × Value)}
    (hmapping : value.mapping? = some entries)
    (base : Path) (name : String) : LeadsInto base value (base ++ [.key name]) :=
  ⟨[.key name], isPlaceIn_key hmapping name, rfl⟩

end LeadsInto

namespace Checked

/-- All that was found about the value at a path lies at places in this value. -/
structure IsPlaced (path : Path) (value : Value) (result : Checked α) : Prop where
  problems : ∀ problem ∈ result.problems, LeadsInto path value problem.path
  cautions : ∀ caution ∈ result.cautions, LeadsInto path value caution.path

section IsPlaced

variable {path : Path} {value : Value} {result : Checked α}

private theorem IsWithin.isPlaced {paths : List Path} (h : result.IsWithin paths)
    (hpaths : ∀ place ∈ paths, LeadsInto path value place) : result.IsPlaced path value := by
  constructor
  · intro problem hproblem
    exact hpaths _ (h.problems.subset (List.mem_map_of_mem hproblem))
  · intro caution hcaution
    exact hpaths _ (h.cautions.subset (List.mem_map_of_mem hcaution))

theorem IsWithin.isPlaced_self (h : result.IsWithin [path]) (value : Value) :
    result.IsPlaced path value :=
  h.isPlaced (List.forall_mem_singleton.mpr (LeadsInto.self path value))

private theorem IsPlaced.step {step : Step} {inner : Value}
    (hstep : ∀ path, valueAt? value (step :: path) = valueAt? inner path)
    (h : result.IsPlaced (path ++ [step]) inner) : result.IsPlaced path value :=
  ⟨fun problem hproblem => (h.problems problem hproblem).step hstep,
    fun caution hcaution => (h.cautions caution hcaution).step hstep⟩

theorem isPlaced_verdict_iff : result.verdict.IsPlaced path value ↔ result.IsPlaced path value := by
  constructor
  · rintro ⟨hproblems, hcautions⟩
    exact ⟨by simpa using hproblems, by simpa using hcautions⟩
  · rintro ⟨hproblems, hcautions⟩
    exact ⟨by simpa using hproblems, by simpa using hcautions⟩

private theorem IsPlaced.both {first second : Checked Unit} (hfirst : first.IsPlaced path value)
    (hsecond : second.IsPlaced path value) : (first.both second).IsPlaced path value := by
  constructor
  · intro problem hproblem
    rw [problems_both] at hproblem
    cases List.mem_append.mp hproblem with
    | inl hmem => exact hfirst.problems problem hmem
    | inr hmem => exact hsecond.problems problem hmem
  · intro caution hcaution
    cases List.mem_append.mp ((cautions_both_sublist first second).subset hcaution) with
    | inl hmem => exact hfirst.cautions caution hmem
    | inr hmem => exact hsecond.cautions caution hmem

private theorem isPlaced_accept (path : Path) (value : Value) (accepted : α) :
    (accept accepted).IsPlaced path value :=
  (IsClear.accept accepted).isWithin.isPlaced_self value

private theorem isPlaced_reject (path : Path) (value : Value) (fault : Fault) :
    (reject path fault : Checked α).IsPlaced path value :=
  (IsClear.reject fault).isWithin.isPlaced_self value

private theorem isPlaced_verdicts {results : List (Checked Unit)}
    (h : ∀ result ∈ results, result.IsPlaced path value) :
    (verdicts results).IsPlaced path value := by
  induction results with
  | nil => exact isPlaced_accept path value ()
  | cons result rest ih =>
      rw [List.forall_mem_cons] at h
      exact h.1.both (ih h.2)

end IsPlaced

end Checked

/-! Every problem and every doubt of a check lies within the value that it is given. -/

def Check.IsPlaced (check : Check α) : Prop :=
  ∀ path value, (check path value).IsPlaced path value

def FieldCheck.IsPlaced (check : FieldCheck) : Prop :=
  ∀ fields value, value.mapping? = some fields.entries →
    (check.verdict fields).IsPlaced fields.path value

section Checks

variable {check : Check α}

private theorem Check.IsClear.isPlaced (h : check.IsClear) : check.IsPlaced :=
  fun path value => (h path value).isWithin.isPlaced_self value

private theorem version_isPlaced : Check.IsPlaced version :=
  fun path value => (version_isWithin path value).isPlaced_self value

private theorem doi_isPlaced : Check.IsPlaced doi :=
  fun path value => (doi_isWithin path value).isPlaced_self value

private theorem Check.IsPlaced.required (h : check.IsPlaced) (key : String) :
    (FieldCheck.required key check).IsPlaced := by
  intro fields value hmapping
  unfold FieldCheck.required FieldCheck.verdict
  rw [Fields.find?_eq]
  cases hfield : field? fields.entries key with
  | none =>
      have hmissing : (Checked.reject (fields.pathOf key) .missing : Checked Unit).IsClear
          (fields.pathOf key) := .reject _
      apply hmissing.isWithin.isPlaced
      exact List.forall_mem_singleton.mpr (leadsInto_key hmapping fields.path key)
  | some inner =>
      apply Checked.IsPlaced.step (valueAt?_key hmapping hfield)
      exact Checked.isPlaced_verdict_iff.mpr (h _ inner)

private theorem Check.IsPlaced.optional (h : check.IsPlaced) (key : String) :
    (FieldCheck.optional key check).IsPlaced := by
  intro fields value hmapping
  unfold FieldCheck.optional FieldCheck.verdict
  rw [Fields.find?_eq]
  cases hfield : field? fields.entries key with
  | none => exact Checked.isPlaced_accept fields.path value ()
  | some inner =>
      apply Checked.IsPlaced.step (valueAt?_key hmapping hfield)
      exact Checked.isPlaced_verdict_iff.mpr (h _ inner)

private theorem isPlaced_checkFields {checks : List FieldCheck} (fields : Fields) {value : Value}
    (hmapping : value.mapping? = some fields.entries) (h : ∀ check ∈ checks, check.IsPlaced) :
    (checkFields checks fields).IsPlaced fields.path value := by
  apply Checked.isPlaced_verdicts
  rw [List.forall_mem_map]
  exact fun check hcheck => h check hcheck fields value hmapping

private theorem Check.IsPlaced.listOf (h : check.IsPlaced) : (listOf check).IsPlaced := by
  intro path value
  cases hitems : value.sequence? with
  | none =>
      rw [listOf_of_not_list check path hitems]
      exact Checked.isPlaced_reject path value _
  | some items =>
      rw [← Checked.isPlaced_verdict_iff, verdict_listOf check path hitems]
      apply Checked.isPlaced_verdicts
      rw [List.forall_mem_map]
      rintro ⟨item, index⟩ hentry
      have hitem : items[index]? = some item := List.mem_zipIdx_iff_getElem?.mp hentry
      apply Checked.IsPlaced.step (valueAt?_item hitems hitem)
      exact Checked.isPlaced_verdict_iff.mpr (h _ item)

end Checks

private theorem isPlaced_seqRight_reject {fields : Fields} {value : Value} {key : String}
    {result : Checked α} (hmapping : value.mapping? = some fields.entries)
    (h : result.IsClear (fields.pathOf key)) (fault : Fault) :
    (result *> (.reject fields.path fault : Checked β)).IsPlaced fields.path value := by
  rw [← Checked.isPlaced_verdict_iff, Checked.seqRight_eq, Checked.verdict_apply,
    Checked.verdict_map]
  apply Checked.IsPlaced.both
  · apply h.isWithin.verdict.isPlaced
    exact List.forall_mem_singleton.mpr (leadsInto_key hmapping fields.path key)
  · exact Checked.isPlaced_reject fields.path value fault

private theorem author_isPlaced : Check.IsPlaced author := by
  intro path value
  unfold author
  cases hmapping : value.mapping? with
  | none => exact Checked.isPlaced_reject path value _
  | some entries =>
      dsimp only
      have hemail := text_isClear.optional ⟨path, entries⟩ "email"
      split
      · exact isPlaced_seqRight_reject hmapping hemail _
      · exact isPlaced_seqRight_reject hmapping hemail _
      · rw [← Checked.isPlaced_verdict_iff, verdict_entity]
        refine isPlaced_checkFields ⟨path, entries⟩ hmapping ?_
        simp [entityFields, text_isClear.isPlaced.optional, text_isClear.isPlaced.required]
      · rw [← Checked.isPlaced_verdict_iff, verdict_person]
        refine isPlaced_checkFields ⟨path, entries⟩ hmapping ?_
        simp [personFields, text_isClear.isPlaced.optional, text_isClear.isPlaced.required,
          orcid_isClear.isPlaced.optional]

private theorem authors_isPlaced : Check.IsPlaced authors := by
  intro path value
  by_cases hempty : value.sequence? = some []
  · rw [authors_of_empty hempty]
    exact Checked.isPlaced_reject path value _
  · rw [authors_of_ne_empty hempty]
    exact author_isPlaced.listOf path value

private theorem identifier_isPlaced : Check.IsPlaced identifier := by
  intro path value
  unfold identifier
  cases hmapping : value.mapping? with
  | none => exact Checked.isPlaced_reject path value _
  | some entries =>
      have hdescription := (text_isClear.optional ⟨path, entries⟩ "description").isWithin
      have htyped := typedValue_isWithin ⟨path, entries⟩
      have hplace := leadsInto_key hmapping path
      rw [← Checked.isPlaced_verdict_iff]
      simp only [Checked.map_eq, Checked.seq_eq, Checked.verdict_apply, Checked.verdict_map]
      apply (hdescription.verdict.both htyped.verdict).isPlaced
      simpa [Fields.pathOf] using ⟨hplace "description", hplace "type", hplace "value"⟩

private theorem citationFields_isPlaced (fields : Fields) :
    ∀ check ∈ citationFields fields, check.IsPlaced := by
  simp [citationFields, citationType_isClear.isPlaced.required, authors_isPlaced.required,
    text_isClear.isPlaced.required, text_isClear.isPlaced.optional,
    natural_isClear.isPlaced.optional, textOrNumber_isClear.isPlaced.optional,
    positive_isClear.isPlaced.optional, month_isClear.isPlaced.optional,
    doi_isPlaced.optional, url_isClear.isPlaced.optional]

private theorem preferredCitation_isPlaced : Check.IsPlaced preferredCitation := by
  intro path value
  cases hmapping : value.mapping? with
  | none =>
      unfold preferredCitation
      rw [hmapping]
      exact Checked.isPlaced_reject path value _
  | some entries =>
      obtain ⟨citation, heq, hverdict⟩ := exists_preferredCitation_eq path hmapping
      have hfields : citation.IsPlaced path value := by
        rw [← Checked.isPlaced_verdict_iff, hverdict]
        exact isPlaced_checkFields ⟨path, entries⟩ hmapping (citationFields_isPlaced _)
      rw [heq]
      constructor
      · rw [problems_andThen_checkJournal]
        exact hfields.problems
      · -- The journal that is missing is the only place that no check of a field tells.
        intro caution hcaution
        have hsublist := cautions_andThen_checkJournal_sublist citation ⟨path, entries⟩
        cases List.mem_append.mp (hsublist.subset (List.mem_map_of_mem hcaution)) with
        | inl hmem =>
            obtain ⟨other, hother, hpath⟩ := List.mem_map.mp hmem
            exact hpath ▸ hfields.cautions other hother
        | inr hmem =>
            rw [List.mem_singleton.mp hmem]
            exact leadsInto_key hmapping path "journal"

private theorem recordFields_isPlaced : ∀ check ∈ recordFields, check.IsPlaced := by
  simp [recordFields, version_isPlaced.required, text_isClear.isPlaced.required,
    authors_isPlaced.required, text_isClear.isPlaced.optional,
    textOrNumber_isClear.isPlaced.optional, date_isClear.isPlaced.optional,
    url_isClear.isPlaced.optional, keyword_isClear.isPlaced.listOf.optional,
    identifier_isPlaced.listOf.optional, preferredCitation_isPlaced.optional]

theorem document_isPlaced (root : Value) : (document root).IsPlaced [] root := by
  cases hmapping : root.mapping? with
  | none =>
      rw [document, hmapping]
      exact Checked.isPlaced_reject [] root _
  | some entries =>
      rw [document_eq_record hmapping, ← Checked.isPlaced_verdict_iff, verdict_record]
      exact isPlaced_checkFields ⟨[], entries⟩ hmapping recordFields_isPlaced

theorem OpensWithKey.text_ne_rootText {path : Path} (h : OpensWithKey path) :
    path.text ≠ Path.rootText := by
  intro heq
  have hroot : Path.text [.key "$"] = Path.rootText := by simp [Path.text, Path.rootText]
  have hpath : path = [.key "$"] :=
    Path.text_inj h.isAddress (by simp [Path.IsAddress, Step.IsPlain, isMark])
      (heq.trans hroot.symm)
  obtain ⟨key, hkey, rest, -, rfl⟩ := h
  have hname : key = "$" ∧ rest = [] := by simpa using hpath
  rw [hname.1] at hkey
  exact absurd hkey (by decide)

end Schema

namespace Validated

/-- What a validation tells: the errors of a report, or the warnings about a valid document. -/
def issues : Except Report Validated → List Issue
  | .error report => report.issues
  | .ok validated => validated.warnings

theorem exists_path_of_mem_issues {root : Yaml.Value} {issue : Issue}
    (h : issue ∈ issues (ofDocument root)) :
    ∃ path : Schema.Path, issue.path = path.text ∧
      (path ∈ (Schema.document root).problems.map Schema.Problem.path ∨
        path ∈ (Schema.document root).cautions.map Schema.Caution.path) := by
  unfold ofDocument at h
  cases hdocument : Schema.document root with
  | accepted record cautions =>
      rw [hdocument] at h
      obtain ⟨caution, hcaution, rfl⟩ := List.mem_map.mp h
      exact ⟨caution.path, rfl, .inr (List.mem_map_of_mem hcaution)⟩
  | rejected first others =>
      rw [hdocument] at h
      obtain ⟨problem, hproblem, rfl⟩ := List.mem_map.mp h
      exact ⟨problem.path, rfl, .inl (List.mem_map_of_mem hproblem)⟩

/-- The path of an issue is the document itself only where the document is no mapping, and otherwise
the address of a place in it. -/
theorem ofDocument_issues_addressed {root : Yaml.Value} {issue : Issue}
    (h : issue ∈ issues (ofDocument root)) :
    match root.mapping? with
    | none => issue.path = "$"
    | some _ => issue.path ≠ "$" ∧
        ∃ path : Schema.Path, path.IsAddress ∧ Schema.IsPlaceIn root path ∧
          issue.path = path.text := by
  obtain ⟨path, htext, hpath⟩ := exists_path_of_mem_issues h
  have hplaced := Schema.document_isPlaced root
  cases hmapping : root.mapping? with
  | none =>
      have hdocument : Schema.document root = .reject [] (.notCitation (Schema.Kind.of root)) := by
        rw [Schema.document, hmapping]
      have hroot : path = [] := by
        simpa [hdocument, Schema.Checked.reject, Schema.Checked.problems,
          Schema.Checked.cautions] using hpath
      rw [htext, hroot]
      rfl
  | some entries =>
      rw [Schema.document_eq_record hmapping] at hpath hplaced
      obtain ⟨hproblems, hcautions⟩ := Schema.record_opensWithKey entries
      have hfound : Schema.OpensWithKey path ∧ Schema.LeadsInto [] root path := by
        cases hpath with
        | inl hmem =>
            obtain ⟨problem, hproblem, rfl⟩ := List.mem_map.mp hmem
            exact ⟨hproblems problem hproblem, hplaced.problems problem hproblem⟩
        | inr hmem =>
            obtain ⟨caution, hcaution, rfl⟩ := List.mem_map.mp hmem
            exact ⟨hcautions caution hcaution, hplaced.cautions caution hcaution⟩
      obtain ⟨hopens, rest, hplace, heq⟩ := hfound
      rw [List.nil_append] at heq
      subst rest
      exact ⟨htext ▸ hopens.text_ne_rootText, path, hopens.isAddress, hplace, htext⟩

/-- The message is missing, a given name of the article is a number, and its issue is no number. -/
def misfiledDocument : Yaml.Value :=
  .mapping [(.string "cff-version", .string "1.2.0"), (.string "title", .string "T"),
    (.string "authors", .sequence [.mapping [(.string "name", .string "X")]]),
    (.string "preferred-citation", .tagged "!paper" (.mapping [
      (.string "type", .string "article"), (.string "title", .string "P"),
      (.string "authors", .sequence [.mapping [(.string "family-names", .string "A")],
        .mapping [(.string "family-names", .string "B"),
          (.string "given-names", .number (.integer 3))]]),
      (.string "number", .null), (.string "issue", .string "x")]))]

theorem misfiledDocument_issue_addressed :
    let issue : Issue := ⟨"preferred-citation.authors[1].given-names",
      "expected a string, found a number", .error⟩
    issue ∈ issues (ofDocument misfiledDocument) ∧ issue.path ≠ "$" ∧
      ∃ path : Schema.Path, path.IsAddress ∧ Schema.IsPlaceIn misfiledDocument path ∧
        issue.path = path.text := by
  have hissue : (⟨"preferred-citation.authors[1].given-names",
      "expected a string, found a number", .error⟩ : Issue) ∈
        issues (ofDocument misfiledDocument) := by
    decide +kernel
  exact ⟨hissue, ofDocument_issues_addressed hissue⟩

end Validated

end CitationFile
