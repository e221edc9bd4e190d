import CitationFile.Proofs.Schema.Distinct

/-! The order of the issues of a report. They follow the order in which the fields are checked,
which is that of the schema; so they follow the document as far as the document follows the schema.
-/

namespace CitationFile

namespace Schema

open Yaml

def position? (entries : List (Value × Value)) (key : String) : Option Nat :=
  entries.findIdx? fun entry => entry.1.isKey key

def Precedes (entries : List (Value × Value)) (first second : String) : Prop :=
  ∃ i j, position? entries first = some i ∧ position? entries second = some j ∧ i < j

/-- Of two issues at or below keys of the mapping, that of the earlier key is listed earlier. -/
def InDocumentOrder (entries : List (Value × Value)) (issues : List Issue) : Prop :=
  ∀ first ∈ recordKeys, ∀ second ∈ recordKeys, Precedes entries first second →
    ∀ (i j : Nat) (earlier later : Issue), issues[i]? = some earlier → issues[j]? = some later →
      earlier.isBelow first → later.isBelow second → i < j

theorem Precedes.ne {entries : List (Value × Value)} {first second : String}
    (h : Precedes entries first second) : first ≠ second := by
  rintro rfl
  obtain ⟨i, j, hi, hj, hlt⟩ := h
  cases Option.some.inj (hi.symm.trans hj)
  exact Nat.lt_irrefl i hlt

private theorem recordKeys_pairwise :
    recordKeys.Pairwise fun first second =>
      recordKeys.idxOf first < recordKeys.idxOf second := by
  decide

private theorem isBelow_iff_eq_key {fields : Fields} (hpath : fields.path = []) {check : FieldCheck}
    (hcheck : check ∈ recordFields) {problem : Problem}
    (hproblem : problem ∈ (check.verdict fields).problems) {name : String}
    (hname : name ∈ recordKeys) : problem.issue.isBelow name ↔ name = check.key := by
  have hkey := recordKeys_isPlain _ (key_mem_recordKeys hcheck)
  obtain ⟨rest, hrest, heq⟩ :=
    (recordFields_isOrderly check hcheck fields).problems.below _ (List.mem_map_of_mem hproblem)
  rw [Fields.pathOf, hpath, List.nil_append, List.singleton_append] at heq
  have haddress : problem.path.IsAddress := by
    rw [heq]
    exact List.forall_mem_cons.mpr ⟨hkey, hrest⟩
  have habove : Path.IsAddress [.key name] := by
    simpa [Path.IsAddress] using recordKeys_isPlain name hname
  have htext : Path.text [.key name] = name := by simp [Path.text]
  have hiff : problem.issue.isBelow (Path.text [.key name]) ↔ [.key name] <+: problem.path :=
    isBelow_text_iff rfl haddress habove
  rw [htext, heq] at hiff
  simpa using hiff

def InSchemaOrder (issues : List Issue) : Prop :=
  issues.Pairwise fun earlier later =>
    ∀ first ∈ recordKeys, ∀ second ∈ recordKeys, earlier.isBelow first → later.isBelow second →
      recordKeys.idxOf first ≤ recordKeys.idxOf second

theorem InSchemaOrder.idxOf_le {issues : List Issue} (h : InSchemaOrder issues) {i j : Nat}
    (hlt : i < j) {earlier later : Issue} (hi : issues[i]? = some earlier)
    (hj : issues[j]? = some later) {first second : String} (hfirst : first ∈ recordKeys)
    (hsecond : second ∈ recordKeys) (hbelow : earlier.isBelow first)
    (hother : later.isBelow second) : recordKeys.idxOf first ≤ recordKeys.idxOf second := by
  obtain ⟨hilen, rfl⟩ := List.getElem?_eq_some_iff.mp hi
  obtain ⟨hjlen, rfl⟩ := List.getElem?_eq_some_iff.mp hj
  exact List.pairwise_iff_getElem.mp h i j hilen hjlen hlt first hfirst second hsecond hbelow hother

theorem record_inSchemaOrder (entries : List (Value × Value)) :
    InSchemaOrder ((record ⟨[], entries⟩).problems.map Problem.issue) := by
  rw [InSchemaOrder, List.pairwise_map, ← Checked.problems_verdict, verdict_record,
    problems_checkFields, List.pairwise_flatMap]
  constructor
  · -- The problems of one field lie below one key.
    intro check hcheck
    apply List.pairwise_of_forall_mem_list
    intro earlier hearlier later hlater first hfirst second hsecond hbelow hother
    rw [isBelow_iff_eq_key rfl hcheck hearlier hfirst] at hbelow
    rw [isBelow_iff_eq_key rfl hcheck hlater hsecond] at hother
    rw [hbelow, hother]
  · -- Those of different fields come in the order of the fields.
    have hkeys : (recordFields.map (·.key)).Pairwise fun first second =>
        recordKeys.idxOf first < recordKeys.idxOf second := recordKeys_pairwise
    rw [List.pairwise_map] at hkeys
    refine hkeys.imp_of_mem ?_
    intro check other hcheck hother hlt earlier hearlier later hlater first hfirst second hsecond
      hbelow hbelowOther
    rw [isBelow_iff_eq_key rfl hcheck hearlier hfirst] at hbelow
    rw [isBelow_iff_eq_key rfl hother hlater hsecond] at hbelowOther
    rw [hbelow, hbelowOther]
    exact Nat.le_of_lt hlt

theorem eq_of_isBelow {entries : List (Value × Value)} {issue : Issue}
    (hissue : issue ∈ (record ⟨[], entries⟩).problems.map Problem.issue) {first second : String}
    (hfirst : first ∈ recordKeys) (hsecond : second ∈ recordKeys)
    (hbelow : issue.isBelow first) (hother : issue.isBelow second) : first = second := by
  obtain ⟨problem, hproblem, rfl⟩ := List.mem_map.mp hissue
  rw [← Checked.problems_verdict, verdict_record, problems_checkFields] at hproblem
  obtain ⟨check, hcheck, hproblem⟩ := List.mem_flatMap.mp hproblem
  rw [isBelow_iff_eq_key rfl hcheck hproblem hfirst] at hbelow
  rw [isBelow_iff_eq_key rfl hcheck hproblem hsecond] at hother
  exact hbelow.trans hother.symm

end Schema

theorem Report.references_iff {report : Report} {path : String} :
    report.references path ↔
      ∃ (i : Nat) (issue : Issue), report.issues[i]? = some issue ∧ issue.isBelow path := by
  rw [Report.references, List.any_eq_true]
  constructor
  · rintro ⟨issue, hmem, hbelow⟩
    obtain ⟨i, hi⟩ := List.mem_iff_getElem?.mp hmem
    exact ⟨i, issue, hi, hbelow⟩
  · rintro ⟨i, issue, hi, hbelow⟩
    exact ⟨issue, List.mem_of_getElem? hi, hbelow⟩

namespace Validated

open Schema (recordKeys Precedes InDocumentOrder)

theorem issues_of_ofDocument_eq_error {root : Yaml.Value} {report : Report}
    {entries : List (Yaml.Value × Yaml.Value)} (hroot : root.mapping? = some entries)
    (h : ofDocument root = .error report) :
    report.issues = (Schema.record ⟨[], entries⟩).problems.map Schema.Problem.issue := by
  rw [← Schema.document_eq_record hroot, ← errors_ofDocument, h]
  rfl

/-- The issues of a report are in document order exactly if the keys at fault stand in the document
in the order in which they are checked. -/
theorem issues_inDocumentOrder_iff {root : Yaml.Value} {report : Report}
    {entries : List (Yaml.Value × Yaml.Value)} (hroot : root.mapping? = some entries)
    (h : ofDocument root = .error report) :
    InDocumentOrder entries report.issues ↔
      ∀ first ∈ recordKeys, ∀ second ∈ recordKeys, report.references first →
        report.references second → Precedes entries first second →
        recordKeys.idxOf first < recordKeys.idxOf second := by
  have hissues := issues_of_ofDocument_eq_error hroot h
  have hschema : Schema.InSchemaOrder report.issues :=
    hissues ▸ Schema.record_inSchemaOrder entries
  constructor
  · intro horder first hfirst second hsecond hreferences hother hprecedes
    obtain ⟨i, earlier, hi, hbelow⟩ := Report.references_iff.mp hreferences
    obtain ⟨j, later, hj, hbelowOther⟩ := Report.references_iff.mp hother
    have hlt := horder first hfirst second hsecond hprecedes i j earlier later hi hj hbelow
      hbelowOther
    have hle := hschema.idxOf_le hlt hi hj hfirst hsecond hbelow hbelowOther
    have hne : recordKeys.idxOf first ≠ recordKeys.idxOf second :=
      fun heq => hprecedes.ne ((List.idxOf_inj hfirst).mp heq)
    omega
  · intro horder first hfirst second hsecond hprecedes i j earlier later hi hj hbelow hother
    have hreferences : report.references first :=
      Report.references_iff.mpr ⟨i, earlier, hi, hbelow⟩
    have hreferencesOther : report.references second :=
      Report.references_iff.mpr ⟨j, later, hj, hother⟩
    have hlt := horder first hfirst second hsecond hreferences hreferencesOther hprecedes
    rcases Nat.lt_trichotomy i j with hij | rfl | hji
    · exact hij
    · cases Option.some.inj (hi.symm.trans hj)
      have hmem := hissues ▸ List.mem_of_getElem? hi
      exact absurd (Schema.eq_of_isBelow hmem hfirst hsecond hbelow hother) hprecedes.ne
    · have hle := hschema.idxOf_le hji hj hi hsecond hfirst hother hbelow
      omega

def shuffledEntries : List (Yaml.Value × Yaml.Value) :=
  [(.string "title", .string ""), (.string "message", .string ""),
    (.string "cff-version", .string "1.2.0"),
    (.string "authors", .sequence [.mapping [(.string "name", .string "X")]])]

/-- The title stands before the message, and both are blank. -/
def shuffledDocument : Yaml.Value :=
  .mapping shuffledEntries

def shuffledReport : Report :=
  ⟨[⟨"message", "must not be empty", .error⟩, ⟨"title", "must not be empty", .error⟩]⟩

theorem ofDocument_shuffledDocument : ofDocument shuffledDocument = .error shuffledReport := by
  decide +kernel

theorem shuffledDocument_inDocumentOrder_iff :
    shuffledDocument.mapping? = some shuffledEntries ∧
      ofDocument shuffledDocument = .error shuffledReport ∧
      (InDocumentOrder shuffledEntries shuffledReport.issues ↔
        ∀ first ∈ recordKeys, ∀ second ∈ recordKeys, shuffledReport.references first →
          shuffledReport.references second → Precedes shuffledEntries first second →
          recordKeys.idxOf first < recordKeys.idxOf second) :=
  ⟨rfl, ofDocument_shuffledDocument, issues_inDocumentOrder_iff rfl ofDocument_shuffledDocument⟩

theorem shuffledDocument_not_inDocumentOrder :
    ∃ entries report, shuffledDocument.mapping? = some entries ∧
      ofDocument shuffledDocument = .error report ∧ ¬ InDocumentOrder entries report.issues := by
  refine ⟨shuffledEntries, shuffledReport, rfl, ofDocument_shuffledDocument, ?_⟩
  intro horder
  have hprecedes : Precedes shuffledEntries "title" "message" := ⟨0, 1, rfl, rfl, by decide⟩
  have hlt := horder "title" (by decide) "message" (by decide) hprecedes 1 0 _ _ rfl rfl
    (by decide) (by decide)
  exact absurd hlt (by decide)

end Validated

end CitationFile
