import CitationFile.Proofs.Schema.Distinct
import CitationFile.Proofs.Schema.Inversion
import Mathlib.Algebra.Group.Nat.Defs

/-! The numbers of a preferred citation: volume, number, year and month. A field holds the number
that its value denotes, within the bounds of the field, and nothing else; a value that denotes none
is told once, at the key under which it stands. -/

namespace CitationFile

namespace Schema

open Yaml

theorem Checked.IsClear.problems_of_value?_eq_none {path : Path} {result : Checked α}
    (h : result.IsClear path) (hnone : result.value? = none) :
    result.problems.map Problem.path = [path] := by
  cases h with
  | accept value => cases hnone
  | reject fault => rfl

inductive NumberField where
  | volume | number | year | month
deriving DecidableEq, Repr

namespace NumberField

/-- The names of the field. The second is read only where there is no value under the first. -/
def keys : NumberField → List String
  | volume => ["volume"]
  | number => ["number", "issue"]
  | year => ["year"]
  | month => ["month"]

/-- Numbers have 32 bits. -/
def Admits : NumberField → Nat → Prop
  | volume, value | number, value => value ≤ 2 ^ 32 - 1
  | year, value => 1 ≤ value ∧ value ≤ 2 ^ 32 - 1
  | month, value => 1 ≤ value ∧ value ≤ 12

def ofCitation : NumberField → PreferredCitation → Option Nat
  | volume, citation => citation.volume
  | number, citation => citation.number
  | year, citation => citation.year
  | month, citation => citation.month

/-- The key under which the field is looked up, and the value found there. -/
def source? (field : NumberField) (entries : List (Value × Value)) : Option (String × Value) :=
  field.keys.findSome? fun key => (field? entries key).map fun value => (key, value)

/-- The value of the field is an untagged integer, or an untagged text that spells one. -/
def Holds (field : NumberField) (entries : List (Value × Value)) (number : Nat) : Prop :=
  ∃ key value, field.source? entries = some (key, value) ∧ DenotesSuch field.Admits value number

def check : NumberField → Check Nat
  | volume | number => natural
  | year => positive
  | month => Schema.month

def keyIn : NumberField → Fields → String
  | volume, _ => "volume"
  | number, fields => numberKey fields
  | year, _ => "year"
  | month, _ => "month"

def checked (field : NumberField) (fields : Fields) : Checked (Option Nat) :=
  optional fields (field.keyIn fields) field.check

private theorem check_yields (field : NumberField) :
    field.check.Yields (DenotesSuch field.Admits) := by
  have hbound (value : Nat) : value < numberBound ↔ value ≤ 2 ^ 32 - 1 := Nat.lt_succ_iff
  intro path value result
  cases field with
  | volume | number =>
      exact (natural_yields path value result).trans (and_congr_right' (hbound result))
  | year =>
      refine (positive_yields path value result).trans (and_congr_right' ?_)
      exact (and_congr (hbound result) Nat.pos_iff_ne_zero.symm).trans and_comm
  | month =>
      refine (month_yields path value result).trans (and_congr_right' ?_)
      exact ⟨fun h => h.2, fun h => ⟨Nat.lt_of_le_of_lt h.2 (by decide), h⟩⟩

private theorem check_isClear (field : NumberField) : field.check.IsClear := by
  cases field with
  | volume | number => exact natural_isClear
  | year => exact positive_isClear
  | month => exact month_isClear

private theorem source?_eq (field : NumberField) (path : Path) (entries : List (Value × Value)) :
    field.source? entries =
      (field? entries (field.keyIn ⟨path, entries⟩)).map fun value =>
        (field.keyIn ⟨path, entries⟩, value) := by
  cases field with
  | number =>
      change List.findSome? _ ["number", "issue"] =
        (field? entries (numberKey ⟨path, entries⟩)).map fun value =>
          (numberKey ⟨path, entries⟩, value)
      unfold numberKey
      rw [Fields.find?_eq, List.findSome?_cons, List.findSome?_singleton]
      cases hnumber : field? entries "number" with
      | none => rfl
      | some value => simp [hnumber]
  | volume | year | month => exact List.findSome?_singleton

private theorem keyIn_mem_keys (field : NumberField) (fields : Fields) :
    field.keyIn fields ∈ field.keys := by
  cases field with
  | number => rcases numberKey_eq fields with h | h <;> simp [keyIn, keys, h]
  | volume | year | month => exact List.mem_singleton.mpr rfl

private theorem mem_citationFields (field : NumberField) (fields : Fields) :
    .optional (field.keyIn fields) field.check ∈ citationFields fields := by
  cases field <;> simp [citationFields, keyIn, check]

private theorem key_eq_of_mem_keys {field : NumberField} {fields : Fields} {check : FieldCheck}
    (hcheck : check ∈ citationFields fields) (hkey : check.key ∈ field.keys) :
    check.key = field.keyIn fields := by
  cases field with
  | volume | year | month => exact List.mem_singleton.mp hkey
  | number =>
      have hmem : check.key ∈ (citationFields fields).map (·.key) := List.mem_map_of_mem hcheck
      change check.key = numberKey fields
      rcases numberKey_eq fields with hnumber | hnumber <;>
        rcases List.mem_pair.mp hkey with hname | hname <;>
        rw [citationFields, hnumber, hname] at hmem <;> rw [hnumber, hname]
      · revert hmem
        decide
      · revert hmem
        decide

theorem value?_checked_eq_some_iff (field : NumberField) (path : Path)
    (entries : List (Value × Value)) (number : Nat) :
    (field.checked ⟨path, entries⟩).value?.join = some number ↔ field.Holds entries number := by
  unfold Holds checked optional
  rw [field.source?_eq path, Fields.find?_eq]
  cases field? entries (field.keyIn ⟨path, entries⟩) with
  | none => simp
  | some value => simp [Option.join_eq_some_iff, field.check_yields _ value number]

theorem value?_checked_of_citationYields (field : NumberField) {fields : Fields}
    {citation : PreferredCitation} (h : CitationYields fields citation) :
    (field.checked fields).value? = some (field.ofCitation citation) := by
  cases field with
  | volume => exact h.volume
  | number => exact h.number
  | year => exact h.year
  | month => exact h.month

/-! What a check of a number tells. -/

private theorem checked_isClear (field : NumberField) (fields : Fields) :
    (field.checked fields).IsClear (fields.pathOf (field.keyIn fields)) :=
  field.check_isClear.optional fields _

theorem problems_checked_of_not_holds {field : NumberField} {path : Path}
    {entries : List (Value × Value)} {key : String} {value : Value}
    (hsource : field.source? entries = some (key, value))
    (h : ¬ ∃ number, field.Holds entries number) :
    (field.checked ⟨path, entries⟩).problems.map Problem.path = [path ++ [.key key]] := by
  rw [field.source?_eq path, Option.map_eq_some_iff] at hsource
  obtain ⟨found, hfound, heq⟩ := hsource
  have hkey : field.keyIn ⟨path, entries⟩ = key := (Prod.mk.inj heq).1
  have hclear := field.checked_isClear ⟨path, entries⟩
  rw [hkey] at hclear
  apply hclear.problems_of_value?_eq_none
  cases hvalue : (field.checked ⟨path, entries⟩).value? with
  | none => rfl
  | some result =>
      have hresult : ∃ number, result = some number := by
        unfold checked optional at hvalue
        rw [Fields.find?_eq, hfound, Checked.value?_map, Option.map_eq_some_iff] at hvalue
        obtain ⟨number, -, rfl⟩ := hvalue
        exact ⟨number, rfl⟩
      obtain ⟨number, rfl⟩ := hresult
      have hholds := (field.value?_checked_eq_some_iff path entries number).mp (by rw [hvalue]; rfl)
      exact absurd ⟨number, hholds⟩ h

theorem problems_checked_of_holds {field : NumberField} {path : Path}
    {entries : List (Value × Value)}
    (h : field.source? entries = none ∨ ∃ number, field.Holds entries number) :
    (field.checked ⟨path, entries⟩).problems = [] := by
  rw [Checked.problems_eq_nil_iff]
  cases h with
  | inl hnone =>
      rw [field.source?_eq path, Option.map_eq_none_iff] at hnone
      unfold checked optional
      rw [Fields.find?_eq, hnone]
      rfl
  | inr hholds =>
      obtain ⟨number, hnumber⟩ := hholds
      rw [← field.value?_checked_eq_some_iff path, Option.join_eq_some_iff] at hnumber
      rw [hnumber]
      rfl

end NumberField

private theorem filter_checkFields {checks : List FieldCheck} {fields : Fields} {field : FieldCheck}
    {keep : Problem → Bool} (hfield : field ∈ checks) (hdistinct : (checks.map (·.key)).Nodup)
    (hothers : ∀ check ∈ checks, check.key ≠ field.key →
      ∀ problem ∈ (check.verdict fields).problems, keep problem = false) :
    (checkFields checks fields).problems.filter keep =
      (field.verdict fields).problems.filter keep := by
  obtain ⟨before, after, rfl⟩ := List.append_of_mem hfield
  rw [List.map_append, List.map_cons, List.nodup_middle, List.nodup_cons, ← List.map_append,
    List.mem_map] at hdistinct
  have hnone {checks : List FieldCheck} (hchecks : checks ⊆ before ++ after) :
      (checks.flatMap fun check => (check.verdict fields).problems.filter keep) = [] := by
    rw [List.flatMap_eq_nil_iff]
    intro check hcheck
    have hmem := hchecks hcheck
    have hne : check.key ≠ field.key := fun heq => hdistinct.1 ⟨check, hmem, heq⟩
    have hall := hothers check (by simpa using Or.imp_right Or.inr (List.mem_append.mp hmem)) hne
    simpa using hall
  rw [problems_checkFields, List.filter_flatMap, List.flatMap_append, List.flatMap_cons,
    hnone (List.subset_append_left before after), hnone (List.subset_append_right before after),
    List.nil_append, List.append_nil]

/-! The problems of a field are the same among those of the whole document. -/

private theorem problems_preferredCitation (path : Path) {value : Value}
    {entries : List (Value × Value)} (h : value.mapping? = some entries) :
    (preferredCitation path value).problems =
      (checkFields (citationFields ⟨path, entries⟩) ⟨path, entries⟩).problems := by
  obtain ⟨citation, heq, hverdict⟩ := exists_preferredCitation_eq path h
  rw [heq, problems_andThen_checkJournal, ← hverdict, Checked.problems_verdict]

def citationPath (key : String) : Path :=
  [.key "preferred-citation", .key key]

theorem text_citationPath (key : String) :
    "preferred-citation." ++ key = (citationPath key).text := by
  apply String.toList_inj.mp
  simp [citationPath, Path.toList_text_key]

def citationEntries? (root : Value) : Option (List (Value × Value)) :=
  root.mapping?.bind fun entries => (field? entries "preferred-citation").bind Value.mapping?

theorem isBelow_citationPath_iff {problem : Problem} {key : String}
    (hpath : problem.path.IsAddress) (hkey : (Step.key key).IsPlain) :
    problem.issue.isBelow (citationPath key).text ↔ citationPath key <+: problem.path := by
  have habove : (citationPath key).IsAddress := by
    intro step hstep
    rcases List.mem_pair.mp hstep with rfl | rfl
    · decide
    · exact hkey
  exact isBelow_text_iff rfl hpath habove

namespace NumberField

/-- Whether a problem lies at a name of the field or below it. -/
def concerns (field : NumberField) (problem : Problem) : Bool :=
  field.keys.any fun key => problem.issue.isBelow (citationPath key).text

private theorem isPlain_of_mem_keys {field : NumberField} {key : String} (h : key ∈ field.keys) :
    (Step.key key).IsPlain := by
  revert key
  cases field <;> decide

theorem concerns_iff {field : NumberField} {problem : Problem} (h : problem.path.IsAddress) :
    field.concerns problem ↔ ∃ key ∈ field.keys, citationPath key <+: problem.path := by
  rw [concerns, List.any_eq_true]
  refine exists_congr fun key => and_congr_right fun hkey => ?_
  exact isBelow_citationPath_iff h (isPlain_of_mem_keys hkey)

private theorem concerns_eq_false {field : NumberField} {problem : Problem}
    (h : problem.path.IsAddress) (hnone : ∀ key ∈ field.keys, ¬ citationPath key <+: problem.path) :
    field.concerns problem = false := by
  rw [Bool.eq_false_iff]
  intro hconcerns
  obtain ⟨key, hkey, hprefix⟩ := (concerns_iff h).mp hconcerns
  exact hnone key hkey hprefix

private theorem exists_path_of_mem_citation {entries : List (Value × Value)} {check : FieldCheck}
    (hcheck : check ∈ citationFields ⟨[.key "preferred-citation"], entries⟩) {problem : Problem}
    (h : problem ∈ (check.verdict ⟨[.key "preferred-citation"], entries⟩).problems) :
    problem.path.IsAddress ∧ ∃ rest, problem.path = citationPath check.key ++ rest := by
  obtain ⟨rest, hrest, hpath⟩ :=
    (citationFields_isOrderly _ check hcheck _).problems.below _ (List.mem_map_of_mem h)
  have hkey := (citationFields_keys _).2 check.key (List.mem_map_of_mem hcheck)
  refine ⟨?_, rest, hpath⟩
  rw [hpath]
  exact List.forall_mem_cons.mpr ⟨by decide, List.forall_mem_cons.mpr ⟨hkey, hrest⟩⟩

private theorem filter_concerns_citation (field : NumberField) (entries : List (Value × Value)) :
    (checkFields (citationFields ⟨[.key "preferred-citation"], entries⟩)
        ⟨[.key "preferred-citation"], entries⟩).problems.filter field.concerns =
      (field.checked ⟨[.key "preferred-citation"], entries⟩).problems := by
  have hmember := field.mem_citationFields ⟨[.key "preferred-citation"], entries⟩
  rw [filter_checkFields hmember (citationFields_keys _).1, ← verdict_optional,
    Checked.problems_verdict, ← checked, List.filter_eq_self]
  · intro problem hproblem
    rw [checked, ← Checked.problems_verdict, verdict_optional] at hproblem
    obtain ⟨haddress, rest, hpath⟩ := exists_path_of_mem_citation hmember hproblem
    exact (concerns_iff haddress).mpr ⟨_, field.keyIn_mem_keys _, rest, hpath.symm⟩
  · intro check hcheck hne problem hproblem
    obtain ⟨haddress, rest, hpath⟩ := exists_path_of_mem_citation hcheck hproblem
    refine concerns_eq_false haddress fun key hkey hprefix => hne ?_
    rw [hpath] at hprefix
    obtain rfl : key = check.key := by simpa [citationPath] using hprefix
    exact key_eq_of_mem_keys hcheck hkey

private theorem filter_concerns_document (field : NumberField) {root : Value}
    {entries : List (Value × Value)} (h : citationEntries? root = some entries) :
    (document root).problems.filter field.concerns =
      (field.checked ⟨[.key "preferred-citation"], entries⟩).problems := by
  obtain ⟨rootEntries, hroot, hcitation⟩ := Option.bind_eq_some_iff.mp h
  obtain ⟨value, hvalue, hmapping⟩ := Option.bind_eq_some_iff.mp hcitation
  let fields : Fields := ⟨[], rootEntries⟩
  have hmember : FieldCheck.optional "preferred-citation" preferredCitation ∈ recordFields := by
    simp [recordFields]
  have hchecked : ((FieldCheck.optional "preferred-citation" preferredCitation).verdict
      fields).problems = (preferredCitation [.key "preferred-citation"] value).problems := by
    unfold FieldCheck.optional FieldCheck.verdict
    rw [Fields.find?_eq, hvalue]
    exact Checked.problems_verdict _
  have hothers : ∀ check ∈ recordFields, check.key ≠ "preferred-citation" →
      ∀ problem ∈ (check.verdict fields).problems, field.concerns problem = false := by
    intro check hcheck hkey problem hproblem
    obtain ⟨rest, hrest, hpath⟩ :=
      (recordFields_isOrderly check hcheck fields).problems.below _ (List.mem_map_of_mem hproblem)
    have haddress : problem.path.IsAddress := by
      rw [hpath]
      exact List.forall_mem_cons.mpr
        ⟨recordKeys_isPlain check.key (key_mem_recordKeys hcheck), hrest⟩
    refine concerns_eq_false haddress fun key _ hprefix => hkey ?_
    rw [hpath] at hprefix
    exact (Step.key.inj (List.cons_prefix_cons.mp hprefix).1).symm
  rw [document_eq_record hroot, ← Checked.problems_verdict, verdict_record,
    filter_checkFields hmember recordKeys_nodup hothers, hchecked,
    problems_preferredCitation _ hmapping, filter_concerns_citation]

/-- Where a validation tells something about the field. -/
def toldAt (field : NumberField) (root : Value) : List String :=
  ((Validated.errors (Validated.ofDocument root)).filter fun issue =>
    field.keys.any fun key => issue.isBelow ("preferred-citation." ++ key)).map Issue.path

theorem toldAt_eq (field : NumberField) {root : Value} {entries : List (Value × Value)}
    (h : citationEntries? root = some entries) :
    field.toldAt root =
      (field.checked ⟨[.key "preferred-citation"], entries⟩).problems.map (·.path.text) := by
  rw [toldAt, Validated.errors_ofDocument, List.filter_map, List.map_map,
    ← filter_concerns_document field h]
  simp only [text_citationPath]
  rfl

/-- What is read off the field of a citation, and what is told about it. -/
structure IsRead (field : NumberField) (root : Value) (entries : List (Value × Value)) : Prop where
  /-- The check of the field finds a number exactly if the field holds it. -/
  found : ∀ path number,
    (field.checked ⟨path, entries⟩).value?.join = some number ↔ field.Holds entries number
  /-- So does the citation of an accepted document. -/
  kept : ∀ validated, Validated.ofDocument root = .ok validated →
    ∃ citation, validated.record.preferredCitation = some citation ∧
      ∀ number, field.ofCitation citation = some number ↔ field.Holds entries number
  /-- A value that does not do is told once, at the key that was read. -/
  told : ∀ key value, field.source? entries = some (key, value) →
    (¬ ∃ number, field.Holds entries number) →
    field.toldAt root = ["preferred-citation." ++ key]
  silent : (field.source? entries = none ∨ ∃ number, field.Holds entries number) →
    field.toldAt root = []

theorem exists_citation_of_ofDocument {root : Value} {entries : List (Value × Value)}
    (h : citationEntries? root = some entries) {validated : Validated}
    (hvalid : Validated.ofDocument root = .ok validated) :
    ∃ citation, validated.record.preferredCitation = some citation ∧
      CitationYields ⟨[.key "preferred-citation"], entries⟩ citation := by
  obtain ⟨rootEntries, hroot, hcitation⟩ := Option.bind_eq_some_iff.mp h
  obtain ⟨value, hvalue, hmapping⟩ := Option.bind_eq_some_iff.mp hcitation
  obtain ⟨others, hothers, hyields⟩ :=
    recordYields_of_document (Validated.value?_of_ofChecked_eq_ok hvalid)
  obtain rfl := Option.some.inj (hroot.symm.trans hothers)
  have hpreferred := hyields.preferredCitation
  unfold optional at hpreferred
  rw [Fields.find?_eq, hvalue, Checked.value?_map, Option.map_eq_some_iff] at hpreferred
  obtain ⟨citation, hcitation, hrecord⟩ := hpreferred
  obtain ⟨inner, hinner, hcitationYields⟩ := citationYields_of_preferredCitation hcitation
  obtain rfl := Option.some.inj (hmapping.symm.trans hinner)
  exact ⟨citation, hrecord.symm, hcitationYields⟩

/-- Whatever else is right or wrong with the document. -/
theorem isRead_of_citationEntries (field : NumberField) {root : Value}
    {entries : List (Value × Value)} (h : citationEntries? root = some entries) :
    field.IsRead root entries := by
  constructor
  · exact fun path number => field.value?_checked_eq_some_iff path entries number
  · intro validated hvalid
    obtain ⟨citation, hcitation, hyields⟩ := exists_citation_of_ofDocument h hvalid
    refine ⟨citation, hcitation, fun number => ?_⟩
    rw [← field.value?_checked_eq_some_iff [.key "preferred-citation"],
      field.value?_checked_of_citationYields hyields]
    rfl
  · intro key value hsource hnone
    have hpaths : (field.checked ⟨[.key "preferred-citation"], entries⟩).problems.map
        Problem.path = [citationPath key] := problems_checked_of_not_holds hsource hnone
    rw [field.toldAt_eq h, ← Function.comp_def, ← List.map_map, hpaths, text_citationPath]
    rfl
  · intro hholds
    rw [field.toldAt_eq h, problems_checked_of_holds hholds, List.map_nil]

def issueEntries : List (Value × Value) :=
  [(.string "type", .string "article"), (.string "title", .string "t"),
    (.string "number", .null), (.string "issue", .number (.integer 4294967296)),
    (.string "month", .string " +7 ")]

/-- A citation without authors, in an issue whose number is too great by one. -/
def issueDocument : Value :=
  .mapping [(.string "message", .string "m"),
    (.string "preferred-citation", .mapping issueEntries)]

theorem issueDocument_isRead :
    citationEntries? issueDocument = some issueEntries ∧
      number.IsRead issueDocument issueEntries :=
  ⟨rfl, number.isRead_of_citationEntries rfl⟩

end NumberField

end Schema

end CitationFile
