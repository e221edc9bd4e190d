import CitationFile.Proofs.Schema.Distinct
import CitationFile.Proofs.Schema.Inversion

/-! What the cautions about an accepted document are. Each check that accepts a value tells its
doubts by the value alone, so that all cautions can be read off the record, in the order of the
schema. -/

namespace CitationFile.Schema

open Yaml

namespace Checked

@[simp] theorem cautions_map (f : α → β) (result : Checked α) :
    (result.map f).cautions = result.cautions := by
  cases result <;> rfl

private theorem cautions_warnIf_accept (condition : Bool) (path : Path) (doubt : Doubt)
    (value : α) :
    ((accept value).warnIf condition path doubt).cautions =
      if condition then [⟨path, doubt⟩] else [] := by
  cases condition <;> rfl

private theorem cautions_apply {function : Checked (α → β)} {argument : Checked α}
    (h : (function.apply argument).value?.isSome) :
    (function.apply argument).cautions = function.cautions ++ argument.cautions := by
  cases function <;> cases argument <;> simp [apply, value?, cautions] at h ⊢

private theorem cautions_andThen {result : Checked α} {next : α → Checked β} {value : α}
    (hvalue : result.value? = some value) (h : (next value).value?.isSome) :
    (result.andThen next).cautions = result.cautions ++ (next value).cautions := by
  cases result with
  | rejected first others => simp [value?] at hvalue
  | accepted accepted before =>
      obtain rfl : accepted = value := Option.some.inj hvalue
      cases hnext : next accepted with
      | accepted final after => simp [andThen, hnext, cautions]
      | rejected first others => simp [hnext, value?] at h

private theorem cautions_both {first second : Checked Unit}
    (h : (first.both second).problems = []) :
    (first.both second).cautions = first.cautions ++ second.cautions := by
  cases first <;> cases second <;> simp [both, apply, map, problems, cautions] at h ⊢

private theorem cautions_verdicts {results : List (Checked Unit)}
    (h : (verdicts results).problems = []) :
    (verdicts results).cautions = results.flatMap cautions := by
  induction results with
  | nil => rfl
  | cons result rest ih =>
      rw [verdicts_cons] at h ⊢
      have hrest : (verdicts rest).problems = [] := by
        rw [problems_both] at h
        exact (List.append_eq_nil_iff.mp h).2
      rw [cautions_both h, ih hrest, List.flatMap_cons]

end Checked

private theorem cautions_checkFields {checks : List FieldCheck} {fields : Fields}
    (h : (checkFields checks fields).problems = []) :
    (checkFields checks fields).cautions =
      checks.flatMap fun check => (check.verdict fields).cautions := by
  rw [checkFields, Checked.cautions_verdicts h, List.flatMap_map]

/-- The cautions of a check, where it accepts, told by the value that it accepts. -/
def Check.Doubts (check : Check α) (doubts : Path → α → List Caution) : Prop :=
  ∀ path value result, (check path value).value? = some result →
    (check path value).cautions = doubts path result

section Fields

variable {check : Check α} {doubts : Path → α → List Caution} {fields : Fields} {key : String}

private theorem Check.Doubts.required (h : check.Doubts doubts) {result : α}
    (hresult : (required fields key check).value? = some result) :
    (Schema.required fields key check).cautions = doubts (fields.pathOf key) result := by
  unfold Schema.required at hresult ⊢
  cases hfound : fields.find? key with
  | none => simp [hfound] at hresult
  | some value =>
      rw [hfound] at hresult
      exact h _ value result hresult

private theorem Check.Doubts.optional (h : check.Doubts doubts) {result : Option α}
    (hresult : (optional fields key check).value? = some result) :
    (Schema.optional fields key check).cautions =
      result.elim [] (doubts (fields.pathOf key)) := by
  unfold Schema.optional at hresult ⊢
  cases hfound : fields.find? key with
  | none =>
      rw [hfound] at hresult
      cases hresult
      rfl
  | some value =>
      simp only [hfound, Checked.value?_map, Option.map_eq_some_iff] at hresult
      obtain ⟨inner, hinner, rfl⟩ := hresult
      simpa using h _ value inner hinner

private theorem Check.IsQuiet.cautions_required (h : check.IsQuiet) :
    (Schema.required fields key check).cautions = [] := by
  rw [← Checked.cautions_verdict, verdict_required]
  exact h.required key fields

private theorem Check.IsQuiet.cautions_optional (h : check.IsQuiet) :
    (Schema.optional fields key check).cautions = [] := by
  rw [← Checked.cautions_verdict, verdict_optional]
  exact h.optional key fields

end Fields

/-- The doubts about the items of a list, each at the place of its item. -/
def itemDoubts (doubts : Path → α → List Caution) (path : Path) (results : List α) :
    List Caution :=
  results.zipIdx.flatMap fun (result, index) => doubts (path ++ [.item index]) result

private theorem Check.Doubts.all {check : Check α} {doubts : Path → α → List Caution}
    (h : check.Doubts doubts) (path : Path) {items : List Value} {start : Nat} {results : List α}
    (hresults : (Checked.all ((items.zipIdx start).map fun entry =>
      check (path ++ [.item entry.2]) entry.1)).value? = some results) :
    (Checked.all ((items.zipIdx start).map fun entry =>
      check (path ++ [.item entry.2]) entry.1)).cautions =
      (results.zipIdx start).flatMap fun entry => doubts (path ++ [.item entry.2]) entry.1 := by
  induction items generalizing start results with
  | nil =>
      cases hresults
      rfl
  | cons item rest ih =>
      rw [List.zipIdx_cons, List.map_cons, Checked.all] at hresults ⊢
      rw [Checked.cautions_apply (by rw [hresults, Option.isSome_some])]
      simp only [Checked.value?_apply_eq_some, Checked.value?_map, Option.map_eq_some_iff]
        at hresults
      obtain ⟨f, others, ⟨result, hresult, rfl⟩, hothers, rfl⟩ := hresults
      rw [Checked.cautions_map, h _ item result hresult, ih hothers, List.zipIdx_cons,
        List.flatMap_cons]

private theorem Check.Doubts.listOf {check : Check α} {doubts : Path → α → List Caution}
    (h : check.Doubts doubts) : (listOf check).Doubts (itemDoubts doubts) := by
  intro path value results hresults
  unfold Schema.listOf at hresults ⊢
  cases hitems : value.sequence? with
  | none => simp [hitems] at hresults
  | some items =>
      simp only [hitems, List.mapIdx_eq_zipIdx_map] at hresults ⊢
      exact h.all path hresults

private theorem Check.Doubts.optionalList {check : Check (List α)}
    {doubts : Path → List α → List Caution}
    (h : check.Doubts doubts) (hnone : ∀ path, doubts path [] = []) {fields : Fields}
    {key : String} {results : List α}
    (hresults : (optionalList fields key check).value? = some results) :
    (Schema.optionalList fields key check).cautions = doubts (fields.pathOf key) results := by
  rw [Schema.optionalList, Checked.cautions_map]
  rw [Schema.optionalList, Checked.value?_map, Option.map_eq_some_iff] at hresults
  obtain ⟨list?, hlist, rfl⟩ := hresults
  rw [h.optional hlist]
  cases list? with
  | none => exact (hnone _).symm
  | some results => rfl

def majorText (version : List Char) : List Char :=
  version.takeWhile (· ≠ '.')

private theorem IsVersionOf.majorText_eq {major text : List Char} (h : IsVersionOf major text) :
    majorText text = major := by
  obtain ⟨minor, patch, hmajor, -, -, rfl⟩ := h
  have hplain : ∀ c ∈ major, !decide (c = '.') := by
    intro c hc
    have hne : c ≠ '.' := ne_of_mem_of_not_mem hc (hmajor.not_mem (by decide))
    simpa using hne
  simp [majorText, List.takeWhile_append_of_pos hplain]

def versionDoubts (path : Path) (version : String) : List Caution :=
  if majorText version.toList = ['1'] then [] else [⟨path, .schemaVersion version⟩]

def doiDoubts (path : Path) (doi : String) : List Caution :=
  if Doi.isValid doi then [] else [⟨path, .suspectDoi doi⟩]

private theorem cautions_text_andThen {path : Path} {value : Value} {next : String → Checked α}
    {result : α} (h : ((text path value).andThen next).value? = some result) :
    ∃ string, (next string).value? = some result ∧
      ((text path value).andThen next).cautions = (next string).cautions := by
  rw [Checked.value?_andThen, Option.bind_eq_some_iff] at h
  obtain ⟨string, hstring, hnext⟩ := h
  refine ⟨string, hnext, ?_⟩
  rw [Checked.cautions_andThen hstring (by rw [hnext, Option.isSome_some]),
    text_isClear.isQuiet path value, List.nil_append]

private theorem version_doubts : Check.Doubts version versionDoubts := by
  intro path value result h
  obtain ⟨string, hnext, hcautions⟩ := cautions_text_andThen h
  rw [show (version path value).cautions = _ from hcautions]
  cases hmajor : majorVersion? string.toList with
  | none => simp [hmajor] at hnext
  | some major =>
      obtain rfl : string = result := by simpa [hmajor] using hnext
      rw [versionDoubts, (majorVersion?_eq_some_iff.mp hmajor).majorText_eq]
      simp [Checked.cautions_warnIf_accept]

private theorem cautions_checkDoi (path : Path) (string : String) :
    (checkDoi path string).cautions = doiDoubts path string := by
  rw [checkDoi, Checked.cautions_warnIf_accept, doiDoubts]
  cases Doi.isValid string <;> rfl

private theorem doi_doubts : Check.Doubts doi doiDoubts := by
  intro path value result h
  obtain ⟨string, hnext, hcautions⟩ := cautions_text_andThen h
  obtain rfl := checkDoi_eq_some_iff.mp hnext
  exact hcautions.trans (cautions_checkDoi path string)

def identifierDoubts (path : Path) (identifier : Identifier) : List Caution :=
  if identifier.type = .doi then doiDoubts (path ++ [.key "value"]) identifier.value else []

def citationDoubts (path : Path) (citation : PreferredCitation) : List Caution :=
  citation.doi.elim [] (doiDoubts (path ++ [.key "doi"])) ++
    if lacksJournal citation then [⟨path ++ [.key "journal"], .articleWithoutJournal⟩] else []

private theorem cautions_checkIdentifier (path : Path) (kind : IdentifierType) (string : String) :
    (checkIdentifier path kind string).cautions =
      if kind = .doi then doiDoubts path string else [] := by
  cases kind with
  | doi => exact cautions_checkDoi path string
  | url => exact (checkUrl_isClear path string).cautions_eq_nil
  | swh | other => rfl

private theorem cautions_typedValue {fields : Fields} {kind : IdentifierType} {string : String}
    (h : (typedValue fields).value? = some (kind, string)) :
    (typedValue fields).cautions =
      if kind = .doi then doiDoubts (fields.pathOf "value") string else [] := by
  simp only [typedValue, Checked.map_eq, Checked.seq_eq, Checked.value?_andThen,
    Option.bind_eq_some_iff, Checked.value?_map, Option.map_eq_some_iff] at h
  obtain ⟨⟨type, text⟩, htyped, _, hsuits, heq⟩ := h
  obtain ⟨rfl, rfl⟩ := Prod.mk.inj heq
  obtain ⟨-, rfl⟩ := checkIdentifier_eq_some_iff.mp hsuits
  rw [typedValue, Checked.map_eq, Checked.seq_eq,
    Checked.cautions_andThen htyped (by simp [hsuits]), Checked.cautions_apply (by simp [htyped]),
    Checked.cautions_map, identifierType_isClear.isQuiet.cautions_required,
    text_isClear.isQuiet.cautions_required, Checked.cautions_map, cautions_checkIdentifier]
  rfl

private theorem identifier_doubts : Check.Doubts identifier identifierDoubts := by
  intro path value result h
  unfold identifier at h ⊢
  cases hmapping : value.mapping? with
  | none => simp [hmapping] at h
  | some entries =>
      simp only [hmapping, Checked.map_eq, Checked.seq_eq] at h ⊢
      rw [Checked.cautions_apply (by rw [h, Option.isSome_some]), Checked.cautions_map,
        text_isClear.isQuiet.cautions_optional, List.nil_append]
      simp only [Checked.value?_apply_eq_some, Checked.value?_map, Option.map_eq_some_iff,
        ↓existsAndEq, and_assoc, exists_and_left, true_and] at h
      obtain ⟨description, -, ⟨kind, string⟩, htyped, rfl⟩ := h
      exact cautions_typedValue htyped

private theorem cautions_checkJournal (fields : Fields) (citation : PreferredCitation) :
    (checkJournal fields citation).cautions =
      if lacksJournal citation then [⟨fields.pathOf "journal", .articleWithoutJournal⟩] else [] :=
  Checked.cautions_warnIf_accept _ _ _ _

private theorem preferredCitation_doubts : Check.Doubts preferredCitation citationDoubts := by
  intro path value result h
  obtain ⟨entries, hmapping, hfields⟩ := citationYields_of_preferredCitation h
  obtain ⟨citation, heq, hverdict⟩ := exists_preferredCitation_eq path hmapping
  have hvalue : citation.value? = some result := by
    simpa [heq, checkJournal_eq_some] using h
  have hproblems : citation.problems = [] := by
    rw [Checked.problems_eq_nil_iff, hvalue, Option.isSome_some]
  -- Of the fields only the DOI is doubted on its own.
  have hcautions : citation.cautions = result.doi.elim [] (doiDoubts (path ++ [.key "doi"])) := by
    rw [← Checked.problems_verdict, hverdict] at hproblems
    rw [← Checked.cautions_verdict, hverdict, cautions_checkFields hproblems,
      cautions_citationFields, ← verdict_optional, Checked.cautions_verdict,
      doi_doubts.optional hfields.doi]
    rfl
  rw [heq, Checked.cautions_andThen hvalue (by simp [checkJournal_eq_some]), hcautions,
    cautions_checkJournal]
  rfl

/-- The doubts about a record, in the order of the schema. -/
def recordDoubts (record : Record) : List Caution :=
  versionDoubts [.key "cff-version"] record.cffVersion ++
    (itemDoubts identifierDoubts [.key "identifiers"] record.identifiers ++
      record.preferredCitation.elim [] (citationDoubts [.key "preferred-citation"]))

private theorem cautions_recordFields (fields : Fields) :
    (recordFields.flatMap fun check => (check.verdict fields).cautions) =
      ((FieldCheck.required "cff-version" version).verdict fields).cautions ++
        (((FieldCheck.optional "identifiers" (listOf identifier)).verdict fields).cautions ++
          ((FieldCheck.optional "preferred-citation" preferredCitation).verdict
            fields).cautions) := by
  simp [recordFields, text_isClear.isQuiet.required, authors_isQuiet.required,
    text_isClear.isQuiet.optional, textOrNumber_isClear.isQuiet.optional,
    date_isClear.isQuiet.optional, url_isClear.isQuiet.optional,
    keyword_isClear.isQuiet.listOf.optional]

private theorem cautions_record {entries : List (Value × Value)} {result : Record}
    (h : (record ⟨[], entries⟩).value? = some result) :
    (record ⟨[], entries⟩).cautions = recordDoubts result := by
  have hfields := recordYields_of_record h
  have hproblems : (record ⟨[], entries⟩).problems = [] := by
    rw [Checked.problems_eq_nil_iff, h, Option.isSome_some]
  rw [← Checked.problems_verdict, verdict_record] at hproblems
  rw [← Checked.cautions_verdict, verdict_record, cautions_checkFields hproblems,
    cautions_recordFields, ← verdict_required, ← verdict_optionalList, ← verdict_optional,
    Checked.cautions_verdict, Checked.cautions_verdict, Checked.cautions_verdict,
    version_doubts.required hfields.cffVersion,
    identifier_doubts.listOf.optionalList (fun _ => rfl) hfields.identifiers,
    preferredCitation_doubts.optional hfields.preferredCitation]
  rfl

theorem cautions_document {root : Value} {result : Record}
    (h : (document root).value? = some result) :
    (document root).cautions = recordDoubts result := by
  unfold document at h ⊢
  cases hmapping : root.mapping? with
  | none => simp [hmapping] at h
  | some entries =>
      rw [hmapping] at h
      exact cautions_record h

end CitationFile.Schema
