import CitationFile.Proofs.Schema.FieldCheck
import CitationFile.Proofs.Schema.PathText
import Mathlib.Data.List.Nodup
import Mathlib.Data.List.Sigma

namespace CitationFile.Schema

open Yaml

/-- Distinct paths that lead on from a base by plain steps. -/
structure Orderly (base : Path) (paths : List Path) : Prop where
  below : ∀ path ∈ paths, ∃ rest : Path, (∀ step ∈ rest, step.IsPlain) ∧ path = base ++ rest
  distinct : paths.Nodup

theorem Orderly.nil (base : Path) : Orderly base [] :=
  ⟨by simp, List.nodup_nil⟩

theorem Orderly.singleton (base : Path) : Orderly base [base] := by
  refine ⟨?_, List.nodup_singleton base⟩
  intro path hpath
  exact ⟨[], by simp, by simpa using hpath⟩

theorem Orderly.sublist {base : Path} {paths fewer : List Path} (h : Orderly base paths)
    (hfewer : fewer.Sublist paths) : Orderly base fewer :=
  ⟨fun path hpath => h.below path (hfewer.subset hpath), h.distinct.sublist hfewer⟩

private theorem orderly_flatMap {base : Path} {items : List ι} {step : ι → Step}
    {paths : ι → List Path}
    (hsteps : (items.map step).Nodup) (hplain : ∀ item ∈ items, (step item).IsPlain)
    (h : ∀ item ∈ items, Orderly (base ++ [step item]) (paths item)) :
    Orderly base (items.flatMap paths) := by
  constructor
  · intro path hpath
    obtain ⟨item, hitem, hpath⟩ := List.mem_flatMap.mp hpath
    obtain ⟨rest, hrest, rfl⟩ := (h item hitem).below path hpath
    refine ⟨step item :: rest, ?_, by simp⟩
    rw [List.forall_mem_cons]
    exact ⟨hplain item hitem, hrest⟩
  · rw [List.nodup_flatMap]
    refine ⟨fun item hitem => (h item hitem).distinct, ?_⟩
    refine (List.pairwise_map.mp hsteps).imp_of_mem ?_
    -- Paths that part at the first step behind the base do not meet again.
    intro left right hleft hright hne path hpath hother
    obtain ⟨rest, -, rfl⟩ := (h left hleft).below path hpath
    obtain ⟨others, -, heq⟩ := (h right hright).below _ hother
    have hsame : step left = step right ∧ rest = others := by simpa using heq
    exact hne hsame.1

theorem orderly_fields (fields : Fields) {keys : List String} (hdistinct : keys.Nodup)
    (hplain : ∀ key ∈ keys, (Step.key key).IsPlain) :
    Orderly fields.path (keys.map fields.pathOf) := by
  rw [List.map_eq_flatMap]
  exact orderly_flatMap (hdistinct.map fun _ _ heq => Step.key.inj heq) hplain
    fun key _ => Orderly.singleton _

namespace Checked

structure IsOrderly (path : Path) (result : Checked α) : Prop where
  problems : Orderly path (result.problems.map Problem.path)
  cautions : Orderly path (result.cautions.map Caution.path)

/-- At most one problem and one caution at each of the paths, and none elsewhere. -/
structure IsWithin (paths : List Path) (result : Checked α) : Prop where
  problems : (result.problems.map Problem.path).Sublist paths
  cautions : (result.cautions.map Caution.path).Sublist paths

/-- Accepted without a caution, or rejected for one problem at the very path. -/
inductive IsClear (path : Path) : Checked α → Prop
  | accept (value : α) : IsClear path (accept value)
  | reject (fault : Fault) : IsClear path (reject path fault)

theorem IsWithin.isOrderly {base : Path} {paths : List Path} {result : Checked α}
    (h : result.IsWithin paths) (horderly : Orderly base paths) : result.IsOrderly base :=
  ⟨horderly.sublist h.problems, horderly.sublist h.cautions⟩

theorem IsWithin.mono {paths more : List Path} {result : Checked α} (h : result.IsWithin paths)
    (hmore : paths.Sublist more) : result.IsWithin more :=
  ⟨h.problems.trans hmore, h.cautions.trans hmore⟩

theorem IsWithin.map {paths : List Path} {result : Checked α} (h : result.IsWithin paths)
    (f : α → β) : (result.map f).IsWithin paths := by
  cases result with
  | accepted value cautions => exact ⟨h.problems, h.cautions⟩
  | rejected first others => exact ⟨h.problems, h.cautions⟩

section Single

variable {path : Path} {result : Checked α} {next : α → Checked β}

theorem IsClear.isWithin (h : result.IsClear path) : result.IsWithin [path] := by
  cases h with
  | accept value => exact ⟨List.nil_sublist _, List.nil_sublist _⟩
  | reject fault => exact ⟨List.Sublist.refl _, List.nil_sublist _⟩

theorem IsClear.isOrderly (h : result.IsClear path) : result.IsOrderly path :=
  h.isWithin.isOrderly (Orderly.singleton path)

theorem IsClear.cautions_eq_nil (h : result.IsClear path) : result.cautions = [] := by
  cases h <;> rfl

private theorem IsClear.map (h : result.IsClear path) (f : α → β) :
    (result.map f).IsClear path := by
  cases h with
  | accept value => exact .accept (f value)
  | reject fault => exact .reject fault

theorem isWithin_warnIf (condition : Bool) (path : Path) (doubt : Doubt) (value : α) :
    ((accept value).warnIf condition path doubt).IsWithin [path] := by
  refine ⟨List.nil_sublist _, ?_⟩
  cases condition
  · exact List.nil_sublist _
  · exact List.Sublist.refl _

@[simp] theorem accept_andThen (value : α) (next : α → Checked β) :
    (accept value).andThen next = next value := by
  cases hnext : next value <;> simp [andThen, accept, hnext]

theorem IsClear.andThen (h : result.IsClear path) (hnext : ∀ value, (next value).IsClear path) :
    (result.andThen next).IsClear path := by
  cases h with
  | accept value => simpa using hnext value
  | reject fault => exact .reject fault

theorem IsClear.andThen_isWithin (h : result.IsClear path)
    (hnext : ∀ value, (next value).IsWithin [path]) : (result.andThen next).IsWithin [path] := by
  cases h with
  | accept value => simpa using hnext value
  | reject fault => exact (IsClear.reject fault).isWithin

end Single

theorem isOrderly_verdict_iff {path : Path} {result : Checked α} :
    result.verdict.IsOrderly path ↔ result.IsOrderly path := by
  constructor
  · rintro ⟨hproblems, hcautions⟩
    exact ⟨by simpa using hproblems, by simpa using hcautions⟩
  · rintro ⟨hproblems, hcautions⟩
    exact ⟨by simpa using hproblems, by simpa using hcautions⟩

theorem IsWithin.verdict {paths : List Path} {result : Checked α} (h : result.IsWithin paths) :
    result.verdict.IsWithin paths :=
  ⟨by simpa using h.problems, by simpa using h.cautions⟩

theorem IsWithin.both {paths others : List Path} {first second : Checked Unit}
    (hfirst : first.IsWithin paths) (hsecond : second.IsWithin others) :
    (first.both second).IsWithin (paths ++ others) := by
  constructor
  · rw [problems_both, List.map_append]
    exact hfirst.problems.append hsecond.problems
  · refine ((cautions_both_sublist first second).map Caution.path).trans ?_
    rw [List.map_append]
    exact hfirst.cautions.append hsecond.cautions

theorem isOrderly_verdicts {base : Path} {items : List ι} {result : ι → Checked Unit}
    (step : ι → Step) (hsteps : (items.map step).Nodup)
    (hplain : ∀ item ∈ items, (step item).IsPlain)
    (h : ∀ item ∈ items, (result item).IsOrderly (base ++ [step item])) :
    (verdicts (items.map result)).IsOrderly base := by
  constructor
  · rw [problems_verdicts, List.flatMap_map, List.map_flatMap]
    exact orderly_flatMap hsteps hplain fun item hitem => (h item hitem).problems
  · have hall : Orderly base (items.flatMap fun item => (result item).cautions.map Caution.path) :=
      orderly_flatMap hsteps hplain fun item hitem => (h item hitem).cautions
    refine hall.sublist ?_
    rw [← List.map_flatMap, ← List.flatMap_map]
    exact (cautions_verdicts_sublist _).map Caution.path

end Checked

namespace Check

def IsClear (check : Check α) : Prop :=
  ∀ path value, (check path value).IsClear path

def IsQuiet (check : Check α) : Prop :=
  ∀ path value, (check path value).cautions = []

def IsOrderly (check : Check α) : Prop :=
  ∀ path value, (check path value).IsOrderly path

section Fields

variable {check : Check α}

theorem IsClear.isQuiet (h : check.IsClear) : check.IsQuiet :=
  fun path value => (h path value).cautions_eq_nil

theorem IsClear.isOrderly (h : check.IsClear) : check.IsOrderly :=
  fun path value => (h path value).isOrderly

theorem IsClear.required (h : check.IsClear) (fields : Fields) (key : String) :
    (required fields key check).IsClear (fields.pathOf key) := by
  unfold Schema.required
  cases fields.find? key with
  | none => exact .reject _
  | some value => exact h _ value

theorem IsClear.optional (h : check.IsClear) (fields : Fields) (key : String) :
    (optional fields key check).IsClear (fields.pathOf key) := by
  unfold Schema.optional
  cases fields.find? key with
  | none => exact .accept _
  | some value => exact (h _ value).map some

theorem IsQuiet.required (h : check.IsQuiet) (key : String) (fields : Fields) :
    ((FieldCheck.required key check).verdict fields).cautions = [] := by
  unfold FieldCheck.required FieldCheck.verdict
  cases fields.find? key with
  | none => rfl
  | some value => simpa using h _ value

theorem IsQuiet.optional (h : check.IsQuiet) (key : String) (fields : Fields) :
    ((FieldCheck.optional key check).verdict fields).cautions = [] := by
  unfold FieldCheck.optional FieldCheck.verdict
  cases fields.find? key with
  | none => rfl
  | some value => simpa using h _ value

end Fields

end Check

def FieldCheck.IsOrderly (check : FieldCheck) : Prop :=
  ∀ fields, (check.verdict fields).IsOrderly (fields.pathOf check.key)

section Fields

variable {check : Check α}

theorem Check.IsOrderly.required (h : check.IsOrderly) (key : String) :
    (FieldCheck.required key check).IsOrderly := by
  intro fields
  unfold FieldCheck.required FieldCheck.verdict
  cases fields.find? key with
  | none => exact (Checked.IsClear.reject _).isOrderly
  | some value => exact Checked.isOrderly_verdict_iff.mpr (h _ value)

theorem Check.IsOrderly.optional (h : check.IsOrderly) (key : String) :
    (FieldCheck.optional key check).IsOrderly := by
  intro fields
  unfold FieldCheck.optional FieldCheck.verdict
  cases fields.find? key with
  | none => exact (Checked.IsClear.accept _).isOrderly
  | some value => exact Checked.isOrderly_verdict_iff.mpr (h _ value)

end Fields

theorem cautions_checkFields_sublist (checks : List FieldCheck) (fields : Fields) :
    (checkFields checks fields).cautions.Sublist
      (checks.flatMap fun check => (check.verdict fields).cautions) := by
  rw [← List.flatMap_map]
  exact Checked.cautions_verdicts_sublist _

theorem isOrderly_checkFields {checks : List FieldCheck} (fields : Fields)
    (hkeys : (checks.map (·.key)).Nodup)
    (hplain : ∀ key ∈ checks.map (·.key), (Step.key key).IsPlain)
    (h : ∀ check ∈ checks, check.IsOrderly) :
    (checkFields checks fields).IsOrderly fields.path := by
  refine Checked.isOrderly_verdicts (fun check => .key check.key) ?_ ?_ ?_
  · simpa [Function.comp_def] using hkeys.map fun _ _ heq => Step.key.inj heq
  · exact fun check hcheck => hplain check.key (List.mem_map_of_mem hcheck)
  · exact fun check hcheck => h check hcheck fields

end CitationFile.Schema
