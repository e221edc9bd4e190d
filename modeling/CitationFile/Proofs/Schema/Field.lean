import CitationFile.Schema.Scalar
import Mathlib.Data.List.Forall2

namespace CitationFile.Schema

open Yaml

namespace Checked

theorem isSome_value?_apply (function : Checked (α → β)) (argument : Checked α) :
    (function.apply argument).value?.isSome =
      (function.value?.isSome && argument.value?.isSome) := by
  cases function <;> cases argument <;> rfl

theorem value?_apply_eq_some {function : Checked (α → β)} {argument : Checked α} {result : β} :
    (function.apply argument).value? = some result ↔
      ∃ f value, function.value? = some f ∧ argument.value? = some value ∧ f value = result := by
  simp [Option.bind_eq_some_iff]

private theorem isSome_value?_all (results : List (Checked α)) :
    (all results).value?.isSome ↔ ∀ result ∈ results, result.value?.isSome := by
  induction results with
  | nil => simp [all]
  | cons result rest ih =>
      simp only [all, isSome_value?_apply, value?_map, Option.isSome_map, Bool.and_eq_true, ih,
        List.forall_mem_cons]

private theorem forall₂_of_value?_all {results : List (Checked α)} {values : List α}
    (h : (all results).value? = some values) :
    List.Forall₂ (fun result value => result.value? = some value) results values := by
  induction results generalizing values with
  | nil =>
      simp only [all, value?_accept, Option.some.injEq] at h
      subst values
      exact .nil
  | cons result rest ih =>
      simp only [all, value?_apply_eq_some, value?_map, Option.map_eq_some_iff] at h
      obtain ⟨f, others, ⟨value, hvalue, rfl⟩, hothers, rfl⟩ := h
      exact .cons hvalue (ih hothers)

end Checked

namespace Check

/-- The values that a check accepts. -/
def Accepts (check : Check α) (valid : Value → Prop) : Prop :=
  ∀ path value, (check path value).value?.isSome ↔ valid value

/-- How the result of a check is read off the value. -/
def Reads (check : Check α) (reading : Value → α → Prop) : Prop :=
  ∀ path value result, (check path value).value? = some result → reading value result

def Yields (check : Check α) (reading : Value → α → Prop) : Prop :=
  ∀ path value result, (check path value).value? = some result ↔ reading value result

theorem Yields.accepts {check : Check α} {reading : Value → α → Prop}
    (h : check.Yields reading) :
    check.Accepts fun value => ∃ result, reading value result := by
  intro path value
  rw [Option.isSome_iff_exists]
  exact exists_congr (h path value)

theorem Yields.reads {check : Check α} {reading : Value → α → Prop}
    (h : check.Yields reading) : check.Reads reading :=
  fun path value result => (h path value result).mp

theorem Reads.imp {check : Check α} {reading weaker : Value → α → Prop}
    (h : check.Reads reading) (himp : ∀ value result, reading value result → weaker value result) :
    check.Reads weaker :=
  fun path value result hresult => himp value result (h path value result hresult)

end Check

/-- The value of a key, unless it is null. -/
def field? (entries : List (Value × Value)) (key : String) : Option Value :=
  (Value.entry? entries key).filter (!·.isNull)

theorem Fields.find?_eq (fields : Fields) (key : String) :
    fields.find? key = field? fields.entries key := rfl

/-- A key that must be there, with a valid value. -/
def Required (entries : List (Value × Value)) (key : String) (valid : Value → Prop) : Prop :=
  ∃ value, field? entries key = some value ∧ valid value

def ReadsField (entries : List (Value × Value)) (key : String) (reading : Value → α → Prop)
    (result : α) : Prop :=
  ∃ value, field? entries key = some value ∧ reading value result

/-- A key that may be absent or null, and has a valid value otherwise. -/
def Optional (entries : List (Value × Value)) (key : String) (valid : Value → Prop) : Prop :=
  ∀ value, field? entries key = some value → valid value

namespace Check

variable {check : Check α} {valid : Value → Prop} {reading : Value → α → Prop}

theorem Accepts.required (h : check.Accepts valid) (fields : Fields) (key : String) :
    (required fields key check).value?.isSome ↔ Required fields.entries key valid := by
  unfold Schema.required Required
  rw [Fields.find?_eq]
  cases field? fields.entries key with
  | none => simp
  | some value => simpa using h _ value

theorem Accepts.optional (h : check.Accepts valid) (fields : Fields) (key : String) :
    (optional fields key check).value?.isSome ↔ Optional fields.entries key valid := by
  unfold Schema.optional Optional
  rw [Fields.find?_eq]
  cases field? fields.entries key with
  | none => simp
  | some value => simpa using h _ value

theorem Accepts.optionalList {check : Check (List α)} (h : check.Accepts valid)
    (fields : Fields) (key : String) :
    (optionalList fields key check).value?.isSome ↔ Optional fields.entries key valid := by
  rw [← h.optional, Schema.optionalList, Checked.value?_map, Option.isSome_map]

theorem Reads.required (h : check.Reads reading) {fields : Fields} {key : String} {result : α}
    (hresult : (required fields key check).value? = some result) :
    ReadsField fields.entries key reading result := by
  unfold Schema.required at hresult
  rw [Fields.find?_eq] at hresult
  cases hfield : field? fields.entries key with
  | none => simp [hfield] at hresult
  | some value =>
      rw [hfield] at hresult
      exact ⟨value, hfield, h _ value result hresult⟩

theorem Yields.required (h : check.Yields reading) {fields : Fields} {key : String} {result : α} :
    (required fields key check).value? = some result ↔
      ReadsField fields.entries key reading result := by
  refine ⟨h.reads.required, ?_⟩
  rintro ⟨value, hfield, hreading⟩
  unfold Schema.required
  rw [Fields.find?_eq, hfield]
  exact (h _ value result).mpr hreading

theorem Reads.optional (h : check.Reads reading) {fields : Fields} {key : String}
    {result : Option α} (hresult : (optional fields key check).value? = some result) :
    Option.Rel reading (field? fields.entries key) result := by
  unfold Schema.optional at hresult
  rw [Fields.find?_eq] at hresult
  cases hfield : field? fields.entries key with
  | none =>
      rw [hfield] at hresult
      cases hresult
      exact .none
  | some value =>
      simp only [hfield, Checked.value?_map, Option.map_eq_some_iff] at hresult
      obtain ⟨inner, hinner, rfl⟩ := hresult
      exact .some (h _ value inner hinner)

theorem Reads.of_optional {P : α → Prop} (h : check.Reads fun _ => P) {fields : Fields}
    {key : String} {result? : Option α}
    (hresults : (Schema.optional fields key check).value? = some result?) {result : α}
    (hresult : result? = some result) : P result := by
  have hread := h.optional hresults
  rw [hresult] at hread
  generalize field? fields.entries key = value? at hread
  cases hread with
  | some holds => exact holds

end Check

def IsListOf (valid : Value → Prop) (value : Value) : Prop :=
  ∃ items, value.sequence? = some items ∧ ∀ item ∈ items, valid item

/-- One result for each item, in the order of the items. -/
def ReadsItems (reading : Value → α → Prop) (value : Value) (results : List α) : Prop :=
  ∃ items, value.sequence? = some items ∧ List.Forall₂ reading items results

theorem ReadsItems.forall_mem {P : α → Prop} {value : Value} {results : List α}
    (h : ReadsItems (fun _ => P) value results) : ∀ result ∈ results, P result := by
  obtain ⟨items, -, hitems⟩ := h
  induction hitems with
  | nil => simp
  | cons hitem _ ih => exact List.forall_mem_cons.mpr ⟨hitem, ih⟩

namespace Check

variable {check : Check α} {valid : Value → Prop} {reading : Value → α → Prop}

theorem Accepts.listOf (h : check.Accepts valid) : (listOf check).Accepts (IsListOf valid) := by
  intro path value
  unfold Schema.listOf IsListOf
  cases value.sequence? with
  | none => simp
  | some items =>
      simp only [Checked.isSome_value?_all, List.mem_mapIdx, Option.some.injEq, exists_eq_left']
      constructor
      · intro haccepted item hitem
        obtain ⟨index, hindex, rfl⟩ := List.mem_iff_getElem.mp hitem
        exact (h _ _).mp (haccepted _ ⟨index, hindex, rfl⟩)
      · rintro hvalid result ⟨index, hindex, rfl⟩
        exact (h _ _).mpr (hvalid _ (List.getElem_mem hindex))

private theorem forall₂_of_mapIdx {step : Nat → Value → Checked α} {items : List Value}
    {results : List α} (hstep : ∀ index item result,
      (step index item).value? = some result → reading item result)
    (h : List.Forall₂ (fun checked result => checked.value? = some result)
      (items.mapIdx step) results) : List.Forall₂ reading items results := by
  induction items generalizing step results with
  | nil =>
      cases h
      exact .nil
  | cons item rest ih =>
      rw [List.mapIdx_cons] at h
      cases h with
      | cons hhead htail =>
          exact .cons (hstep 0 item _ hhead) (ih (fun index => hstep (index + 1)) htail)

theorem Reads.listOf (h : check.Reads reading) : (listOf check).Reads (ReadsItems reading) := by
  intro path value results hresults
  unfold Schema.listOf at hresults
  cases hitems : value.sequence? with
  | none => simp [hitems] at hresults
  | some items =>
      rw [hitems] at hresults
      refine ⟨items, hitems, ?_⟩
      exact forall₂_of_mapIdx (fun index item result => h _ item result)
        (Checked.forall₂_of_value?_all hresults)

end Check

end CitationFile.Schema
