namespace Except

variable {result : Except ε α} {value : α}

theorem bind_eq_ok_iff {next : α → Except ε β} {last : β} :
    result >>= next = .ok last ↔ ∃ first, result = .ok first ∧ next first = .ok last := by
  cases result with
  | error flaw => simp [bind, Except.bind]
  | ok first => simp [bind, Except.bind]

theorem mapError_eq_ok_iff {f : ε → ε'} : result.mapError f = .ok value ↔ result = .ok value := by
  cases result with
  | error flaw => exact ⟨nofun, nofun⟩
  | ok value => exact ⟨fun h => by cases h; rfl, fun h => by cases h; rfl⟩

theorem of_foldlM_eq_ok {step : β → α → Except ε β} {P : β → Prop} {items : List α}
    {start final : β} (hstart : P start)
    (hstep : ∀ current, P current → ∀ item ∈ items, ∀ next,
      step current item = .ok next → P next)
    (h : items.foldlM step start = .ok final) : P final := by
  induction items generalizing start with
  | nil =>
      cases h
      exact hstart
  | cons item rest ih =>
      rw [List.foldlM_cons] at h
      obtain ⟨next, hnext, hrest⟩ := bind_eq_ok_iff.mp h
      refine ih (hstep start hstart item List.mem_cons_self next hnext) ?_ hrest
      exact fun current hcurrent item hitem =>
        hstep current hcurrent item (List.mem_cons_of_mem _ hitem)

/-- The computation ends in an error or in a value with a property. -/
def Ensures (result : Except ε α) (property : α → Prop) : Prop :=
  ∀ value, result = .ok value → property value

variable {P : α → Prop} {Q : β → Prop}

theorem ensures_ok (h : P value) : (Except.ok value : Except ε α).Ensures P := by
  intro last hlast
  cases hlast
  exact h

theorem ensures_error {flaw : ε} : (Except.error flaw : Except ε α).Ensures P :=
  fun _ hlast => nomatch hlast

theorem Ensures.ite {condition : Prop} [Decidable condition] {other : Except ε α}
    (h : result.Ensures P) (hother : other.Ensures P) :
    (if condition then result else other).Ensures P := by
  split
  · exact h
  · exact hother

theorem Ensures.and {P' : α → Prop} (h : result.Ensures P) (h' : result.Ensures P') :
    result.Ensures fun value => P value ∧ P' value :=
  fun last hlast => ⟨h last hlast, h' last hlast⟩

theorem Ensures.bind {next : α → Except ε β} (h : result.Ensures P)
    (hnext : ∀ value, P value → (next value).Ensures Q) : (result >>= next).Ensures Q := by
  intro last hlast
  obtain ⟨first, hfirst, hnextFirst⟩ := bind_eq_ok_iff.mp hlast
  exact hnext first (h first hfirst) last hnextFirst

theorem ensures_bind {next : α → Except ε β} (hnext : ∀ value, (next value).Ensures Q) :
    (result >>= next).Ensures Q :=
  Ensures.bind (fun _ _ => trivial : result.Ensures fun _ => True) fun value _ => hnext value

end Except
