import CitationFile.Schema.Fault

/-! Results of checks. A rejected result has at least one problem; results that do not depend on
each other are combined so that the problems of all of them are kept, in the order of the checks. -/

namespace CitationFile.Schema

inductive Checked (α : Type) where
  | accepted (value : α) (cautions : List Caution)
  | rejected (first : Problem) (others : List Problem)
deriving Repr

namespace Checked

def problems : Checked α → List Problem
  | .accepted .. => []
  | .rejected first others => first :: others

def cautions : Checked α → List Caution
  | .accepted _ cautions => cautions
  | .rejected .. => []

def value? : Checked α → Option α
  | .accepted value _ => some value
  | .rejected .. => none

def accept (value : α) : Checked α :=
  .accepted value []

def reject (path : Path) (fault : Fault) : Checked α :=
  .rejected ⟨path, fault⟩ []

/-- Adds a caution to an accepted result. -/
def warnIf (condition : Bool) (path : Path) (doubt : Doubt) : Checked α → Checked α
  | .accepted value cautions =>
      .accepted value (if condition then cautions ++ [⟨path, doubt⟩] else cautions)
  | .rejected first others => .rejected first others

def map (f : α → β) : Checked α → Checked β
  | .accepted value cautions => .accepted (f value) cautions
  | .rejected first others => .rejected first others

/-- Both checks are made whatever the other one finds. -/
def apply (function : Checked (α → β)) (argument : Checked α) : Checked β :=
  match function, argument with
  | .accepted f before, .accepted value after => .accepted (f value) (before ++ after)
  | .accepted .., .rejected first others => .rejected first others
  | .rejected first others, argument => .rejected first (others ++ argument.problems)

instance : Functor Checked where
  map := map

instance : Applicative Checked where
  pure := accept
  seq function argument := apply function (argument ())

def andThen (result : Checked α) (next : α → Checked β) : Checked β :=
  match result with
  | .accepted value before =>
      match next value with
      | .accepted final after => .accepted final (before ++ after)
      | .rejected first others => .rejected first others
  | .rejected first others => .rejected first others

def all : List (Checked α) → Checked (List α)
  | [] => accept []
  | result :: rest => apply (result.map List.cons) (all rest)

@[simp] theorem map_eq (f : α → β) (result : Checked α) : f <$> result = result.map f := rfl

@[simp] theorem seq_eq (function : Checked (α → β)) (argument : Checked α) :
    function <*> argument = function.apply argument := rfl

@[simp] theorem seqRight_eq (first : Checked α) (second : Checked β) :
    first *> second = (first.map fun _ => id).apply second := rfl

@[simp] theorem problems_accept (value : α) : (accept value).problems = [] := rfl

@[simp] theorem problems_reject (path : Path) (fault : Fault) :
    (reject path fault : Checked α).problems = [⟨path, fault⟩] := rfl

@[simp] theorem problems_map (f : α → β) (result : Checked α) :
    (result.map f).problems = result.problems := by
  cases result <;> rfl

@[simp] theorem problems_apply (function : Checked (α → β)) (argument : Checked α) :
    (function.apply argument).problems = function.problems ++ argument.problems := by
  cases function <;> cases argument <;> simp [apply, problems]

@[simp] theorem problems_warnIf (condition : Bool) (path : Path) (doubt : Doubt)
    (result : Checked α) : (result.warnIf condition path doubt).problems = result.problems := by
  cases result <;> rfl

@[simp] theorem problems_andThen (result : Checked α) (next : α → Checked β) :
    (result.andThen next).problems =
      result.problems ++ result.value?.elim [] fun value => (next value).problems := by
  cases result with
  | accepted value before =>
      simp only [andThen, value?, problems, Option.elim, List.nil_append]
      cases next value <;> rfl
  | rejected first others => simp [andThen, value?, problems]

@[simp] theorem problems_all (results : List (Checked α)) :
    (all results).problems = results.flatMap problems := by
  induction results with
  | nil => rfl
  | cons result rest ih => simp [all, ih]

/-- A value without problems, and problems without a value, do not occur. -/
theorem problems_eq_nil_iff (result : Checked α) : result.problems = [] ↔ result.value?.isSome := by
  cases result <;> simp [problems, value?]

@[simp] theorem value?_accept (value : α) : (accept value).value? = some value := rfl

@[simp] theorem value?_reject (path : Path) (fault : Fault) :
    (reject path fault : Checked α).value? = none := rfl

@[simp] theorem value?_map (f : α → β) (result : Checked α) :
    (result.map f).value? = result.value?.map f := by
  cases result <;> rfl

@[simp] theorem value?_warnIf (condition : Bool) (path : Path) (doubt : Doubt)
    (result : Checked α) : (result.warnIf condition path doubt).value? = result.value? := by
  cases result <;> rfl

@[simp] theorem value?_apply (function : Checked (α → β)) (argument : Checked α) :
    (function.apply argument).value? =
      function.value?.bind fun f => argument.value?.map f := by
  cases function <;> cases argument <;> rfl

@[simp] theorem value?_andThen (result : Checked α) (next : α → Checked β) :
    (result.andThen next).value? = result.value?.bind fun value => (next value).value? := by
  cases result with
  | accepted value before =>
      simp only [andThen, value?, Option.bind_some]
      cases next value <;> rfl
  | rejected first others => rfl

end Checked

end CitationFile.Schema
