import CitationFile.Toml.Flaw

/-! Readers take a value off the front of a text. A reader that misses leaves room for another one
to be tried at the same place; one that fails decides that the text is flawed. Either way the flaw
stands where the rest begins. -/

namespace CitationFile.Toml

/-- A stretch of a text, by the number of characters that follow its two ends. -/
structure Span where
  start : Nat
  stop : Nat
deriving DecidableEq, Repr

inductive Outcome (α : Type) where
  | done (value : α) (rest : List Char)
  | missed (flaw : Flaw) (rest : List Char)
  | failed (flaw : Flaw) (rest : List Char)
deriving DecidableEq, Repr

namespace Outcome

def map (f : α → β) : Outcome α → Outcome β
  | done value rest => done (f value) rest
  | missed flaw rest => missed flaw rest
  | failed flaw rest => failed flaw rest

def mapFlaw (f : Flaw → Flaw) : Outcome α → Outcome α
  | done value rest => done value rest
  | missed flaw rest => missed (f flaw) rest
  | failed flaw rest => failed (f flaw) rest

theorem mapFlaw_eq_done_iff {f : Flaw → Flaw} {outcome : Outcome α} {value : α}
    {rest : List Char} : outcome.mapFlaw f = done value rest ↔ outcome = done value rest := by
  cases outcome <;> simp [mapFlaw]

end Outcome

def Reader (α : Type) := List Char → Outcome α

namespace Reader

instance : Monad Reader where
  pure value := fun text => .done value text
  bind reader next := fun text =>
    match reader text with
    | .done value rest => next value rest
    | .missed flaw rest => .missed flaw rest
    | .failed flaw rest => .failed flaw rest

@[simp] theorem pure_apply (value : α) (text : List Char) :
    (pure value : Reader α) text = .done value text := rfl

theorem bind_apply (reader : Reader α) (next : α → Reader β) (text : List Char) :
    (reader >>= next) text =
      match reader text with
      | .done value rest => next value rest
      | .missed flaw rest => .missed flaw rest
      | .failed flaw rest => .failed flaw rest := rfl

theorem bind_eq_done_iff {reader : Reader α} {next : α → Reader β} {text rest : List Char}
    {result : β} :
    (reader >>= next) text = .done result rest ↔
      ∃ value behind, reader text = .done value behind ∧ next value behind = .done result rest := by
  rw [bind_apply]
  cases reader text <;> simp [and_assoc]

/-- The flaw of the last reader tried is the one that is told. -/
def orElse (first second : Reader α) : Reader α := fun text =>
  match first text with
  | .missed .. => second text
  | outcome => outcome

def maybe (reader : Reader α) : Reader (Option α) := fun text =>
  match reader text with
  | .done value rest => .done (some value) rest
  | .missed .. => .done none text
  | .failed flaw rest => .failed flaw rest

theorem maybe_eq_done_iff {reader : Reader α} {text rest : List Char} {result : Option α} :
    reader.maybe text = .done result rest ↔
      (∃ value, reader text = .done value rest ∧ result = some value) ∨
        ∃ flaw behind, reader text = .missed flaw behind ∧ result = none ∧ rest = text := by
  unfold maybe
  cases reader text <;> grind

def required (reader : Reader α) : Reader α := fun text =>
  match reader text with
  | .missed flaw rest => .failed flaw rest
  | outcome => outcome

theorem required_eq_done_iff {reader : Reader α} {text rest : List Char} {value : α} :
    reader.required text = .done value rest ↔ reader text = .done value rest := by
  unfold required
  cases reader text <;> simp

def spanned (reader : Reader α) : Reader (α × Span) := fun text =>
  match reader text with
  | .done value rest => .done (value, ⟨text.length, rest.length⟩) rest
  | .missed flaw rest => .missed flaw rest
  | .failed flaw rest => .failed flaw rest

theorem spanned_eq_done_iff {reader : Reader α} {text rest : List Char} {result : α × Span} :
    reader.spanned text = .done result rest ↔
      reader text = .done result.1 rest ∧ result.2 = ⟨text.length, rest.length⟩ := by
  obtain ⟨value, span⟩ := result
  unfold spanned
  cases reader text <;> grind

def about (subject : Subject) (reader : Reader α) : Reader α := fun text =>
  (reader text).mapFlaw (·.about subject)

theorem about_eq_done_iff {subject : Subject} {reader : Reader α} {text rest : List Char}
    {value : α} : about subject reader text = .done value rest ↔ reader text = .done value rest :=
  Outcome.mapFlaw_eq_done_iff

def expecting (expectations : List Expectation) (reader : Reader α) : Reader α := fun text =>
  (reader text).mapFlaw (·.expecting expectations)

theorem expecting_eq_done_iff {expectations : List Expectation} {reader : Reader α}
    {text rest : List Char} {value : α} :
    expecting expectations reader text = .done value rest ↔ reader text = .done value rest :=
  Outcome.mapFlaw_eq_done_iff

/-- A value that is refused is missed as a whole. -/
def refine (reader : Reader α) (accept : α → Except Flaw β) : Reader β := fun text =>
  match reader text with
  | .done value rest =>
      match accept value with
      | .ok accepted => .done accepted rest
      | .error flaw => .missed flaw text
  | .missed flaw rest => .missed flaw rest
  | .failed flaw rest => .failed flaw rest

theorem refine_eq_done_iff {reader : Reader α} {accept : α → Except Flaw β}
    {text rest : List Char} {accepted : β} :
    reader.refine accept text = .done accepted rest ↔
      ∃ value, reader text = .done value rest ∧ accept value = .ok accepted := by
  unfold refine
  cases reader text <;> grind

/-- A value that is refused fails as a whole. -/
def settle (reader : Reader α) (accept : α → Except Flaw β) : Reader β := fun text =>
  match reader text with
  | .done value rest =>
      match accept value with
      | .ok accepted => .done accepted rest
      | .error flaw => .failed flaw text
  | .missed flaw rest => .missed flaw rest
  | .failed flaw rest => .failed flaw rest

theorem settle_eq_done_iff {reader : Reader α} {accept : α → Except Flaw β}
    {text rest : List Char} {accepted : β} :
    reader.settle accept text = .done accepted rest ↔
      ∃ value, reader text = .done value rest ∧ accept value = .ok accepted := by
  unfold settle
  cases reader text <;> grind

def satisfying (p : Char → Bool) : Reader Char
  | [] => .missed {} []
  | c :: rest => if p c then .done c rest else .missed {} (c :: rest)

def symbol (c : Char) : Reader Char :=
  satisfying (· = c)

def literal (mark : List Char) : Reader Unit := fun text =>
  if mark.isPrefixOf text then .done () (text.drop mark.length) else .missed {} text

def takeWhile (p : Char → Bool) : Reader (List Char) := fun text =>
  .done (text.takeWhile p) (text.dropWhile p)

def count (p : Char → Bool) (least : Nat) (most : Option Nat) : Reader (List Char) := fun text =>
  let run := text.takeWhile p
  let taken := most.elim run run.take
  if taken.length < least then .missed {} text else .done taken (text.drop taken.length)

def digits (number : Nat) : Reader (List Char) :=
  count Char.isDigit number (some number)

def atMost (item : Reader α) : Nat → Reader (List α)
  | 0 => pure []
  | fuel + 1 => fun text =>
      match item text with
      | .done value rest => (atMost item fuel rest).map (value :: ·)
      | .missed .. => .done [] text
      | .failed flaw rest => .failed flaw rest

def many (item : Reader α) : Reader (List α) := fun text =>
  atMost item text.length text

/-- Items with a separator between them. One that ends the text is left there, and so is one before
something that is no item. -/
def separated (item : Reader α) (separator : Char) : Reader (List α) := do
  let first ← item
  let further ← many do
    let _ ← symbol separator
    item
  return first :: further

end Reader

end CitationFile.Toml
