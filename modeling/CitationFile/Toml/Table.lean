import CitationFile.Toml.Value

/-! Tables. A table can be filled from several places of a text; how it came about decides from
where it may still be filled. -/

namespace CitationFile.Toml

structure Table where
  origin : Origin
  entries : List (Key × Placed Value) := []
  span : Option Span := none

namespace Table

def placed (table : Table) : Placed Value :=
  ⟨.table table.origin table.entries, table.span⟩

def find? (table : Table) (key : Key) : Option (Placed Value) :=
  (table.entries.find? (·.1.text = key.text)).map (·.2)

def remove (table : Table) (key : Key) : Table :=
  { table with entries := table.entries.filter (·.1.text ≠ key.text) }

/-- A key keeps its place, and where it was first written, when its value changes. -/
def put (table : Table) (key : Key) (value : Placed Value) : Table :=
  { table with
    entries :=
      if (table.find? key).isSome then
        table.entries.map fun entry => if entry.1.text = key.text then (entry.1, value) else entry
      else table.entries ++ [(key, value)] }

def passable (step origin : Origin) (path : List String) (key : Key) : Except Obstacle Unit :=
  match step, origin with
  | .inlineStep, .inline | .keyStep, .header => .error (.duplicateKey key.text none)
  | .inlineStep, _ => .ok ()
  | _, .inline | _, .inlineStep => .error (.notTable path "inline table")
  | _, _ => .ok ()

/-- Changes the table at the end of a path, and makes the tables on the way that are missing. Of
several tables under one key the last one is meant. -/
def alter (step : Origin) (change : Table → Except Obstacle (α × Table)) :
    List String → List Key → Table → Except Obstacle (α × Table)
  | _, [], table => change table
  | passed, key :: rest, table =>
      let path := passed ++ [key.text]
      match table.find? key with
      | none => do
          let (result, inner) ← alter step change path rest { origin := step }
          return (result, table.put key inner.placed)
      | some ⟨.table origin entries, span⟩ => do
          passable step origin path key
          let (result, inner) ← alter step change path rest ⟨origin, entries, span⟩
          return (result, table.put key inner.placed)
      | some ⟨.tables items, span⟩ =>
          match items.getLast? with
          | some ⟨.table origin entries, innerSpan⟩ => do
              let (result, inner) ← alter step change path rest ⟨origin, entries, innerSpan⟩
              return (result, table.put key ⟨.tables (items.dropLast ++ [inner.placed]), span⟩)
          | _ => .error (.notTable path "array of tables")
      | some ⟨value, _⟩ => .error (.notTable path value.kindName)

def isStep (table : Table) : Bool :=
  table.origin = .keyStep || table.origin = .inlineStep

/-- Adds a value under a dotted key. Only tables that are steps of a dotted key themselves can be
filled from several of them. -/
def add (table : Table) (step : Origin) (path : KeyPath) (told : Option (List String))
    (value : Placed Value) : Except Obstacle Table := do
  let ((), filled) ← table.alter step (fun inner =>
    if inner.isStep = decide (path.tables = []) then .error (.duplicateKey path.key.text none)
    else if (inner.find? path.key).isSome then .error (.duplicateKey path.key.text told)
    else .ok ((), inner.put path.key value)) [] path.tables
  return filled

end Table

end CitationFile.Toml
