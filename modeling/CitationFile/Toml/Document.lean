import CitationFile.Toml.Value.Reading

namespace CitationFile.Toml

open Reader

structure Header where
  path : KeyPath
  repeated : Bool

/-- What was read so far: the tables that are complete, and apart from them the one being filled. -/
structure Assembly where
  root : Table
  header : Option Header
  current : Table

namespace Assembly

def empty : Assembly where
  root := { origin := .header }
  header := none
  current := { origin := .header }

def texts (keys : List Key) : List String :=
  keys.map Key.text

def joinSpans (items : List (Placed Value)) : Option Span := do
  let first ← (← items.head?).span
  let last ← (← items.getLast?).span
  return ⟨first.start, last.stop⟩

def duplicate (path : KeyPath) : Obstacle :=
  .duplicateKey path.key.written (some (texts path.tables))

def close (assembly : Assembly) : Except Obstacle Table :=
  match assembly.header with
  | none => .ok assembly.current
  | some ⟨path, repeated⟩ => do
      let ((), root) ← assembly.root.alter .headerStep (fun parent =>
        if repeated then
          let before := match parent.find? path.key with
            | some ⟨.tables items, _⟩ => items
            | _ => []
          let items := before ++ [assembly.current.placed]
          .ok ((), parent.put path.key ⟨.tables items, joinSpans items⟩)
        else .ok ((), parent.put path.key assembly.current.placed)) [] path.tables
      return root

/-- A table that so far was but a step of a longer header is taken out to be filled. -/
def openTable (assembly : Assembly) (path : KeyPath) (span : Span) : Except Obstacle Assembly := do
  let closed ← assembly.close
  let (entries, root) ← closed.alter .headerStep (fun parent =>
    match parent.find? path.key with
    | none => .ok ([], parent)
    | some ⟨.table .headerStep entries, _⟩ => .ok (entries, parent.remove path.key)
    | some _ => .error (duplicate path)) [] path.tables
  return ⟨root, some ⟨path, false⟩, ⟨.header, entries, some span⟩⟩

def openRepeated (assembly : Assembly) (path : KeyPath) (span : Span) :
    Except Obstacle Assembly := do
  let closed ← assembly.close
  let ((), root) ← closed.alter .headerStep (fun parent =>
    match parent.find? path.key with
    | none => .ok ((), parent.put path.key ⟨.tables [], none⟩)
    | some ⟨.tables _, _⟩ => .ok ((), parent)
    | some _ => .error (duplicate path)) [] path.tables
  return ⟨root, some ⟨path, true⟩, ⟨.header, [], some span⟩⟩

def headerPath (assembly : Assembly) : List String :=
  assembly.header.elim [] fun header => texts header.path.toList

def add (assembly : Assembly) (path : KeyPath) (value : Placed Value) :
    Except Obstacle Assembly := do
  let filled ← assembly.current.add .keyStep path (some assembly.headerPath) value
  let span := match filled.span, value.span with
    | some whole, some last => some ⟨whole.start, last.stop⟩
    | whole, _ => whole
  return { assembly with current := { filled with span } }

end Assembly

def obstructed (result : Except Obstacle α) : Except Flaw α :=
  result.mapError fun obstacle => { obstacle := some obstacle }

def keyLine (assembly : Assembly) : Reader Assembly :=
  (pair (value (depthLimit - 1)) (expecting lineTailExpected lineTail)).refine
    fun (path, value) => obstructed (assembly.add path value)

def headerLine (opening closing : List Char) : Reader (KeyPath × Span) := do
  let header ← spanned do
    literal opening
    let path ← required keyPath
    expecting [.symbol ".", .symbol (String.ofList closing)] (required (literal closing))
    return path
  expecting lineTailExpected (required lineTail)
  return header

def tableLine (assembly : Assembly) : Reader Assembly :=
  (headerLine ['['] [']']).refine fun (path, span) => obstructed (assembly.openTable path span)

def repeatedTableLine (assembly : Assembly) : Reader Assembly :=
  (headerLine ['[', '['] [']', ']']).refine
    fun (path, span) => obstructed (assembly.openRepeated path span)

/-- No header is as short as a single bracket. -/
def anyTableLine (assembly : Assembly) : Reader Assembly :=
  about .tableHeader fun text =>
    match text with
    | '[' :: '[' :: _ => repeatedTableLine assembly text
    | ['['] => .missed {} text
    | _ => tableLine assembly text

def commentLine : Reader Unit := do
  comment
  lineEnd

def line (assembly : Assembly) : Reader Assembly := fun text =>
  match text with
  | [] => .missed {} []
  | c :: _ =>
      if c = '#' then (required (do commentLine; return assembly) : Reader Assembly) text
      else if c = '[' then required (anyTableLine assembly) text
      else if c = '\n' ∨ c = '\r' then (do newline; return assembly : Reader Assembly) text
      else required (keyLine assembly) text

def lines : Nat → Assembly → List Char → Except (Flaw × List Char) Assembly
  | 0, assembly, _ => .ok assembly
  | fuel + 1, assembly, text =>
      if text = [] then .ok assembly
      else
        match line assembly text with
        | .done next rest => lines fuel next (rest.dropWhile isBlank)
        | .missed .. => .error ({}, text)
        | .failed flaw rest => .error (flaw, rest)

def dropMark : List Char → List Char
  | '\uFEFF' :: rest => rest
  | text => text

/-- The root table, or a flaw and the text behind the place where it stands. -/
def Table.ofText (text : List Char) : Except (Flaw × List Char) Table := do
  let start := (dropMark text).dropWhile isBlank
  let assembly ← lines (text.length + 1) Assembly.empty start
  match assembly.close with
  | .ok root => return root
  | .error obstacle => throw ({ obstacle := some obstacle }, [])

end CitationFile.Toml
