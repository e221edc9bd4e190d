import CitationFile.Toml.Moment
import CitationFile.Toml.Number
import CitationFile.Toml.Table

namespace CitationFile.Toml

open Reader

/-- What opens like a word is taken for a string without its quotes. -/
def unquoted (reader : Reader α) : Reader α :=
  expecting [.symbol "\"", .symbol "'"] (about .string reader)

def word (text : List Char) (value : Value) : Reader Value := do
  literal text
  return value

def numberOrMoment : Reader Value :=
  (do moment; return .moment : Reader Value).orElse <|
    (do return .float (← float) : Reader Value).orElse (do return .integer (← integer))

def scalar : Reader Value := fun text =>
  match text with
  | [] => .missed {} []
  | c :: _ =>
      let reader : Reader Value :=
        if c = '"' ∨ c = '\'' then do return .string (String.ofList (← quotedString))
        else if c = '+' ∨ c = '-' ∨ c.isDigit then numberOrMoment
        else if c = '_' then do return .integer (← expecting [.leadingDigit] integer)
        else if c = '.' then do return .float (← expecting [.leadingDigit] float)
        else if c = 't' then unquoted (required (word "true".toList (.boolean true)))
        else if c = 'f' then unquoted (required (word "false".toList (.boolean false)))
        else if c = 'i' then unquoted (word "inf".toList (.float (.infinite false)))
        else unquoted (word "nan".toList (.float .nan))
      reader text

def arrayItem (item : Reader (Placed Value)) : Reader (Placed Value) := do
  gap
  let value ← item
  gap
  return value

/-- A comma may follow the last item. -/
def arrayItems (item : Reader (Placed Value)) : Reader (List (Placed Value)) := fun text =>
  if text.head? = some ']' then .done [] text
  else
    (do
      let items ← ((arrayItem item).separated ',').maybe
      if items.isSome then
        let _ ← (symbol ',').maybe
      gap
      return items.getD [] : Reader (List (Placed Value))) text

def array (item : Reader (Placed Value)) : Reader Value := do
  let _ ← symbol '['
  let items ← required (arrayItems item)
  let _ ← about .array (expecting [.symbol "]"] (required (symbol ']')))
  return .array items

def pair (value : Reader (Placed Value)) (ending : Reader Unit) :
    Reader (KeyPath × Placed Value) := do
  let path ← keyPath
  required do
    let _ ← expecting [.symbol ".", .symbol "="] (symbol '=')
    blanks
    let value ← value
    ending
    return (path, value)

def inlinePairs (value : Reader (Placed Value)) : Reader (List (KeyPath × Placed Value)) := do
  let pairs ← ((pair value blanks).separated ',').maybe
  blanks
  return pairs.getD []

def Table.ofPairs (pairs : List (KeyPath × Placed Value)) : Except Obstacle Table :=
  pairs.foldlM (fun table entry => table.add .inlineStep entry.1 none entry.2)
    { origin := .inline }

def inlineTable (value : Reader (Placed Value)) : Reader Value := do
  let _ ← symbol '{'
  let table ← required <| (inlinePairs value).refine fun pairs =>
    (Table.ofPairs pairs).mapError fun obstacle => { obstacle := some obstacle }
  let _ ← about .inlineTable (expecting [.symbol "\x7d"] (required (symbol '}')))
  return table.placed.value

def placed (reader : Reader Value) : Reader (Placed Value) := do
  let (value, span) ← reader.spanned
  return ⟨value, some span⟩

/-- What a bracket or brace opens is read with the values that it holds, unless none may be nested.
-/
def container (reader : Reader (Placed Value) → Reader Value)
    (nested : Option (Reader (Placed Value))) : Reader Value :=
  match nested with
  | some item => reader item
  | none => fun text => .failed { obstacle := some .tooDeep } text

def valueWith (nested : Option (Reader (Placed Value))) : Reader (Placed Value) :=
  placed fun text =>
    match text with
    | '[' :: _ => container array nested text
    | '{' :: _ => container inlineTable nested text
    | _ => scalar text

def value : Nat → Reader (Placed Value)
  | 0 => valueWith none
  | depth + 1 => valueWith (some (value depth))

end CitationFile.Toml
