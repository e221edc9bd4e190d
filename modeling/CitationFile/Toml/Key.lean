import CitationFile.Toml.Quoted

namespace CitationFile.Toml

open Reader

structure Key where
  text : String
  span : Span
deriving DecidableEq, Repr

structure KeyPath where
  tables : List Key
  key : Key
deriving DecidableEq, Repr

namespace KeyPath

def toList (path : KeyPath) : List Key :=
  path.tables ++ [path.key]

def ofList (first : Key) : List Key → KeyPath
  | [] => ⟨[], first⟩
  | second :: rest =>
      let inner := ofList second rest
      ⟨first :: inner.tables, inner.key⟩

end KeyPath

def isBareChar (c : Char) : Bool :=
  c.isAlphanum || c = '-' || c = '_'

def simpleKey : Reader (List Char)
  | [] => .missed {} []
  | '"' :: rest => basicString ('"' :: rest)
  | '\'' :: rest => literalString ('\'' :: rest)
  | text => count isBareChar 1 none text

def spacedKey : Reader Key := do
  blanks
  let (text, span) ← simpleKey.spanned
  blanks
  return ⟨String.ofList text, span⟩

/-- How many steps a path may have, and how deeply values may be nested. -/
def depthLimit : Nat := 80

def keyPath : Reader KeyPath :=
  (about .key (spacedKey.separated '.')).refine fun keys =>
    if depthLimit ≤ keys.length then .error { obstacle := some .tooDeep }
    else
      match keys with
      | [] => .error {}
      | first :: rest => .ok (KeyPath.ofList first rest)

def hasControl (text : List Char) : Bool :=
  text.any fun c => c ≠ '\t' && (c < ' ' || c = '\x7f')

def hexDigits (length code : Nat) : List Char :=
  let digits := (Nat.toDigits 16 code).map Char.toUpper
  List.replicate (length - digits.length) '0' ++ digits

def escapeBasic (c : Char) : List Char :=
  match c with
  | '\x08' => ['\\', 'b']
  | '\t' => ['\\', 't']
  | '\n' => ['\\', 'n']
  | '\x0c' => ['\\', 'f']
  | '\r' => ['\\', 'r']
  | '"' => ['\\', '"']
  | '\\' => ['\\', '\\']
  | _ => if hasControl [c] then '\\' :: 'u' :: hexDigits 4 c.toNat else [c]

/-- A key is written bare if it can be, in double quotes if that takes no escape, else in single
quotes if it can be. -/
def Key.written (key : Key) : String :=
  let text := key.text.toList
  if text ≠ [] ∧ text.all isBareChar then key.text
  else if ¬ hasControl text ∧ '"' ∉ text ∧ '\\' ∉ text then "\"" ++ key.text ++ "\""
  else if ¬ hasControl text ∧ '\'' ∉ text then "'" ++ key.text ++ "'"
  else "\"" ++ String.ofList (text.flatMap escapeBasic) ++ "\""

end CitationFile.Toml
