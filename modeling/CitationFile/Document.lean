import CitationFile.Document.Repetition
import CitationFile.Text.Cut
import CitationFile.Yaml.Composition

/-! Reading a document as YAML. A failure tells where the fault is when this is known; a repeated
key is looked for where it is named again, rather than at the mapping that holds it. -/

namespace CitationFile.Document

structure Failure where
  line : Option Nat
  column : Option Nat
  message : String
deriving DecidableEq, Repr

namespace Failure

def text (failure : Failure) : String :=
  match failure.line, failure.column with
  | some line, some column =>
      "Parse error at line " ++ line.repr ++ ", column " ++ column.repr ++ ": " ++ failure.message
  | some line, none => "Parse error at line " ++ line.repr ++ ": " ++ failure.message
  | none, _ => "Parse error: " ++ failure.message

def ofReadError (error : Yaml.ReadError) : Failure :=
  { line := error.mark?.map (·.line + 1)
    column := error.mark?.map (·.column + 1)
    message := error.text }

def repeatedKey? (message : List Char) : Option (List Char) := do
  let (_, behind) ← Text.cutAtFirst? "duplicate entry with key \"".toList message
  let (key, _) ← Text.cutAtFirst? ['"'] behind
  return key

def withoutPlace (message : List Char) : List Char :=
  (Text.beforeLast? " at line ".toList message).getD message

/-- Tells a repeated key at the place where the text names it again. -/
def atRepetition (source : List Char) (failure : Failure) : Failure :=
  match repeatedKey? failure.message.toList with
  | none => failure
  | some key =>
      let place := repetition? source key
      { line := place.map (·.1)
        column := place.map (·.2)
        message := String.ofList (withoutPlace failure.message.toList) }

end Failure

def parse (source : String) : Except Failure Yaml.Value :=
  match Yaml.Value.ofText source with
  | .ok root => .ok root
  | .error error => .error ((Failure.ofReadError error).atRepetition source.toList)

end CitationFile.Document
