import CitationFile.Decimal.Binary64
import CitationFile.Toml.Key

namespace CitationFile.Toml

structure Placed (α : Type) where
  value : α
  span : Option Span
deriving DecidableEq, Repr

/-- How a table came about: by a header, as a step of a longer header, as a step of a dotted key,
and the same within braces. -/
inductive Origin where
  | header
  | headerStep
  | keyStep
  | inline
  | inlineStep
deriving DecidableEq, Repr

inductive Value where
  | string (text : String)
  | integer (value : Int)
  | float (value : Decimal.Binary64)
  | boolean (value : Bool)
  | moment
  | array (items : List (Placed Value))
  | table (origin : Origin) (entries : List (Key × Placed Value))
  | tables (items : List (Placed Value))

def Value.kindName : Value → String
  | string _ => "string"
  | integer _ => "integer"
  | float _ => "float"
  | boolean _ => "boolean"
  | moment => "datetime"
  | array _ => "array"
  | table .inline _ | table .inlineStep _ => "inline table"
  | table .. => "table"
  | tables _ => "array of tables"

end CitationFile.Toml
