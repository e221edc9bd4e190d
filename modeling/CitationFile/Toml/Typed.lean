import CitationFile.Decimal.Positional
import CitationFile.Text.Quoted
import CitationFile.Toml.Table

namespace CitationFile.Toml

inductive Found where
  | boolean (value : Bool)
  | integer (value : Int)
  | float (value : Decimal.Binary64)
  | string (text : String)
  | sequence
  | map
deriving DecidableEq, Repr

namespace Found

def ofValue : Value → Found
  | .string text => string text
  | .integer value => integer value
  | .float value => float value
  | .boolean value => boolean value
  | .array _ | .tables _ => sequence
  | .table .. | .moment => map

def floatText : Decimal.Binary64 → String
  | .nan => "NaN"
  | .infinite negative => String.ofList (Decimal.sign negative ++ "inf".toList)
  | .finite negative mantissa exponent =>
      String.ofList (Decimal.sign negative ++ Decimal.positionalText mantissa exponent)

def text : Found → String
  | boolean value => "boolean `" ++ toString value ++ "`"
  | integer value => "integer `" ++ toString value ++ "`"
  | float value => "floating point `" ++ floatText value ++ "`"
  | string text => "string " ++ Text.quote text
  | sequence => "sequence"
  | map => "map"

end Found

inductive Mismatch where
  | wrongType (found : Found) (expected : String)
  | wrongValue (found : Found) (expected : String)
  | unknownName (name : String) (known : List String)
  | noEntry
  | severalEntries
  | neitherStringNorTable
  | notTable (kind : String)
  | notEmptyTable
  | notEmptyArray
deriving DecidableEq, Repr

def Mismatch.text : Mismatch → String
  | wrongType found expected => "invalid type: " ++ found.text ++ ", expected " ++ expected
  | wrongValue found expected => "invalid value: " ++ found.text ++ ", expected " ++ expected
  | unknownName name known =>
      "unknown variant `" ++ name ++ "`, expected " ++
        " or ".intercalate (known.map fun name => "`" ++ name ++ "`")
  | noEntry => "wanted exactly 1 element, found 0 elements"
  | severalEntries => "wanted exactly 1 element, more than 1 element"
  | neitherStringNorTable => "wanted string or table"
  | notTable kind => "expected table, found " ++ kind
  | notEmptyTable => "expected empty table"
  | notEmptyArray => "expected empty array"

abbrev View (α : Type) := Span → Value → Except (Mismatch × Span) α

def boolean : View Bool := fun span value =>
  match value with
  | .boolean value => .ok value
  | _ => .error (.wrongType (.ofValue value) "a boolean", span)

def natural : View Nat := fun span value =>
  match value with
  | .integer (.ofNat number) => .ok number
  | .integer number => .error (.wrongValue (.integer number) "usize", span)
  | _ => .error (.wrongType (.ofValue value) "usize", span)

/-- A name that stands as a key may only have an empty value. -/
def emptied : View Unit := fun span value =>
  match value with
  | .table _ [] | .array [] | .tables [] => .ok ()
  | .table .. | .array _ => .error (.notEmptyTable, span)
  | .tables _ => .error (.notEmptyArray, span)
  | _ => .error (.notTable value.kindName, span)

def choice (known : List (String × α)) : View α := fun span value =>
  let named (span : Span) (name : String) : Except (Mismatch × Span) α :=
    match known.lookup name with
    | some value => .ok value
    | none => .error (.unknownName name (known.map (·.1)), span)
  match value with
  | .string name => named span name
  | .table _ [] => .error (.noEntry, span)
  | .table _ [(key, inner)] => do
      let value ← named key.span key.text
      emptied (inner.span.getD span) inner.value
      return value
  | .table .. => .error (.severalEntries, span)
  | _ => .error (.neitherStringNorTable, span)

structure Field (α : Type) where
  name : String
  set : α → View α

/-- A record as a table, in which unknown keys are left out of account, or as a sequence of the
values of its fields, which may break off early. -/
def record (expected : String) (fields : List (Field α)) (default : α) : View α :=
  fun span value =>
    match value with
    | .table _ entries =>
        entries.foldlM (fun current entry =>
          match fields.find? (·.name = entry.1.text) with
          | some field =>
              field.set current (entry.2.span.getD entry.1.span) entry.2.value
          | none => .ok current) default
    | .array items | .tables items =>
        (fields.zip items).foldlM (fun current pair =>
          pair.1.set current (pair.2.span.getD span) pair.2.value) default
    | .moment => .ok default
    | _ => .error (.wrongType (.ofValue value) expected, span)

end CitationFile.Toml
