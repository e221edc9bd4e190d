import CitationFile.Text.Radix
import CitationFile.Yaml.Value

namespace CitationFile.Yaml

open Decimal Text

/-- An integer in its range, beyond 64 bits but within 128, or no integer. -/
inductive IntegerReading where
  | integer (value : Int)
  | wide (value : Int)
  | none
deriving DecidableEq, Repr

namespace Scalar

def isNull (text : List Char) : Bool :=
  ["", "null", "Null", "NULL", "~"].any (·.toList = text)

def bool? (text : List Char) : Option Bool :=
  if ["true", "True", "TRUE"].any (·.toList = text) then some true
  else if ["false", "False", "FALSE"].any (·.toList = text) then some false
  else none

/-- Digits behind a leading zero make no number. -/
def hasLeadingZero (text : List Char) : Bool :=
  let unsigned := match text with
    | c :: rest => if c = '-' ∨ c = '+' then rest else text
    | [] => []
  match unsigned with
  | '0' :: c :: rest => (c :: rest).all Char.isDigit
  | _ => false

def unsigned? (text : List Char) : Option Nat :=
  match text with
  | '0' :: 'x' :: rest => numberIn? 16 rest
  | '0' :: 'o' :: rest => numberIn? 8 rest
  | '0' :: 'b' :: rest => numberIn? 2 rest
  | _ => if hasLeadingZero text then none else numberIn? 10 text

def integer? (text : List Char) : Option Int :=
  match text with
  | '+' :: rest => (unsigned? rest).map Int.ofNat
  | '-' :: rest => (unsigned? rest).map Int.negOfNat
  | _ => (unsigned? text).map Int.ofNat

def readInteger (text : List Char) : IntegerReading :=
  match integer? text with
  | some value =>
      if -0x8000000000000000 ≤ value ∧ value < 0x10000000000000000 then .integer value
      else if -0x80000000000000000000000000000000 ≤ value ∧
          value < 0x100000000000000000000000000000000 then .wide value
      else .none
  | none => .none

/-- A finite number, or one of the words for the others. A number too great to be finite is none. -/
def float? (text : List Char) : Option Binary64 :=
  let unsigned := match text with
    | '+' :: rest => rest
    | _ => text
  if text.head? = some '+' && unsigned.head?.any (fun c => c = '+' || c = '-') then none
  else if [".inf", ".Inf", ".INF"].any (·.toList = unsigned) then some (.infinite false)
  else if ["-.inf", "-.Inf", "-.INF"].any (·.toList = text) then some (.infinite true)
  else if [".nan", ".NaN", ".NAN"].any (·.toList = text) then some .nan
  else (Decimal.read? unsigned).filter (·.isFinite)

end Scalar

end CitationFile.Yaml
