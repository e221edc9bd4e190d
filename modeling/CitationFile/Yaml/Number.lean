import CitationFile.Decimal.Positional

namespace CitationFile.Yaml

open Decimal

inductive Number where
  | integer (value : Int)
  | float (value : Binary64)
deriving DecidableEq, Repr

namespace Number

def same : Number → Number → Bool
  | .integer left, .integer right => left = right
  | .float left, .float right => left.same right
  | _, _ => false

/-- Leading digits at which a number still has a positional form: the point may stand behind up to
sixteen digits, or before up to four zeros. -/
def isPositional (point : Int) : Bool :=
  -5 < point && point ≤ 16

def scientific (digits : List Char) (point : Int) : List Char :=
  let mantissa := match digits with
    | leading :: second :: rest => leading :: '.' :: second :: rest
    | _ => digits
  mantissa ++ 'e' :: (toString (point - 1)).toList

def magnitudeText (mantissa : Nat) (exponent : Int) : List Char :=
  if mantissa = 0 then "0.0".toList
  else
    let (digits, point) := shortestDigits mantissa exponent
    if isPositional point then positional digits point else scientific digits point

def floatText : Binary64 → String
  | .nan => ".nan"
  | .infinite false => ".inf"
  | .infinite true => "-.inf"
  | .finite negative mantissa exponent =>
      String.ofList (sign negative ++ magnitudeText mantissa exponent)

def text : Number → String
  | .integer value => toString value
  | .float value => floatText value

end Number

end CitationFile.Yaml
