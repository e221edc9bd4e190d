import CitationFile.Decimal.Shortest

namespace CitationFile.Decimal

def positional (digits : List Char) (point : Int) : List Char :=
  if point ≤ 0 then "0.".toList ++ List.replicate (-point).toNat '0' ++ digits
  else if digits.length ≤ point.toNat then
    digits ++ List.replicate (point.toNat - digits.length) '0' ++ ".0".toList
  else digits.take point.toNat ++ '.' :: digits.drop point.toNat

def significantDigits (digits : Nat) : List Char :=
  ((Nat.toDigits 10 digits).reverse.dropWhile (· = '0')).reverse

/-- The significant digits of the shortest decimal for a positive number, and how many of them stand
before the point. -/
def shortestDigits (mantissa : Nat) (exponent : Int) : List Char × Int :=
  let (digits, scale) := shortest mantissa exponent
  (significantDigits digits, scale + (Nat.toDigits 10 digits).length)

def sign (negative : Bool) : List Char :=
  if negative then ['-'] else []

def positionalText (mantissa : Nat) (exponent : Int) : List Char :=
  if mantissa = 0 then "0.0".toList
  else
    let (digits, point) := shortestDigits mantissa exponent
    positional digits point

end CitationFile.Decimal
