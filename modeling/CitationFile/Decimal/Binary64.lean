import CitationFile.Text.Ascii
import CitationFile.Text.Digit

namespace CitationFile.Decimal

/-- A finite number is `± mantissa * 2 ^ exponent`. In normal form the mantissa has 53 bits, or
fewer if the exponent is -1074. -/
inductive Binary64 where
  | finite (negative : Bool) (mantissa : Nat) (exponent : Int)
  | infinite (negative : Bool)
  | nan
deriving DecidableEq, Repr

namespace Binary64

def leastExponent : Int := -1074

def greatestExponent : Int := 971

def isFinite : Binary64 → Bool
  | .finite .. => true
  | _ => false

/-- Zeros of both signs are equal, and so is a NaN to itself. -/
def same : Binary64 → Binary64 → Bool
  | .finite _ 0 _, .finite _ 0 _ => true
  | left, right => left = right

/-- The quotient `numerator / denominator * 2 ^ (-exponent)` as numerator and denominator. -/
def scaled (numerator denominator : Nat) (exponent : Int) : Nat × Nat :=
  if 0 ≤ exponent then (numerator, denominator * Nat.pow 2 exponent.toNat)
  else (numerator * Nat.pow 2 (-exponent).toNat, denominator)

def roundHalfEven (numerator denominator : Nat) : Nat :=
  let whole := numerator / denominator
  let twice := 2 * (numerator % denominator)
  if twice < denominator ∨ (twice = denominator ∧ whole % 2 = 0) then whole else whole + 1

/-- The exponent that gives the quotient a mantissa of 53 bits, unless that is below the least. -/
def exponentFor (numerator denominator : Nat) : Int :=
  let estimate := max leastExponent ((numerator.log2 : Int) - denominator.log2 - 53)
  let parts := scaled numerator denominator estimate
  if parts.1 / parts.2 < Nat.pow 2 53 then estimate else estimate + 1

def nearest (negative : Bool) (numerator denominator : Nat) : Binary64 :=
  if numerator = 0 then .finite negative 0 leastExponent
  else
    let exponent := exponentFor numerator denominator
    let parts := scaled numerator denominator exponent
    let mantissa := roundHalfEven parts.1 parts.2
    let carried :=
      if mantissa = Nat.pow 2 53 then (Nat.pow 2 52, exponent + 1) else (mantissa, exponent)
    if greatestExponent < carried.2 then .infinite negative
    else .finite negative carried.1 carried.2

/-- The nearest number to `± digits * 10 ^ scale`. Far outside the range of exponents the powers of
ten are not formed. -/
def ofDecimal (negative : Bool) (digits : Nat) (scale : Int) : Binary64 :=
  let magnitude := scale + (Nat.toDigits 10 digits).length
  if digits = 0 ∨ magnitude < -330 then .finite negative 0 leastExponent
  else if 310 < magnitude then .infinite negative
  else if 0 ≤ scale then nearest negative (digits * Nat.pow 10 scale.toNat) 1
  else nearest negative digits (Nat.pow 10 (-scale).toNat)

end Binary64

def takeSign : List Char → Bool × List Char
  | '-' :: rest => (true, rest)
  | '+' :: rest => (false, rest)
  | text => (false, text)

def exponentPart? : List Char → Option Int
  | [] => some 0
  | c :: rest =>
      if c = 'e' ∨ c = 'E' then
        let (negative, digits) := takeSign rest
        if digits ≠ [] ∧ digits.all Char.isDigit then
          let value : Int := Text.digitsValue digits
          some (if negative then -value else value)
        else none
      else none

/-- Digits with an optional point and an optional exponent; a digit stands on at least one side of
the point. -/
def read? (text : List Char) : Option Binary64 :=
  let (negative, unsigned) := takeSign text
  let (whole, rest) := unsigned.span Char.isDigit
  let (fraction, tail) := match rest with
    | '.' :: behind => behind.span Char.isDigit
    | _ => ([], rest)
  if whole = [] ∧ fraction = [] then none
  else
    (exponentPart? tail).map fun exponent =>
      Binary64.ofDecimal negative (Text.digitsValue (whole ++ fraction))
        (exponent - fraction.length)

end CitationFile.Decimal
