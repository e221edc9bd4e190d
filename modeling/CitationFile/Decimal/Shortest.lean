import CitationFile.Decimal.Binary64

/-! The shortest decimal that reads back. A decimal reads back as a number if it lies in the
interval of reals that round to it; of the decimals with the fewest digits the nearest one is taken,
and of two equally near ones the even one. -/

namespace CitationFile.Decimal

structure Fraction where
  numerator : Nat
  denominator : Nat
deriving DecidableEq, Repr

namespace Fraction

def le (left right : Fraction) : Bool :=
  left.numerator * right.denominator ≤ right.numerator * left.denominator

def lt (left right : Fraction) : Bool :=
  left.numerator * right.denominator < right.numerator * left.denominator

def ofBinary (numerator : Nat) (exponent : Int) : Fraction :=
  if 0 ≤ exponent then ⟨numerator * Nat.pow 2 exponent.toNat, 1⟩
  else ⟨numerator, Nat.pow 2 (-exponent).toNat⟩

def ofDecimal (numerator : Nat) (exponent : Int) : Fraction :=
  if 0 ≤ exponent then ⟨numerator * Nat.pow 10 exponent.toNat, 1⟩
  else ⟨numerator, Nat.pow 10 (-exponent).toNat⟩

def wholeUnits (fraction : Fraction) (exponent : Int) : Nat :=
  if 0 ≤ exponent then fraction.numerator / (fraction.denominator * Nat.pow 10 exponent.toNat)
  else fraction.numerator * Nat.pow 10 (-exponent).toNat / fraction.denominator

end Fraction

/-- The reals that round to a number. The ends belong to the interval if the mantissa is even. -/
structure Interval where
  low : Fraction
  high : Fraction
  closed : Bool

namespace Interval

/-- Below a power of two the neighbouring number is only half as far away. -/
def around (mantissa : Nat) (exponent : Int) : Interval where
  low :=
    if mantissa = Nat.pow 2 52 ∧ Binary64.leastExponent < exponent then
      Fraction.ofBinary (4 * mantissa - 1) (exponent - 2)
    else Fraction.ofBinary (2 * mantissa - 1) (exponent - 1)
  high := Fraction.ofBinary (2 * mantissa + 1) (exponent - 1)
  closed := mantissa % 2 = 0

def contains (interval : Interval) (fraction : Fraction) : Bool :=
  if interval.closed then interval.low.le fraction && fraction.le interval.high
  else interval.low.lt fraction && fraction.lt interval.high

end Interval

def leadingExponent (fraction : Fraction) : Int :=
  let whole := fraction.numerator / fraction.denominator
  if whole ≠ 0 then (Nat.toDigits 10 whole).length - 1
  else
    let steps := (List.range 330).find? fun steps =>
      fraction.denominator ≤ fraction.numerator * Nat.pow 10 steps
    Int.negOfNat (steps.getD 0)

/-- The nearer of the two neighbours of a value on the grid of multiples of `10 ^ exponent`, among
those inside the interval. -/
def gridPoint? (value : Fraction) (interval : Interval) (exponent : Int) : Option Nat :=
  let below := value.wholeUnits exponent
  let above := below + 1
  let middle := Fraction.ofDecimal (5 * (2 * below + 1)) (exponent - 1)
  let lowerIsNearer := value.lt middle || (value.le middle && below % 2 = 0)
  let order := if lowerIsNearer then [below, above] else [above, below]
  order.find? fun units => units ≠ 0 && interval.contains (Fraction.ofDecimal units exponent)

/-- Digits and scale of the shortest decimal `digits * 10 ^ scale` for a positive number. -/
def shortest (mantissa : Nat) (exponent : Int) : Nat × Int :=
  let value := Fraction.ofBinary mantissa exponent
  let interval := Interval.around mantissa exponent
  let leading := leadingExponent value
  let found := (List.range 17).findSome? fun (count : Nat) =>
    let scale := leading - (count : Int)
    (gridPoint? value interval scale).map fun digits => (digits, scale)
  found.getD (0, 0)

end CitationFile.Decimal
