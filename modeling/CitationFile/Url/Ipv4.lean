import CitationFile.Text.Radix

namespace CitationFile.Url.Ipv4

open Text

def valueIfDigits? (base : Nat) (text : List Char) : Option Nat :=
  if text.all (isDigitIn base) then some (valueIn base text) else none

/-- A number in one of the three notations; a radix mark alone is zero. -/
def number? : List Char → Option Nat
  | [] => none
  | '0' :: 'x' :: digits => valueIfDigits? 16 digits
  | '0' :: 'X' :: digits => valueIfDigits? 16 digits
  | '0' :: c :: digits => valueIfDigits? 8 (c :: digits)
  | digits => valueIfDigits? 10 digits

/-- The labels of a host, without the empty one behind a final dot. -/
def labels (host : List Char) : List (List Char) :=
  let parts := host.splitOn '.'
  if parts.getLast? = some [] ∧ 1 < parts.length then parts.dropLast else parts

/-- A host whose last label is a number is meant to be an address. -/
def endsInNumber (host : List Char) : Bool :=
  match (labels host).getLast? with
  | some last => (last ≠ [] && last.all Char.isDigit) || (number? last).isSome
  | none => false

def leadingValue (bytes : List Nat) : Nat :=
  bytes.foldl (fun value byte => value * 256 + byte) 0

def address? (host : List Char) : Option Nat := do
  let numbers ← (labels host).mapM number?
  let last ← numbers.getLast?
  let leading := numbers.dropLast
  if numbers.length ≤ 4 ∧ leading.all (· < 256) ∧ last < Nat.pow 256 (4 - leading.length) then
    some (leadingValue leading * Nat.pow 256 (4 - leading.length) + last)
  else none

end CitationFile.Url.Ipv4
