namespace CitationFile.Text

def digitValue? (base : Nat) (c : Char) : Option Nat :=
  let value? :=
    if c.isDigit then some (c.toNat - '0'.toNat)
    else if 'a' ≤ c ∧ c ≤ 'f' then some (c.toNat - 'a'.toNat + 10)
    else if 'A' ≤ c ∧ c ≤ 'F' then some (c.toNat - 'A'.toNat + 10)
    else none
  value?.filter (· < base)

def isDigitIn (base : Nat) (c : Char) : Bool :=
  (digitValue? base c).isSome

def valueIn (base : Nat) (digits : List Char) : Nat :=
  digits.foldl (fun value c => value * base + (digitValue? base c).getD 0) 0

def numberIn? (base : Nat) (text : List Char) : Option Nat :=
  if text ≠ [] ∧ text.all (isDigitIn base) then some (valueIn base text) else none

end CitationFile.Text
