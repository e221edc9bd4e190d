import CitationFile.Decimal.Binary64
import CitationFile.Toml.Quoted

namespace CitationFile.Toml

open Reader

def furtherDigits (isDigit : Char → Bool) : List Char → Outcome (List Char)
  | [] => .done [] []
  | '_' :: [] => .failed { expected := [.digit] } []
  | '_' :: c :: rest =>
      if isDigit c then (furtherDigits isDigit rest).map (c :: ·)
      else .failed { expected := [.digit] } (c :: rest)
  | c :: rest =>
      if isDigit c then (furtherDigits isDigit rest).map (c :: ·) else .done [] (c :: rest)

def digitRun (isDigit : Char → Bool) : Reader (List Char) := do
  let first ← satisfying isDigit
  let further ← furtherDigits isDigit
  return first :: further

/-- Whether the sign is a minus; none counts as a plus. -/
def minus : Reader Bool
  | '-' :: rest => .done true rest
  | '+' :: rest => .done false rest
  | text => .done false text

def wholeNumber : Reader (Bool × List Char) :=
  about .integer do
    let negative ← minus
    let first ← satisfying Char.isDigit
    if first = '0' then return (negative, [first])
    let further ← furtherDigits Char.isDigit
    return (negative, first :: further)

def leastInteger : Int := -0x8000000000000000

def greatestInteger : Int := 0x7FFFFFFFFFFFFFFF

def boundInteger (value : Int) : Except Flaw Int :=
  if greatestInteger < value then .error { obstacle := some .tooLarge }
  else if value < leastInteger then .error { obstacle := some .tooSmall }
  else .ok value

def decimalInteger : Reader Int :=
  wholeNumber.settle fun number =>
    let magnitude : Int := Text.digitsValue number.2
    boundInteger (if number.1 then -magnitude else magnitude)

def basedInteger (mark : Char) (base : Nat) (subject : Subject) : Reader Int :=
  required <|
    (about subject do
      literal ['0', mark]
      required (digitRun (Text.isDigitIn base))).refine fun digits =>
        boundInteger (Text.valueIn base digits)

def integer : Reader Int := fun text =>
  match text with
  | '0' :: 'x' :: _ => basedInteger 'x' 16 .hexadecimalInteger text
  | '0' :: 'o' :: _ => basedInteger 'o' 8 .octalInteger text
  | '0' :: 'b' :: _ => basedInteger 'b' 2 .binaryInteger text
  | _ => decimalInteger text

def exponentText : Reader (List Char) := do
  let _ ← satisfying fun c => c = 'e' || c = 'E'
  let negative ← minus
  let digits ← required (digitRun Char.isDigit)
  return 'e' :: ((if negative then ['-'] else []) ++ digits)

def fractionText : Reader (List Char) := do
  let _ ← symbol '.'
  let digits ← expecting [.digit] (required (digitRun Char.isDigit))
  return '.' :: digits

def fractionAndExponent : Reader (List Char) := do
  let fraction ← fractionText
  let exponent ← exponentText.maybe
  return fraction ++ exponent.getD []

/-- A number too large is refused; one too far below zero is not. -/
def decimalFloat : Reader Decimal.Binary64 :=
  (do
    let (negative, whole) ← wholeNumber
    let tail ← exponentText.orElse fractionAndExponent
    return (if negative then ['-'] else []) ++ whole ++ tail : Reader (List Char)).settle
      fun text =>
        match Decimal.read? text with
        | some (.infinite false) | none => .error {}
        | some value => .ok value

def infinity : Reader Unit :=
  literal ['i', 'n', 'f']

def notANumber : Reader Unit :=
  literal ['n', 'a', 'n']

def specialFloat : Reader Decimal.Binary64 := do
  let negative ← minus
  (do infinity; return .infinite negative : Reader Decimal.Binary64).orElse
    (do notANumber; return .nan)

def float : Reader Decimal.Binary64 :=
  about .float (decimalFloat.orElse specialFloat)

end CitationFile.Toml
