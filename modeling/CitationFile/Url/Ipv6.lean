import CitationFile.Text.Digit
import CitationFile.Text.Radix

namespace CitationFile.Url.Ipv6

def isDecimalByte (text : List Char) : Bool :=
  match text with
  | [] => false
  | ['0'] => true
  | '0' :: _ => false
  | digits => digits.all Char.isDigit && digits.length ≤ 3 &&
      Text.digitsValue digits < 256

def isEmbeddedIpv4 (text : List Char) : Bool :=
  let bytes := text.splitOn '.'
  bytes.length = 4 && bytes.all isDecimalByte

def isPiece (text : List Char) : Bool :=
  text ≠ [] && text.length ≤ 4 && text.all (Text.isDigitIn 16)

/-- How many pieces a colon-separated run stands for, where the last may be an IPv4 address. -/
def pieceCount? (endsAddress : Bool) : List (List Char) → Option Nat
  | [] => some 0
  | [last] =>
      if isPiece last then some 1
      else if endsAddress && isEmbeddedIpv4 last then some 2
      else none
  | piece :: rest => if isPiece piece then (pieceCount? endsAddress rest).map (· + 1) else none

def splitAtDoubleColon? : List Char → Option (List Char × List Char)
  | ':' :: ':' :: rest => some ([], rest)
  | c :: rest => (splitAtDoubleColon? rest).map fun parts => (c :: parts.1, parts.2)
  | [] => none

def run (text : List Char) : List (List Char) :=
  if text = [] then [] else text.splitOn ':'

/-- A double colon stands for at least one piece. -/
def isAddress (text : List Char) : Bool :=
  match splitAtDoubleColon? text with
  | none => pieceCount? true (run text) = some 8
  | some (before, after) =>
      match pieceCount? false (run before), pieceCount? true (run after) with
      | some first, some second => first + second < 8
      | _, _ => false

end CitationFile.Url.Ipv6
