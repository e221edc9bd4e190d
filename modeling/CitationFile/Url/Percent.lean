import CitationFile.Text.Radix

namespace CitationFile.Url.Percent

open Text

def hexDigit (value : Nat) : Char :=
  (Nat.digitChar value).toUpper

def bytesOf (c : Char) : List UInt8 :=
  String.utf8EncodeChar c

/-- A percent sign without two hexadecimal digits behind it stands for itself. -/
def decodeBytes : List Char → List UInt8
  | [] => []
  | '%' :: high :: low :: rest =>
      match digitValue? 16 high, digitValue? 16 low with
      | some upper, some lower => UInt8.ofNat (upper * 16 + lower) :: decodeBytes rest
      | _, _ => 0x25 :: decodeBytes (high :: low :: rest)
  | c :: rest => bytesOf c ++ decodeBytes rest

def decode? (text : List Char) : Option (List Char) :=
  if '%' ∈ text then
    (String.fromUTF8? (ByteArray.mk (decodeBytes text).toArray)).map String.toList
  else some text

def encodeByte (byte : UInt8) : List Char :=
  ['%', hexDigit (byte.toNat / 16), hexDigit (byte.toNat % 16)]

def encode (mustEncode : Char → Bool) (text : List Char) : List Char :=
  text.flatMap fun c =>
    if 0x80 ≤ c.toNat || mustEncode c then (bytesOf c).flatMap encodeByte else [c]

def isControl (c : Char) : Bool :=
  c.toNat < 0x20 || c.toNat = 0x7F

def isPathReserved (c : Char) : Bool :=
  isControl c || c = ' ' || c = '"' || c = '#' || c = '<' || c = '>' || c = '?' || c = '^' ||
    c = '`' || c = '{' || c = '}'

end CitationFile.Url.Percent
