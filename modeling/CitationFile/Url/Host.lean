import CitationFile.Url.Error
import CitationFile.Url.Idna
import CitationFile.Url.Ipv4
import CitationFile.Url.Ipv6
import CitationFile.Url.Percent

namespace CitationFile.Url

inductive Host where
  | domain (name : List Char)
  | ipv4 (address : Nat)
  | ipv6 (address : List Char)
deriving DecidableEq, Repr

namespace Host

def bracketed? (text : List Char) : Option (List Char) :=
  match text with
  | '[' :: rest => if rest.getLast? = some ']' then some rest.dropLast else none
  | _ => none

def ofBrackets (text : List Char) : Except Error Host :=
  match bracketed? text with
  | some address => if Ipv6.isAddress address then .ok (.ipv6 address) else .error .ipv6Address
  | none => .error .ipv6Address

def ofDomain (name : List Char) : Except Error Host :=
  if name = [] then .error .emptyHost
  else if Ipv4.endsInNumber name then
    match Ipv4.address? name with
    | some address => .ok (.ipv4 address)
    | none => .error .ipv4Address
  else .ok (.domain name)

def ofWebText (text : List Char) : Except Error Host :=
  match text with
  | '[' :: _ => ofBrackets text
  | _ =>
      match (Percent.decode? text).bind Idna.toAscii? with
      | some name => ofDomain name
      | none => .error .internationalDomain

def isDelimiter (c : Char) : Bool :=
  c = '\x00' || c = '\t' || c = '\n' || c = '\r' || "\x20#/:<>?@[\\]^|".toList.contains c

def ofOpaqueText (text : List Char) : Except Error Host :=
  match text with
  | '[' :: _ => ofBrackets text
  | _ =>
      if text.any isDelimiter then .error .hostCharacter
      else .ok (.domain (Percent.encode Percent.isControl text))

end Host

end CitationFile.Url
