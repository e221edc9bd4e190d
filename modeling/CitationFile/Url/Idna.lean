import CitationFile.Unicode.Composition
import CitationFile.Unicode.Mark
import CitationFile.Url.Idna.Direction
import CitationFile.Url.Idna.Joining
import CitationFile.Url.Idna.Mapping
import CitationFile.Url.Punycode

namespace CitationFile.Url.Idna

open Unicode

def isForbidden (code : Nat) : Bool :=
  code ≤ 0x20 || code = 0x7F || "%#/:<>?@[\\]^|".toList.any (·.toNat = code)

def punycodeMark : List Nat :=
  "xn--".toList.map Char.toNat

def longestEncoded : Nat := 2000

def longestDecoded : Nat := 1000

def isSound (label : List Nat) : Bool :=
  !label.any isForbidden &&
    (label.all (· < 0x80) ||
      (label.length ≤ longestDecoded && joinersFit [] label &&
        match label with
        | first :: _ => !isMark first
        | [] => true))

/-- What a label in Punycode stands for. It may not end in a hyphen, so something was encoded. -/
def decodeLabel? (encoded : List Nat) : Option (List Nat) := do
  if encoded.getLast?.getD '-'.toNat = '-'.toNat ∨ longestEncoded < encoded.length ∨
      encoded.any (0x80 ≤ ·) then none
  let label ← Punycode.decode? (encoded.map Char.ofNat)
  if label.all isValid ∧ composed label = label ∧ '.'.toNat ∉ label ∧ isSound label then some label
  else none

def plainLabel? (label : List Nat) : Option (List Nat) :=
  if punycodeMark.isPrefixOf label then decodeLabel? (label.drop punycodeMark.length)
  else if isSound label then some label
  else none

def encodeLabel (label : List Nat) : List Char :=
  if label.all (· < 0x80) then label.map Char.ofNat
  else "xn--".toList ++ Punycode.encode label

def isDirectedName (labels : List (List Nat)) : Bool :=
  !labels.any (·.any readsRightToLeft) || labels.all isDirected

def toAscii? (name : List Char) : Option (List Char) := do
  let mapped ← name.mapM fun c => mapped? c.toNat
  let labels ← ((composed mapped.flatten).splitOn '.'.toNat).mapM plainLabel?
  if isDirectedName labels then some (['.'].intercalate (labels.map encodeLabel)) else none

end CitationFile.Url.Idna
