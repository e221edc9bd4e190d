import CitationFile.Text.Digit
import CitationFile.Text.Radix
import CitationFile.Yaml.Token

namespace CitationFile.Yaml

def mayFollowName (c : Char) : Bool :=
  isGap c || c = '?' || c = ':' || c = ',' || c = ']' || c = '}' || c = '%' || c = '@' || c = '`'

def readName (activity : Activity) (cursor : Cursor) :
    Except Malformed (List Char × Cursor) := do
  let (name, behind) := cursor.skip.takeWhile isNameChar
  behind.decode 1
  if name = [] ∨ !behind.peek?.all mayFollowName then
    Malformed.during .anchorName behind.mark activity cursor.mark
  else return (name, behind)

def isUriChar (verbatim : Bool) (c : Char) : Bool :=
  isNameChar c || ";/?:@&=+$.%!~*'()".toList.contains c || (verbatim && ",[]".toList.contains c)

def sequenceLength? (octet : Nat) : Option Nat :=
  if octet < 0x80 then some 1
  else if 0xC0 ≤ octet ∧ octet < 0xE0 then some 2
  else if 0xE0 ≤ octet ∧ octet < 0xF0 then some 3
  else if 0xF0 ≤ octet ∧ octet < 0xF8 then some 4
  else none

def isTrailingOctet (octet : Nat) : Bool :=
  0x80 ≤ octet && octet < 0xC0

def readOctet? (cursor : Cursor) : Option Nat :=
  match cursor.rest with
  | '%' :: high :: low :: _ =>
      match Text.digitValue? 16 high, Text.digitValue? 16 low with
      | some upper, some lower => some (upper * 16 + lower)
      | _, _ => none
  | _ => none

def readTrailingOctets (activity : Activity) (start : Mark) :
    Nat → List Nat → Cursor → Except Malformed (List Nat × Cursor)
  | 0, octets, cursor => .ok (octets, cursor)
  | count + 1, octets, cursor => do
      cursor.decode 3
      match readOctet? cursor with
      | none => Malformed.during .tagUriEscape cursor.mark activity start
      | some octet =>
          if isTrailingOctet octet then
            readTrailingOctets activity start count (octets ++ [octet]) (cursor.skip 3)
          else Malformed.during .tagUriTrailingOctet cursor.mark activity start

def textOfOctets (octets : List Nat) : List Char :=
  match String.fromUTF8? (ByteArray.mk (octets.map UInt8.ofNat).toArray) with
  | some text => text.toList
  | none => ['\ufffd']

def readUriEscape (activity : Activity) (start : Mark) (cursor : Cursor) :
    Except Malformed (List Char × Cursor) := do
  cursor.decode 3
  match readOctet? cursor with
  | none => Malformed.during .tagUriEscape cursor.mark activity start
  | some octet =>
      match sequenceLength? octet with
      | none => Malformed.during .tagUriLeadingOctet cursor.mark activity start
      | some length =>
          let (octets, behind) ←
            readTrailingOctets activity start (length - 1) [octet] (cursor.skip 3)
          return (textOfOctets octets, behind)

def readUriChars (verbatim : Bool) (activity : Activity) (start : Mark) :
    Nat → List Char → Cursor → Except Malformed (List Char × Cursor)
  | 0, uri, cursor => .ok (uri, cursor)
  | fuel + 1, uri, cursor =>
      match cursor.peek? with
      | none => .ok (uri, cursor)
      | some c =>
          if !isUriChar verbatim c then .ok (uri, cursor)
          else if c = '%' then
            match readUriEscape activity start cursor with
            | .error flaw => .error flaw
            | .ok (chars, behind) => readUriChars verbatim activity start fuel (uri ++ chars) behind
          else readUriChars verbatim activity start fuel (uri ++ [c]) cursor.skip

/-- `opening` is what was read of the tag before; it may be all there is. -/
def readUri (verbatim : Bool) (activity : Activity) (opening : List Char) (start : Mark)
    (cursor : Cursor) : Except Malformed (List Char × Cursor) := do
  let (uri, behind) ← readUriChars verbatim activity start cursor.rest.length [] cursor
  behind.decode 1
  if opening = [] ∧ uri = [] then Malformed.during .tagUri behind.mark activity start
  else return (opening.drop 1 ++ uri, behind)

def readHandle (cursor : Cursor) : List Char × Cursor :=
  let (name, behind) := cursor.skip.takeWhile isNameChar
  if behind.isAt '!' then ('!' :: name ++ ['!'], behind.skip) else ('!' :: name, behind)

def isNamedHandle (handle : List Char) : Bool :=
  2 ≤ handle.length && handle.getLast? = some '!'

def readTagParts (cursor : Cursor) : Except Malformed ((List Char × List Char) × Cursor) := do
  let start := cursor.mark
  if cursor.ahead? 1 = some '<' then
    let (uri, behind) ← readUri true .tagUri [] start (cursor.skip 2)
    if behind.isAt '>' then return (([], uri), behind.skip)
    else Malformed.during .verbatimTagEnd behind.mark .tag start
  else
    let (handle, behind) := readHandle cursor
    if isNamedHandle handle then
      let (ending, after) ← readUri false .tagUri [] start behind
      return ((handle, ending), after)
    else
      let (ending, after) ← readUri false .tagUri handle start behind
      return (if ending = [] then ([], ['!']) else (['!'], ending), after)

def readTag (inFlow : Bool) (cursor : Cursor) : Except Malformed (Token.Kind × Cursor) := do
  let ((handle, ending), behind) ← readTagParts cursor
  behind.decode 1
  if (inFlow && behind.isAt ',') || isGapOrEnd behind.peek? then
    return (.tag handle ending, behind)
  else Malformed.during .tagEnd behind.mark .tag cursor.mark

def longestVersionNumber : Nat := 9

def readVersionNumber (start : Mark) (cursor : Cursor) : Except Malformed (Nat × Cursor) := do
  let digits := cursor.rest.takeWhile Char.isDigit
  let behind := cursor.skip (min digits.length longestVersionNumber)
  behind.decode 1
  if longestVersionNumber < digits.length then
    Malformed.during .versionNumberLength behind.mark .versionDirective start
  else if digits = [] then Malformed.during .versionNumber behind.mark .versionDirective start
  else return (Text.digitsValue digits, behind)

def readVersion (start : Mark) (cursor : Cursor) : Except Malformed (Token.Kind × Cursor) := do
  let (major, behindMajor) ← readVersionNumber start cursor.skipSpaces
  if !behindMajor.isAt '.' then
    Malformed.during .versionPoint behindMajor.mark .versionDirective start
  else
    let (minor, behind) ← readVersionNumber start behindMajor.skip
    return (.versionDirective major minor, behind)

def readDirectiveHandle (start : Mark) (cursor : Cursor) :
    Except Malformed (List Char × Cursor) := do
  cursor.decode 1
  if !cursor.isAt '!' then
    Malformed.during .tagHandleMark cursor.mark .tagDirectiveHandle start
  else
    let (handle, behind) := readHandle cursor
    behind.decode 1
    if isNamedHandle handle || handle = ['!'] then return (handle, behind)
    else Malformed.during .tagHandleMark behind.mark .tagDirectiveHandleEnd start

def readTagDirective (start : Mark) (cursor : Cursor) : Except Malformed (Token.Kind × Cursor) := do
  let (handle, behindHandle) ← readDirectiveHandle start cursor.skipSpaces
  if !behindHandle.peek?.any isSpace then
    Malformed.during .whitespaceMissing behindHandle.mark .tagDirective start
  else
    let (uri, behind) ← readUri true .tagDirectiveUri [] start behindHandle.skipSpaces
    if isGapOrEnd behind.peek? then return (.tagDirective handle uri, behind)
    else Malformed.during .tagEnd behind.mark .tagDirective start

def readDirectiveValue (name : List Char) (start : Mark) (cursor : Cursor) :
    Except Malformed (Token.Kind × Cursor) :=
  if name = "YAML".toList then readVersion start cursor
  else if name = "TAG".toList then readTagDirective start cursor
  else Malformed.during .unknownDirective cursor.mark .directive start

/-- A directive takes a whole line, at the end of which a comment may stand. -/
def readDirective (cursor : Cursor) : Except Malformed (Token × Cursor) := do
  let start := cursor.mark
  let (name, behindName) := cursor.skip.takeWhile isNameChar
  behindName.decode 1
  if name = [] then Malformed.during .directiveName behindName.mark .directive start
  else if !isGapOrEnd behindName.peek? then
    Malformed.during .directiveNameEnd behindName.mark .directive start
  else
    let (kind, behind) ← readDirectiveValue name start behindName
    let ending := behind.skipSpaces.skipComment
    ending.decode 1
    if isBreakOrEnd ending.peek? then
      ending.decode 2
      return (⟨kind, start, behind.mark⟩, ending.skipBreak)
    else Malformed.during .commentOrBreakMissing ending.mark .directive start

end CitationFile.Yaml
