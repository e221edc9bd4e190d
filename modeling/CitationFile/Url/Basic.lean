import CitationFile.Text.Ascii
import CitationFile.Text.Digit
import CitationFile.Url.Host

/-! Absolute URLs, as browsers read them: blanks around the text are dropped, tabs and line ends
anywhere, a backslash counts as a slash in the schemes of the web, and a path is freed of its dot
segments. -/

namespace CitationFile

structure Url where
  scheme : List Char
  host : Option Url.Host
  tail : List Char
deriving DecidableEq, Repr

namespace Url

inductive SchemeKind where
  | web | file | other
deriving DecidableEq, Repr

def webSchemes : List (List Char) :=
  ["http".toList, "https".toList, "ws".toList, "wss".toList, "ftp".toList]

def SchemeKind.of (scheme : List Char) : SchemeKind :=
  if webSchemes.contains scheme then .web
  else if scheme = "file".toList then .file
  else .other

def isControlOrSpace (c : Char) : Bool :=
  c.toNat ≤ 0x20

def isIgnored (c : Char) : Bool :=
  c = '\t' || c = '\n' || c = '\r'

def clean (text : List Char) : List Char :=
  let trimmed := ((text.dropWhile isControlOrSpace).reverse.dropWhile isControlOrSpace).reverse
  trimmed.filter fun c => !isIgnored c

def isSchemeChar (c : Char) : Bool :=
  c.isAlphanum || c = '+' || c = '-' || c = '.'

def splitScheme? (text : List Char) : Option (List Char × List Char) :=
  match text with
  | first :: _ =>
      if first.isAlpha then
        match text.span isSchemeChar with
        | (scheme, ':' :: rest) => some (Text.asciiLower scheme, rest)
        | _ => none
      else none
  | [] => none

def isSlash (c : Char) : Bool :=
  c = '/' || c = '\\'

def endsAuthority (kind : SchemeKind) (c : Char) : Bool :=
  c = '/' || c = '?' || c = '#' || (kind ≠ .other && c = '\\')

def splitUserInfo (authority : List Char) : Option (List Char) × List Char :=
  match authority.reverse.span (· ≠ '@') with
  | (host, _ :: user) => (some user.reverse, host.reverse)
  | (host, []) => (none, host.reverse)

/-- A colon without a name or a password is no credential. -/
def isCredential (user : List Char) : Bool :=
  user ≠ [] && user ≠ [':']

/-- The host ends at the first colon outside brackets. -/
def splitPort (bracketed : Bool) : List Char → List Char × Option (List Char)
  | [] => ([], none)
  | c :: rest =>
      if c = ':' ∧ !bracketed then ([], some rest)
      else
        let (host, port) := splitPort (c = '[' || (bracketed && c ≠ ']')) rest
        (c :: host, port)

/-- Digits up to the greatest port; a backslash ends the port in every scheme. -/
def isPort (port : List Char) : Bool :=
  let digits := port.takeWhile (· ≠ '\\')
  digits.all Char.isDigit && Text.digitsValue digits ≤ 65535

def parseHost (kind : SchemeKind) (text : List Char) : Except Error Host :=
  match kind with
  | .web => if text = [] then .error .emptyHost else Host.ofWebText text
  | _ => Host.ofOpaqueText text

def parseAuthority (scheme : List Char) (kind : SchemeKind) (authority tail : List Char) :
    Except Error Url := do
  let (user, server) := splitUserInfo authority
  if user = some [] ∧ server = [] ∧ tail ≠ [] then throw .emptyHost
  let (name, port) := splitPort false server
  let host ← parseHost kind name
  if host = .domain [] ∧ (port.isSome ∨ user.any isCredential) then throw .emptyHost
  if !port.all isPort then throw .port
  return ⟨scheme, some host, tail⟩

def isDriveLetter (text : List Char) : Bool :=
  match text with
  | [letter, mark] => letter.isAlpha && (mark = ':' || mark = '|')
  | _ => false

/-- A file may name a host between two slashes and the path; a drive letter is no host. -/
def parseFile (text : List Char) : Except Error Url :=
  match text with
  | first :: second :: rest =>
      if isSlash first && isSlash second then
        let name := rest.takeWhile (!endsAuthority .file ·)
        let tail := rest.dropWhile (!endsAuthority .file ·)
        if name = [] ∨ isDriveLetter name then .ok ⟨"file".toList, none, tail⟩
        else do
          let host ← Host.ofWebText name
          return ⟨"file".toList, some host, tail⟩
      else .ok ⟨"file".toList, none, text⟩
  | _ => .ok ⟨"file".toList, none, text⟩

def parseChars (text : List Char) : Except Error Url :=
  match splitScheme? (clean text) with
  | none => .error .relativeWithoutBase
  | some (scheme, rest) =>
      let kind := SchemeKind.of scheme
      let authority (text : List Char) :=
        parseAuthority scheme kind (text.takeWhile (!endsAuthority kind ·))
          (text.dropWhile (!endsAuthority kind ·))
      match kind with
      | .web => authority (rest.dropWhile isSlash)
      | .file => parseFile rest
      | .other =>
          match rest with
          | '/' :: '/' :: behind => authority behind
          | _ => .ok ⟨scheme, none, rest⟩

def parse (text : String) : Except Error Url :=
  parseChars text.toList

def dotForms : List (List Char) :=
  [".".toList, "%2e".toList]

def isSingleDot (segment : List Char) : Bool :=
  dotForms.contains (Text.asciiLower segment)

def isDoubleDot (segment : List Char) : Bool :=
  let lower := Text.asciiLower segment
  dotForms.any fun first => dotForms.any fun second => lower = first ++ second

/-- Steps up from a list of segments in reverse; a drive letter stays. -/
def stepUp : List (List Char) → List (List Char)
  | [] => []
  | last :: rest => if isDriveLetter last then last :: rest else rest

/-- Resolves dot segments; `above` holds the segments so far in reverse. -/
def resolve (above : List (List Char)) : List (List Char) → List (List Char)
  | [] => above.reverse
  | [segment] =>
      if isDoubleDot segment then (stepUp above).reverse ++ [[]]
      else if isSingleDot segment then above.reverse ++ [[]]
      else above.reverse ++ [segment]
  | segment :: rest =>
      if isDoubleDot segment then resolve (stepUp above) rest
      else if isSingleDot segment then resolve above rest
      else resolve (segment :: above) rest

def webPath (url : Url) : List Char :=
  let written := url.tail.takeWhile fun c => c ≠ '?' && c ≠ '#'
  let behindSlash := match written with
    | c :: rest => if isSlash c then rest else written
    | [] => []
  let segments := resolve [] (behindSlash.splitOnP isSlash)
  '/' :: ['/'].intercalate (segments.map (Percent.encode Percent.isPathReserved))

end Url

end CitationFile
