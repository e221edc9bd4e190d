import CitationFile.Text.Radix
import CitationFile.Toml.Blank

namespace CitationFile.Toml

open Reader

def codePoint (length : Nat) : Reader Char :=
  (count (Text.isDigitIn 16) length (some length)).refine fun digits =>
    let code := Text.valueIn 16 digits
    if code.isValidChar then .ok (Char.ofNat code) else .error { obstacle := some .outOfRange }

def escapeLetters : List Char :=
  ['b', 'f', 'n', 'r', 't', 'u', 'U', '\\', '"']

def escape : Reader Char
  | [] => .missed {} []
  | 'b' :: rest => .done '\x08' rest
  | 'f' :: rest => .done '\x0c' rest
  | 'n' :: rest => .done '\n' rest
  | 'r' :: rest => .done '\r' rest
  | 't' :: rest => .done '\t' rest
  | '\\' :: rest => .done '\\' rest
  | '"' :: rest => .done '"' rest
  | 'u' :: rest => ((codePoint 4).required.about .shortCode) rest
  | 'U' :: rest => ((codePoint 8).required.about .longCode) rest
  | _ :: rest =>
      .failed
        { subject := some .escapeSequence
          expected := escapeLetters.map fun c => .symbol (String.singleton c) } rest

def isBasicChar (c : Char) : Bool :=
  isLineChar c && c ≠ '"' && c ≠ '\\'

/-- The rest of a basic string. `skip` characters of it belong to an escape already read. -/
def basicBody (skip : Nat) : List Char → Outcome (List Char)
  | [] => .failed { subject := some .basicString } []
  | c :: rest =>
      match skip with
      | skip + 1 => basicBody skip rest
      | 0 =>
          if c = '"' then .done [] rest
          else if c = '\\' then
            match escape rest with
            | .done escaped behind =>
                (basicBody (rest.length - behind.length) rest).map (escaped :: ·)
            | .missed .. => .failed { subject := some .basicString } (c :: rest)
            | .failed flaw behind => .failed flaw behind
          else if isBasicChar c then (basicBody 0 rest).map (c :: ·)
          else .failed { subject := some .basicString } (c :: rest)

def basicString : Reader (List Char) := do
  let _ ← symbol '"'
  basicBody 0

/-- Up to two quotes may stand directly before the three that end a string. -/
def closing (quote : Char) (rest : List Char) : Outcome (List Char) :=
  let extra := (rest.takeWhile (· = quote)).take 2
  .done extra (rest.drop extra.length)

def opensNewline : List Char → Bool
  | '\n' :: _ | '\r' :: '\n' :: _ => true
  | _ => false

def endsInQuotes (quote : Char) (rest : List Char) : Bool :=
  rest = [] || rest = [quote]

/-- While it is `folding` at the end of a line, blanks and newlines are left out. -/
def multilineBasicBody (skip : Nat) (folding : Bool) : List Char → Outcome (List Char)
  | [] => .failed { subject := some .multilineBasicString } []
  | c :: rest =>
      match skip with
      | skip + 1 => multilineBasicBody skip folding rest
      | 0 =>
          let flaw : Flaw := { subject := some .multilineBasicString }
          if folding && (isBlank c || opensNewline (c :: rest)) then
            multilineBasicBody (if c = '\r' then 1 else 0) true rest
          else if c = '"' then
            if ['"', '"'].isPrefixOf rest then closing '"' (rest.drop 2)
            else if endsInQuotes '"' rest then .failed flaw (c :: rest)
            else (multilineBasicBody 0 false rest).map (c :: ·)
          else if c = '\\' then
            if opensNewline (rest.dropWhile isBlank) then multilineBasicBody 0 true rest
            else
              match escape rest with
              | .done escaped behind =>
                  (multilineBasicBody (rest.length - behind.length) false rest).map (escaped :: ·)
              | .missed .. => .failed flaw (c :: rest)
              | .failed flaw behind => .failed flaw behind
          else if opensNewline (c :: rest) then
            (multilineBasicBody (if c = '\r' then 1 else 0) false rest).map ('\n' :: ·)
          else if isBasicChar c then (multilineBasicBody 0 false rest).map (c :: ·)
          else .failed flaw (c :: rest)

def multilineBasicString : Reader (List Char) := do
  literal ['"', '"', '"']
  let _ ← maybe newline
  multilineBasicBody 0 false

def isLiteralChar (c : Char) : Bool :=
  isLineChar c && c ≠ '\''

def literalString : Reader (List Char) :=
  about .literalString do
    let _ ← symbol '\''
    let body ← takeWhile isLiteralChar
    let _ ← required (symbol '\'')
    return body

def opensLiteral (text : List Char) : Bool :=
  match text with
  | [] => false
  | c :: _ => isLiteralChar c || opensNewline text

def multilineLiteralBody (skip : Nat) : List Char → Outcome (List Char)
  | [] => .failed { subject := some .multilineLiteralString } []
  | c :: rest =>
      match skip with
      | skip + 1 => multilineLiteralBody skip rest
      | 0 =>
          let flaw : Flaw := { subject := some .multilineLiteralString }
          if c = '\'' then
            if ['\'', '\''].isPrefixOf rest then closing '\'' (rest.drop 2)
            else if opensLiteral rest || opensLiteral (rest.drop 1) && rest.head? = some '\'' then
              (multilineLiteralBody 0 rest).map (c :: ·)
            else .failed flaw (c :: rest)
          else if opensNewline (c :: rest) then
            (multilineLiteralBody (if c = '\r' then 1 else 0) rest).map ('\n' :: ·)
          else if isLiteralChar c then (multilineLiteralBody 0 rest).map (c :: ·)
          else .failed flaw (c :: rest)

def multilineLiteralString : Reader (List Char) := do
  literal ['\'', '\'', '\'']
  let _ ← maybe newline
  multilineLiteralBody 0

def quotedString : Reader (List Char) :=
  multilineBasicString.orElse <| basicString.orElse <|
    multilineLiteralString.orElse literalString

end CitationFile.Toml
