namespace CitationFile.Toml

inductive Subject where
  | key
  | tableHeader
  | array
  | inlineTable
  | string
  | basicString
  | multilineBasicString
  | literalString
  | multilineLiteralString
  | escapeSequence
  | shortCode
  | longCode
  | integer
  | hexadecimalInteger
  | octalInteger
  | binaryInteger
  | float
  | dateTime
  | time
  | timeOffset
deriving DecidableEq, Repr

def Subject.text : Subject → String
  | key => "key"
  | tableHeader => "table header"
  | array => "array"
  | inlineTable => "inline table"
  | string => "string"
  | basicString => "basic string"
  | multilineBasicString => "multiline basic string"
  | literalString => "literal string"
  | multilineLiteralString => "multiline literal string"
  | escapeSequence => "escape sequence"
  | shortCode => "unicode 4-digit hex code"
  | longCode => "unicode 8-digit hex code"
  | integer => "integer"
  | hexadecimalInteger => "hexadecimal integer"
  | octalInteger => "octal integer"
  | binaryInteger => "binary integer"
  | float => "floating-point number"
  | dateTime => "date-time"
  | time => "time"
  | timeOffset => "time offset"

inductive Expectation where
  | newline
  | symbol (text : String)
  | digit
  | leadingDigit
deriving DecidableEq, Repr

def Expectation.text : Expectation → String
  | newline => "newline"
  | symbol text => "`" ++ text ++ "`"
  | digit => "digit"
  | leadingDigit => "leading digit"

inductive Obstacle where
  /-- The path leads to the table that has the key already, if this is told. -/
  | duplicateKey (key : String) (path? : Option (List String))
  | notTable (path : List String) (kind : String)
  | outOfRange
  | tooLarge
  | tooSmall
  | tooDeep
deriving DecidableEq, Repr

def Obstacle.text : Obstacle → String
  | duplicateKey key none => "duplicate key `" ++ key ++ "`"
  | duplicateKey key (some []) => "duplicate key `" ++ key ++ "` in document root"
  | duplicateKey key (some path) =>
      "duplicate key `" ++ key ++ "` in table `" ++ ".".intercalate path ++ "`"
  | notTable path kind =>
      "dotted key `" ++ ".".intercalate path ++ "` attempted to extend non-table type (" ++ kind ++
        ")"
  | outOfRange => "value is out of range"
  | tooLarge => "number too large to fit in target type"
  | tooSmall => "number too small to fit in target type"
  | tooDeep => "recursion limit exceeded"

structure Flaw where
  subject : Option Subject := none
  expected : List Expectation := []
  obstacle : Option Obstacle := none
deriving DecidableEq, Repr

namespace Flaw

/-- The narrowest subject is the one that is told. -/
def about (flaw : Flaw) (subject : Subject) : Flaw :=
  { flaw with subject := flaw.subject <|> some subject }

def expecting (flaw : Flaw) (expectations : List Expectation) : Flaw :=
  { flaw with expected := flaw.expected ++ expectations }

def lines (flaw : Flaw) : List String :=
  (flaw.subject.map ("invalid " ++ ·.text)).toList ++
    (if flaw.expected = [] then []
      else ["expected " ++ ", ".intercalate (flaw.expected.map Expectation.text)]) ++
    (flaw.obstacle.map Obstacle.text).toList

def text (flaw : Flaw) : String :=
  "\n".intercalate flaw.lines

end Flaw

end CitationFile.Toml
