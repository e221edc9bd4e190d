/-! Places in a text. A mark counts characters, lines and columns from zero; a cursor is a mark
together with the text that follows it. A carriage return with a line feed is one line break of two
characters. -/

namespace CitationFile.Yaml

structure Mark where
  index : Nat := 0
  line : Nat := 0
  column : Nat := 0
deriving DecidableEq, Repr

namespace Mark

def isStart (mark : Mark) : Bool :=
  mark.line = 0 && mark.column = 0

def text (mark : Mark) : String :=
  "line " ++ (mark.line + 1).repr ++ " column " ++ (mark.column + 1).repr

def advance (mark : Mark) (count : Nat) : Mark :=
  { mark with index := mark.index + count, column := mark.column + count }

def newLine (mark : Mark) (count : Nat) : Mark :=
  ⟨mark.index + count, mark.line + 1, 0⟩

end Mark

def isSpace (c : Char) : Bool :=
  c = ' ' || c = '\t'

def isBreak (c : Char) : Bool :=
  c = '\n' || c = '\r' || c = '\u0085' || c = '\u2028' || c = '\u2029'

def isGap (c : Char) : Bool :=
  isSpace c || isBreak c

def isNameChar (c : Char) : Bool :=
  c.isAlphanum || c = '_' || c = '-'

def isGapOrEnd : Option Char → Bool
  | some c => isGap c
  | none => true

def isBreakOrEnd : Option Char → Bool
  | some c => isBreak c
  | none => true

def breakChar (c : Char) : Char :=
  if c = '\u2028' || c = '\u2029' then c else '\n'

/-- A character that a text may not hold. It is met as soon as the portion around it is decoded,
whose first character has the index `portion`. -/
structure Obstacle where
  offset : Nat
  portion : Nat
deriving DecidableEq, Repr

structure Cursor where
  rest : List Char
  mark : Mark := {}
  obstacle : Option Obstacle := none
deriving DecidableEq, Repr

namespace Cursor

def peek? (cursor : Cursor) : Option Char :=
  cursor.rest.head?

def ahead? (cursor : Cursor) (count : Nat) : Option Char :=
  cursor.rest[count]?

def isAt (cursor : Cursor) (c : Char) : Bool :=
  cursor.peek? = some c

def skip (cursor : Cursor) (count : Nat := 1) : Cursor :=
  { cursor with rest := cursor.rest.drop count, mark := cursor.mark.advance count }

def skipBreak (cursor : Cursor) : Cursor :=
  match cursor.rest with
  | '\r' :: '\n' :: rest => { cursor with rest, mark := cursor.mark.newLine 2 }
  | _ :: rest => { cursor with rest, mark := cursor.mark.newLine 1 }
  | [] => cursor

/-- The characters of a class that come next, and the cursor behind them. The class must not hold
line breaks. -/
def takeWhile (cursor : Cursor) (belongs : Char → Bool) : List Char × Cursor :=
  let taken := cursor.rest.takeWhile belongs
  (taken, cursor.skip taken.length)

def skipWhile (cursor : Cursor) (belongs : Char → Bool) : Cursor :=
  (cursor.takeWhile belongs).2

def skipSpaces (cursor : Cursor) : Cursor :=
  cursor.skipWhile isSpace

def skipComment (cursor : Cursor) : Cursor :=
  if cursor.isAt '#' then cursor.skipWhile (!isBreak ·) else cursor

/-- Three equal marks at the start of a line, followed by a gap, part documents from each other. -/
def isAtDocumentMark (cursor : Cursor) (c : Char) : Bool :=
  cursor.mark.column = 0 && [c, c, c].isPrefixOf cursor.rest && isGapOrEnd (cursor.ahead? 3)

def isAtDocumentBoundary (cursor : Cursor) : Bool :=
  cursor.isAtDocumentMark '-' || cursor.isAtDocumentMark '.'

end Cursor

end CitationFile.Yaml
