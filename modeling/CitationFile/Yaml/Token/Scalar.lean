import CitationFile.Text.Radix
import CitationFile.Yaml.Token

namespace CitationFile.Yaml

/-- Blanks before the first line break, and the line breaks. A gap behind an escaped line break is
joined: its blanks do not count, and its line breaks all stay. -/
structure Gap where
  blanks : List Char := []
  breaks : List Char := []
  joined : Bool := false
deriving DecidableEq, Repr

namespace Gap

def spansLines (gap : Gap) : Bool :=
  gap.joined || gap.breaks ≠ []

/-- A single line break becomes a space, and of several the first one drops out. -/
def fold (gap : Gap) : List Char :=
  if gap.joined then gap.breaks
  else match gap.breaks with
    | [] => gap.blanks
    | ['\n'] => [' ']
    | '\n' :: more => more
    | breaks => breaks

end Gap

/-- Reads a gap. A tab behind a line break and left of the indentation is refused. -/
def readGap (indent : Nat) (tabsIndent : Bool) : Nat → Gap → Cursor → Except Cursor (Gap × Cursor)
  | 0, gap, cursor => .ok (gap, cursor)
  | fuel + 1, gap, cursor =>
      match cursor.peek? with
      | none => .ok (gap, cursor)
      | some c =>
          if isSpace c then
            if !gap.spansLines then
              readGap indent tabsIndent fuel { gap with blanks := gap.blanks ++ [c] } cursor.skip
            else if c = '\t' ∧ !tabsIndent ∧ cursor.mark.column < indent then .error cursor
            else readGap indent tabsIndent fuel gap cursor.skip
          else if isBreak c then
            readGap indent tabsIndent fuel { gap with breaks := gap.breaks ++ [breakChar c] }
              cursor.skipBreak
          else .ok (gap, cursor)

/-- What a scalar is read into. `breaksLine` tells whether the text behind it starts a line. -/
structure ScalarReading where
  text : List Char
  finish : Mark
  cursor : Cursor
  breaksLine : Bool := false

def isFlowIndicator (c : Char) : Bool :=
  c = ',' || c = '[' || c = ']' || c = '{' || c = '}'

/-- A colon ends a plain scalar before a gap, and a flow indicator ends it inside a collection. -/
def endsPlain (inFlow : Bool) (cursor : Cursor) : Bool :=
  (cursor.isAt ':' && isGapOrEnd (cursor.ahead? 1)) ||
    (inFlow && cursor.peek?.any isFlowIndicator)

def isStrayColon (inFlow : Bool) (cursor : Cursor) : Bool :=
  inFlow && cursor.isAt ':' && (cursor.ahead? 1).any fun c => isFlowIndicator c || c = '?'

def plainWord (inFlow : Bool) : Nat → List Char → Cursor → Except Cursor (List Char × Cursor)
  | 0, word, cursor => .ok (word, cursor)
  | fuel + 1, word, cursor =>
      match cursor.peek? with
      | none => .ok (word, cursor)
      | some c =>
          if isGap c then .ok (word, cursor)
          else if isStrayColon inFlow cursor then .error cursor
          else if endsPlain inFlow cursor then .ok (word, cursor)
          else plainWord inFlow fuel (word ++ [c]) cursor.skip

/-- Words and gaps by turns. `gap` is the one behind `text`, which counts only if a word follows. -/
def plainWords (inFlow : Bool) (indent : Nat) (start : Mark) :
    Nat → List Char → Gap → Mark → Cursor → Except Malformed ScalarReading
  | 0, text, gap, finish, cursor => .ok ⟨text, finish, cursor, gap.spansLines⟩
  | fuel + 1, text, gap, finish, cursor => do
      cursor.decode 4
      if cursor.isAtDocumentBoundary || cursor.isAt '#' then
        return ⟨text, finish, cursor, gap.spansLines⟩
      else
        match plainWord inFlow cursor.rest.length [] cursor with
        | .error place =>
            place.decode 2
            Malformed.during .plainScalarColon place.mark .plainScalar start
        | .ok (word, behind) =>
            behind.decode (if word = [] then 1 else 2)
            let whole := if word = [] then text else text ++ gap.fold ++ word
            let pending := if word = [] then gap else {}
            let finish := if word = [] then finish else behind.mark
            if !behind.peek?.any isGap then return ⟨whole, finish, behind, pending.spansLines⟩
            else
              match readGap indent false behind.rest.length {} behind with
              | .error place =>
                  place.decode 1
                  Malformed.during .plainScalarTab place.mark .plainScalar start
              | .ok (next, after) =>
                  after.decode 1
                  if !inFlow ∧ after.mark.column < indent then
                    return ⟨whole, finish, after, next.spansLines⟩
                  else plainWords inFlow indent start fuel whole next finish after

def plainScalar (inFlow : Bool) (indent : Nat) (cursor : Cursor) :
    Except Malformed ScalarReading :=
  plainWords inFlow indent cursor.mark (cursor.rest.length + 1) [] {} cursor.mark cursor

/-! Quoted scalars are words and gaps by turns, as plain ones are, with escapes in their words. -/

def simpleEscape? (c : Char) : Option Char :=
  match c with
  | '0' => some '\x00'
  | 'a' => some '\x07'
  | 'b' => some '\x08'
  | 't' => some '\t'
  | '\t' => some '\t'
  | 'n' => some '\n'
  | 'v' => some '\x0b'
  | 'f' => some '\x0c'
  | 'r' => some '\r'
  | 'e' => some '\x1b'
  | ' ' => some ' '
  | '"' => some '"'
  | '/' => some '/'
  | '\\' => some '\\'
  | 'N' => some '\u0085'
  | '_' => some '\u00a0'
  | 'L' => some '\u2028'
  | 'P' => some '\u2029'
  | _ => none

def escapeLength? (c : Char) : Option Nat :=
  match c with
  | 'x' => some 2
  | 'u' => some 4
  | 'U' => some 8
  | _ => none

def hexNumber? (digits : List Char) (length : Nat) : Option Nat :=
  if digits.length = length then Text.numberIn? 16 digits else none

def scalarChar? (code : Nat) : Option Char :=
  if h : code.isValidChar then some (Char.ofNatAux code h) else none

def readEscape (start : Mark) (cursor : Cursor) : Except Malformed (Char × Cursor) := do
  cursor.decode 2
  match (cursor.ahead? 1).bind simpleEscape?, (cursor.ahead? 1).bind escapeLength? with
  | some c, _ => return (c, cursor.skip 2)
  | none, some length =>
      let digits := cursor.skip 2
      digits.decode length
      match hexNumber? (digits.rest.take length) length with
      | none => Malformed.during .hexadecimalNumber digits.mark .escape start
      | some code =>
          match scalarChar? code with
          | some c => return (c, digits.skip length)
          | none => Malformed.during .escapeCode digits.mark .escape start
  | none, none => Malformed.during .escapeCharacter cursor.mark .escape start

/-- A word ends at a gap, at the closing quote, or behind an escaped line break. -/
structure QuotedWord where
  text : List Char
  joins : Bool
  cursor : Cursor

def quotedWord (quote : Char) (start : Mark) :
    Nat → List Char → Cursor → Except Malformed QuotedWord
  | 0, word, cursor => .ok ⟨word, false, cursor⟩
  | fuel + 1, word, cursor =>
      match cursor.peek? with
      | none => .ok ⟨word, false, cursor⟩
      | some c =>
          if isGap c then .ok ⟨word, false, cursor⟩
          else if quote = '\'' ∧ c = '\'' ∧ cursor.ahead? 1 = some '\'' then
            quotedWord quote start fuel (word ++ ['\'']) (cursor.skip 2)
          else if c = quote then .ok ⟨word, false, cursor⟩
          else if quote = '"' ∧ c = '\\' then
            if (cursor.ahead? 1).any isBreak then .ok ⟨word, true, cursor.skip.skipBreak⟩
            else
              match readEscape start cursor with
              | .error flaw => .error flaw
              | .ok (escaped, behind) => quotedWord quote start fuel (word ++ [escaped]) behind
          else quotedWord quote start fuel (word ++ [c]) cursor.skip

def quotedWords (quote : Char) (start : Mark) :
    Nat → List Char → Cursor → Except Malformed ScalarReading
  | 0, text, cursor => .ok ⟨text, cursor.mark, cursor, false⟩
  | fuel + 1, text, cursor => do
      cursor.decode 4
      if cursor.isAtDocumentBoundary then
        Malformed.during .documentIndicator cursor.mark .quotedScalar start
      else if cursor.peek? = none then
        Malformed.during .endOfStream cursor.mark .quotedScalar start
      else
        let word ← quotedWord quote start cursor.rest.length [] cursor
        word.cursor.decode (if word.text = [] || word.joins then 1 else 2)
        if word.cursor.isAt quote then
          let behind := word.cursor.skip
          return ⟨text ++ word.text, behind.mark, behind, false⟩
        else
          match readGap 0 true word.cursor.rest.length { joined := word.joins } word.cursor with
          | .error place => return ⟨text, place.mark, place, false⟩
          | .ok (gap, behind) =>
              quotedWords quote start fuel (text ++ word.text ++ gap.fold) behind

def quotedScalar (quote : Char) (cursor : Cursor) : Except Malformed ScalarReading :=
  quotedWords quote cursor.mark (cursor.rest.length + 1) [] cursor.skip

/-! Block scalars are read line by line, once their header tells how to join and end them. -/

inductive Chomping where
  | strip | clip | keep
deriving DecidableEq, Repr

def chomping? (c : Char) : Option Chomping :=
  if c = '+' then some .keep else if c = '-' then some .strip else none

structure BlockHeader where
  chomping : Chomping := .clip
  increment : Option Nat := none

def readIncrement (start : Mark) (header : BlockHeader) (cursor : Cursor) :
    Except Malformed (BlockHeader × Cursor) := do
  cursor.decode 1
  match cursor.peek? with
  | some c =>
      if c = '0' then Malformed.during .zeroIndentation cursor.mark .blockScalar start
      else if c.isDigit then
        return ({ header with increment := some (c.toNat - '0'.toNat) }, cursor.skip)
      else return (header, cursor)
  | none => return (header, cursor)

def readChomping (header : BlockHeader) (cursor : Cursor) : BlockHeader × Cursor :=
  match cursor.peek?.bind chomping? with
  | some chomping => ({ header with chomping }, cursor.skip)
  | none => (header, cursor)

/-- The two marks come in either order. -/
def readBlockHeader (start : Mark) (cursor : Cursor) : Except Malformed (BlockHeader × Cursor) := do
  let (first, behindChomping) := readChomping {} cursor
  let (second, behindIncrement) ← readIncrement start first behindChomping
  let (header, behind) :=
    if first.chomping = .clip ∧ second.increment.isSome then readChomping second behindIncrement
    else (second, behindIncrement)
  let ending := behind.skipSpaces.skipComment
  ending.decode 1
  if !isBreakOrEnd ending.peek? then
    Malformed.during .commentOrBreakMissing ending.mark .blockScalar start
  else return (header, ending.skipBreak)

/-- Empty lines before the next line with text, the deepest column they reach, and where the last of
them ends. -/
structure EmptyLines where
  breaks : List Char := []
  deepest : Nat := 0
  finish : Mark
  cursor : Cursor

def isLeftOf (indent : Option Nat) (column : Nat) : Bool :=
  match indent with
  | none => true
  | some depth => column < depth

def skipIndentation (indent : Option Nat) : Nat → Cursor → Cursor
  | 0, cursor => cursor
  | fuel + 1, cursor =>
      if cursor.isAt ' ' && isLeftOf indent cursor.mark.column then
        skipIndentation indent fuel cursor.skip
      else cursor

def readEmptyLines (indent : Option Nat) (start : Mark) :
    Nat → EmptyLines → Except Malformed EmptyLines
  | 0, lines => .ok lines
  | fuel + 1, lines => do
      let cursor := skipIndentation indent lines.cursor.rest.length lines.cursor
      cursor.decode 1
      let deepest := max lines.deepest cursor.mark.column
      if cursor.isAt '\t' && isLeftOf indent cursor.mark.column then
        Malformed.during .blockScalarTab cursor.mark .blockScalar start
      else
        match cursor.peek? with
        | some c =>
            if isBreak c then
              let behind := cursor.skipBreak
              readEmptyLines indent start fuel
                ⟨lines.breaks ++ [breakChar c], deepest, behind.mark, behind⟩
            else return { lines with deepest, cursor }
        | none => return { lines with deepest, cursor }

/-- The lines of a block scalar so far: their text, the break behind the last of them, the empty
lines behind that break, and whether the last line started with a blank. -/
structure BlockLines where
  text : List Char := []
  lastBreak : List Char := []
  empty : List Char := []
  startsBlank : Bool := false
  finish : Mark
  cursor : Cursor

/-- How the next line is joined: a folded scalar turns a single break between lines of text into a
space. -/
def BlockLines.joined (lines : BlockLines) (folds nextStartsBlank : Bool) : List Char :=
  if folds && lines.lastBreak = ['\n'] && !lines.startsBlank && !nextStartsBlank then
    if lines.empty = [] then lines.text ++ [' '] else lines.text ++ lines.empty
  else lines.text ++ lines.lastBreak ++ lines.empty

def readBlockLines (folds : Bool) (indent : Nat) (start : Mark) :
    Nat → BlockLines → Except Malformed BlockLines
  | 0, lines => .ok lines
  | fuel + 1, lines =>
      match lines.cursor.peek? with
      | none => .ok lines
      | some c =>
          if lines.cursor.mark.column ≠ indent then .ok lines
          else
            let (line, ending) := lines.cursor.takeWhile (!isBreak ·)
            let behind := ending.skipBreak
            let empty : EmptyLines := { finish := behind.mark, cursor := behind }
            match readEmptyLines (some indent) start (behind.rest.length + 1) empty with
            | .error flaw => .error flaw
            | .ok next =>
                readBlockLines folds indent start fuel
                  { text := lines.joined folds (isSpace c) ++ line
                    lastBreak := (ending.peek?.map breakChar).toList
                    empty := next.breaks
                    startsBlank := isSpace c
                    finish := next.finish
                    cursor := next.cursor }

def BlockLines.chomped (lines : BlockLines) : Chomping → List Char
  | .strip => lines.text
  | .clip => lines.text ++ lines.lastBreak
  | .keep => lines.text ++ lines.lastBreak ++ lines.empty

/-- `parent` is the indentation of the block around the scalar, or -1. Without a written indentation
the deepest of the leading lines counts, but the scalar lies at least one column deeper than its
parent. -/
def blockScalar (folds : Bool) (parent : Int) (cursor : Cursor) :
    Except Malformed ScalarReading := do
  let start := cursor.mark
  let (header, body) ← readBlockHeader start cursor.skip
  let written := header.increment.map fun increment => (max parent 0).toNat + increment
  let leading ← readEmptyLines written start (body.rest.length + 1)
    { finish := body.mark, cursor := body }
  let indent := written.getD (max leading.deepest (max (parent + 1) 1).toNat)
  let lines ← readBlockLines folds indent start (leading.cursor.rest.length + 1)
    { empty := leading.breaks, finish := leading.finish, cursor := leading.cursor }
  return ⟨lines.chomped header.chomping, lines.finish, lines.cursor, true⟩

end CitationFile.Yaml
