import CitationFile.Yaml.Token.Scalar
import CitationFile.Yaml.Token.Tag

/-! The tokens of a text. A token that may turn out to be a key is held back until a colon follows
on its line or cannot follow any more; only then is it known whether a mapping begins before it.
Tokens are numbered in the order in which they are released. -/

namespace CitationFile.Yaml

/-- A place where a key without a question mark may have begun. A required key stands at the
indentation of its block, where nothing else may stand. -/
structure KeyCandidate where
  tokenNumber : Nat
  mark : Mark
  required : Bool
deriving DecidableEq, Repr

structure Tokenizer where
  cursor : Cursor
  /-- Tokens held back, behind `releasedCount` others. -/
  held : List Token := []
  releasedCount : Nat := 0
  /-- The current indentation, and those of the blocks around. -/
  indent : Int := -1
  outerIndents : List Int := []
  keyAllowed : Bool := true
  /-- The candidate of the block context or innermost collection, and those around it. -/
  candidate : Option KeyCandidate := none
  outerCandidates : List (Option KeyCandidate) := []
  ended : Bool := false

namespace Tokenizer

def inFlow (t : Tokenizer) : Bool :=
  t.outerCandidates ≠ []

def column (t : Tokenizer) : Int :=
  t.cursor.mark.column

def nextNumber (t : Tokenizer) : Nat :=
  t.releasedCount + t.held.length

def append (t : Tokenizer) (token : Token) : Tokenizer :=
  { t with held := t.held ++ [token] }

def insert (t : Tokenizer) (number : Nat) (token : Token) : Tokenizer :=
  { t with held := t.held.insertIdx (number - t.releasedCount) token }

def appendMark (t : Tokenizer) (kind : Token.Kind) (length : Nat) : Tokenizer :=
  let behind := t.cursor.skip length
  { t.append ⟨kind, t.cursor.mark, behind.mark⟩ with cursor := behind }

def openBlock (t : Tokenizer) (column : Nat) (number : Nat) (kind : Token.Kind) (mark : Mark) :
    Tokenizer :=
  if !t.inFlow && t.indent < (column : Int) then
    { t.insert number ⟨kind, mark, mark⟩ with
      indent := column, outerIndents := t.indent :: t.outerIndents }
  else t

def closeDeeper (column : Int) (indent : Int) : List Int → Int × List Int × Nat
  | [] => (indent, [], 0)
  | outer :: rest =>
      if column < indent then
        let (left, outers, count) := closeDeeper column outer rest
        (left, outers, count + 1)
      else (indent, outer :: rest, 0)

def closeBlocks (t : Tokenizer) (column : Int) : Tokenizer :=
  if t.inFlow then t
  else
    let (indent, outerIndents, count) := closeDeeper column t.indent t.outerIndents
    let ending : Token := ⟨.blockEnd, t.cursor.mark, t.cursor.mark⟩
    { t with indent, outerIndents, held := t.held ++ List.replicate count ending }

def missingColon (t : Tokenizer) (candidate : KeyCandidate) : Except Malformed α :=
  Malformed.during .simpleKeyColon t.cursor.mark .simpleKey candidate.mark

def dropCandidate (t : Tokenizer) : Except Malformed Tokenizer :=
  match t.candidate with
  | some candidate =>
      if candidate.required then t.missingColon candidate else .ok { t with candidate := none }
  | none => .ok t

def saveCandidate (t : Tokenizer) : Except Malformed Tokenizer :=
  let here : KeyCandidate := ⟨t.nextNumber, t.cursor.mark, !t.inFlow && t.indent = t.column⟩
  if t.keyAllowed then (t.dropCandidate).map fun t => { t with candidate := some here }
  else .ok t

def longestKey : Nat := 1024

/-- A key ends on the line where it began, within a certain length. -/
def isStale (t : Tokenizer) (candidate : KeyCandidate) : Bool :=
  candidate.mark.line < t.cursor.mark.line ||
    candidate.mark.index + longestKey < t.cursor.mark.index

def refresh (t : Tokenizer) : Option KeyCandidate → Except Malformed (Option KeyCandidate)
  | none => .ok none
  | some candidate =>
      if t.isStale candidate then
        if candidate.required then t.missingColon candidate else .ok none
      else .ok (some candidate)

/-- Drops all candidates that are stale, the outermost first. -/
def dropStale (t : Tokenizer) : Except Malformed Tokenizer := do
  let outer ← t.outerCandidates.reverse.mapM t.refresh
  let candidate ← t.refresh t.candidate
  return { t with candidate, outerCandidates := outer.reverse }

/-- Tabs may not stand where a key may begin. -/
def isGapHere (t : Tokenizer) (c : Char) : Bool :=
  c = ' ' || (c = '\t' && (t.inFlow || !t.keyAllowed))

def skipGaps : Nat → Tokenizer → Tokenizer
  | 0, t => t
  | fuel + 1, t =>
      let start := if t.cursor.mark.index = 0 && t.cursor.isAt '\ufeff' then t.cursor.skip
        else t.cursor
      let cursor := (start.skipWhile t.isGapHere).skipComment
      if cursor.peek?.any isBreak then
        skipGaps fuel { t with cursor := cursor.skipBreak, keyAllowed := t.keyAllowed || !t.inFlow }
      else { t with cursor }

def takeEnd (t : Tokenizer) : Except Malformed Tokenizer := do
  let mark := t.cursor.mark
  let ending : Mark := if mark.column = 0 then mark else mark.newLine 0
  let t := { t with cursor := { t.cursor with mark := ending } }
  let t ← (t.closeBlocks (-1)).dropCandidate
  return { t.append ⟨.streamEnd, ending, ending⟩ with keyAllowed := false, ended := true }

def takeDirective (t : Tokenizer) : Except Malformed Tokenizer := do
  let t ← (t.closeBlocks (-1)).dropCandidate
  let (token, behind) ← readDirective t.cursor
  return { t.append token with cursor := behind, keyAllowed := false }

def takeDocumentMark (t : Tokenizer) (kind : Token.Kind) : Except Malformed Tokenizer := do
  let t ← (t.closeBlocks (-1)).dropCandidate
  return { t.appendMark kind 3 with keyAllowed := false }

def takeCollectionStart (t : Tokenizer) (kind : Token.Kind) : Except Malformed Tokenizer := do
  let t ← t.saveCandidate
  return { t.appendMark kind 1 with
    keyAllowed := true, candidate := none, outerCandidates := t.candidate :: t.outerCandidates }

def takeCollectionEnd (t : Tokenizer) (kind : Token.Kind) : Except Malformed Tokenizer := do
  let t ← t.dropCandidate
  let ended := { t.appendMark kind 1 with keyAllowed := false }
  match t.outerCandidates with
  | [] => return ended
  | candidate :: outerCandidates => return { ended with candidate, outerCandidates }

def takeFlowEntry (t : Tokenizer) : Except Malformed Tokenizer := do
  let t ← t.dropCandidate
  return { t.appendMark .flowEntry 1 with keyAllowed := true }

def takeBlockEntry (t : Tokenizer) : Except Malformed Tokenizer := do
  if !t.inFlow && !t.keyAllowed then throw (.defect .blockEntryPlace t.cursor.mark none)
  let opened := t.openBlock t.cursor.mark.column t.nextNumber .blockSequenceStart t.cursor.mark
  let t ← opened.dropCandidate
  return { t.appendMark .blockEntry 1 with keyAllowed := true }

def takeKey (t : Tokenizer) : Except Malformed Tokenizer := do
  if !t.inFlow && !t.keyAllowed then throw (.defect .keyPlace t.cursor.mark none)
  let opened := t.openBlock t.cursor.mark.column t.nextNumber .blockMappingStart t.cursor.mark
  let t ← opened.dropCandidate
  return { t.appendMark .key 1 with keyAllowed := !t.inFlow }

/-- A colon makes a key of the candidate, if there is one. -/
def takeValue (t : Tokenizer) : Except Malformed Tokenizer :=
  match t.candidate with
  | some key =>
      let keyed := t.insert key.tokenNumber ⟨.key, key.mark, key.mark⟩
      let opened := keyed.openBlock key.mark.column key.tokenNumber .blockMappingStart key.mark
      .ok { opened.appendMark .value 1 with candidate := none, keyAllowed := false }
  | none =>
      if !t.inFlow && !t.keyAllowed then .error (.defect .valuePlace t.cursor.mark none)
      else
        let opened := t.openBlock t.cursor.mark.column t.nextNumber .blockMappingStart t.cursor.mark
        .ok { opened.appendMark .value 1 with keyAllowed := !t.inFlow }

def takeName (t : Tokenizer) (activity : Activity) (kind : List Char → Token.Kind) :
    Except Malformed Tokenizer := do
  let t ← t.saveCandidate
  let (name, behind) ← readName activity t.cursor
  return { t.append ⟨kind name, t.cursor.mark, behind.mark⟩ with
    cursor := behind, keyAllowed := false }

def takeTag (t : Tokenizer) : Except Malformed Tokenizer := do
  let t ← t.saveCandidate
  let (kind, behind) ← readTag t.inFlow t.cursor
  return { t.append ⟨kind, t.cursor.mark, behind.mark⟩ with cursor := behind, keyAllowed := false }

def takeBlockScalar (t : Tokenizer) (style : ScalarStyle) : Except Malformed Tokenizer := do
  let t ← t.dropCandidate
  let scalar ← blockScalar (style = .folded) t.indent t.cursor
  return { t.append ⟨.scalar scalar.text style, t.cursor.mark, scalar.finish⟩ with
    cursor := scalar.cursor, keyAllowed := true }

def takeQuotedScalar (t : Tokenizer) (quote : Char) (style : ScalarStyle) :
    Except Malformed Tokenizer := do
  let t ← t.saveCandidate
  let scalar ← quotedScalar quote t.cursor
  return { t.append ⟨.scalar scalar.text style, t.cursor.mark, scalar.finish⟩ with
    cursor := scalar.cursor, keyAllowed := false }

def takePlainScalar (t : Tokenizer) : Except Malformed Tokenizer := do
  let t ← t.saveCandidate
  let scalar ← plainScalar t.inFlow (t.indent + 1).toNat t.cursor
  return { t.append ⟨.scalar scalar.text .plain, t.cursor.mark, scalar.finish⟩ with
    cursor := scalar.cursor, keyAllowed := scalar.breaksLine }

def isIndicator (c : Char) : Bool :=
  "-?:,[]{}#&*!|>'\"%@`".toList.contains c

/-- Some indicators may open a plain scalar if no gap follows them. -/
def startsPlain (t : Tokenizer) (c : Char) : Bool :=
  let next := t.cursor.ahead? 1
  !(isGap c || isIndicator c) || (c = '-' && !next.any isSpace) ||
    (!t.inFlow && (c = '?' || c = ':') && !isGapOrEnd next)

def takeToken (t : Tokenizer) : Except Malformed Tokenizer :=
  let cursor := t.cursor
  let opensEntry := isGapOrEnd (cursor.ahead? 1)
  match cursor.peek? with
  | none => t.takeEnd
  | some c =>
      if cursor.mark.column = 0 ∧ c = '%' then t.takeDirective
      else if cursor.isAtDocumentMark '-' then t.takeDocumentMark .documentStart
      else if cursor.isAtDocumentMark '.' then t.takeDocumentMark .documentEnd
      else if c = '[' then t.takeCollectionStart .flowSequenceStart
      else if c = '{' then t.takeCollectionStart .flowMappingStart
      else if c = ']' then t.takeCollectionEnd .flowSequenceEnd
      else if c = '}' then t.takeCollectionEnd .flowMappingEnd
      else if c = ',' then t.takeFlowEntry
      else if c = '-' ∧ opensEntry then t.takeBlockEntry
      else if c = '?' ∧ (t.inFlow ∨ opensEntry) then t.takeKey
      else if c = ':' ∧ (t.inFlow ∨ opensEntry) then t.takeValue
      else if c = '*' then t.takeName .aliasName .aliasName
      else if c = '&' then t.takeName .anchorName .anchorName
      else if c = '!' then t.takeTag
      else if c = '|' ∧ !t.inFlow then t.takeBlockScalar .literal
      else if c = '>' ∧ !t.inFlow then t.takeBlockScalar .folded
      else if c = '\'' then t.takeQuotedScalar '\'' .singleQuoted
      else if c = '"' then t.takeQuotedScalar '"' .doubleQuoted
      else if t.startsPlain c then t.takePlainScalar
      else Malformed.during .tokenStart cursor.mark .nextToken cursor.mark

def takeNext (t : Tokenizer) : Except Malformed Tokenizer := do
  let t := skipGaps (t.cursor.rest.length + 1) t
  t.cursor.decode 1
  let t ← t.dropStale
  t.cursor.decode 4
  let t ← (t.closeBlocks t.column).takeToken
  t.dropStale

/-! Tokens are released up to the first one that may still turn out to be a key. -/

/-- Tokens before the first that may still turn out to be a key. -/
def releasable (t : Tokenizer) : Nat :=
  let numbers := (t.candidate :: t.outerCandidates).filterMap fun candidate =>
    candidate.map (·.tokenNumber)
  match numbers.min? with
  | some number => number - t.releasedCount
  | none => t.held.length

def released (t : Tokenizer) : List Token × Tokenizer :=
  let count := t.releasable
  (t.held.take count,
    { t with held := t.held.drop count, releasedCount := t.releasedCount + count })

def run : Nat → Tokenizer → Reading Token
  | 0, t => ⟨t.held, none⟩
  | fuel + 1, t =>
      match t.takeNext with
      | .error flaw => ⟨[], some flaw⟩
      | .ok next =>
          let (tokens, next) := next.released
          if next.ended then ⟨tokens ++ next.held, none⟩
          else
            let reading := run fuel next
            ⟨tokens ++ reading.items, reading.failure⟩

end Tokenizer

def isAllowed (c : Char) : Bool :=
  let code := c.toNat
  code = 0x09 || code = 0x0A || code = 0x0D || (0x20 ≤ code && code ≤ 0x7E) || code = 0x85 ||
    (0xA0 ≤ code && code ≤ 0xFFFD) || 0x10000 ≤ code

/-- A text is decoded in portions of at most so many bytes, each of whole characters. -/
def portionBytes : Nat := 16384

/-- The first character that is not allowed. The counts tell how many characters and bytes are
behind, where the current portion starts, and how many bytes it has. -/
def obstacleFrom? (index offset portion filled : Nat) : List Char → Option Obstacle
  | [] => none
  | c :: rest =>
      let size := c.utf8Size
      let fits := filled + size ≤ portionBytes
      let portion := if fits then portion else index
      if isAllowed c then
        let filled := if fits then filled + size else size
        obstacleFrom? (index + 1) (offset + size) portion filled rest
      else some ⟨offset, portion⟩

/-- The tokens of a text; each but the last takes at least one character. -/
def Token.ofText (text : List Char) : Reading Token :=
  let start : Token := ⟨.streamStart, {}, {}⟩
  let cursor : Cursor := { rest := text, obstacle := obstacleFrom? 0 0 0 0 text }
  -- With the numeral in front, the run over a text that is not known does not unfold.
  let reading := Tokenizer.run (2 + text.length) { cursor, releasedCount := 1 }
  ⟨start :: reading.items, reading.failure⟩

end CitationFile.Yaml
