import CitationFile.Text.Ascii
import CitationFile.Text.Blank
import CitationFile.Text.Width

/-! Where a text names a key again. The text is looked at line by line: a line names a key if its
entry opens with the key and a colon, and two lines name the key within one mapping if their entries
are equally indented and no line between them is indented less. Indentation is counted in bytes. -/

namespace CitationFile.Document

open Text

structure Line where
  base : Nat
  indent : Nat
  entry : List Char
deriving DecidableEq, Repr

namespace Line

def isComment : List Char → Bool
  | '#' :: _ => true
  | _ => false

/-- The entry of a list item begins behind the dash. -/
def ofText? (text : List Char) : Option Line :=
  let trimmed := trimStart text
  let base := byteLength (text.takeWhile isBlank)
  if trimmed = [] ∨ isComment trimmed then none
  else
    match trimmed with
    | '-' :: ' ' :: rest =>
        some ⟨base, base + 2 + byteLength (rest.takeWhile isBlank), trimStart rest⟩
    | _ => some ⟨base, base, trimmed⟩

def spellings (key : List Char) : List (List Char) :=
  [key, '"' :: key ++ ['"'], '\'' :: key ++ ['\'']]

def spells (entry spelling : List Char) : Bool :=
  match dropOpening? spelling entry with
  | some behind => [':'].isPrefixOf (trimStart behind)
  | none => false

def names (line : Line) (key : List Char) : Bool :=
  (spellings key).any (spells line.entry)

end Line

/-- `indents` are those of the lines so far that name the key in a mapping still open, and `number`
is that of the next line. -/
def repetitionFrom? (key : List Char) (number : Nat) (indents : List Nat) :
    List (List Char) → Option (Nat × Nat)
  | [] => none
  | text :: rest =>
      match Line.ofText? text with
      | none => repetitionFrom? key (number + 1) indents rest
      | some line =>
          let inScope := indents.filter (· ≤ line.base)
          if !line.names key then repetitionFrom? key (number + 1) inScope rest
          else if line.indent ∈ inScope then some (number, line.indent + 1)
          else repetitionFrom? key (number + 1) (line.indent :: inScope) rest

/-- Line and column, counted from one, at which a mapping first names a key again. -/
def repetition? (text key : List Char) : Option (Nat × Nat) :=
  repetitionFrom? key 1 [] (text.splitOn '\n')

end CitationFile.Document
