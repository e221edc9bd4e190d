import CitationFile.Text.Ascii
import CitationFile.Text.Width
import CitationFile.Toml.Reader

namespace CitationFile.Toml

open Text

structure Excerpt where
  number : Nat
  before : List Char
  behind : List Char
deriving DecidableEq, Repr

namespace Excerpt

/-- The end of a text belongs to its last line, even behind a line feed. -/
def atIndex (source : List Char) (index : Nat) : Excerpt :=
  let whole := source.take (min index (source.length - 1))
  let line := (whole.reverse.takeWhile (· ≠ '\n')).reverse
  let before := if index < source.length then line else line ++ source.drop whole.length
  { number := whole.count '\n'
    before
    behind := (source.drop index).takeWhile (· ≠ '\n') }

def content (excerpt : Excerpt) : List Char :=
  (excerpt.before ++ excerpt.behind).takeWhile (· ≠ '\n')

/-- Columns count characters; only before a character beyond ASCII they count bytes. -/
def column (excerpt : Excerpt) : Nat :=
  match excerpt.behind with
  | c :: _ => if isAscii c then excerpt.before.length else byteLength excerpt.before
  | [] => excerpt.before.length

/-- The underline stays within the line and is never empty. -/
def underline (excerpt : Excerpt) (width : Nat) : Nat :=
  max 1 (min width (byteLength excerpt.content - excerpt.column))

def text (excerpt : Excerpt) (width : Nat) (message : String) : String :=
  let number := (excerpt.number + 1).repr
  let margin := "".pushn ' ' (number.length + 1) ++ "|"
  "TOML parse error at line " ++ number ++ ", column " ++ (excerpt.column + 1).repr ++ "\n" ++
    margin ++ "\n" ++
    number ++ " | " ++ String.ofList excerpt.content ++ "\n" ++
    margin ++ "".pushn ' ' (excerpt.column + 1) ++ "".pushn '^' (excerpt.underline width) ++ "\n" ++
    message ++ "\n"

end Excerpt

def messageAt (source : List Char) (span : Span) (message : String) : String :=
  let index := source.length - span.start
  let marked := (source.drop index).take (span.start - span.stop)
  (Excerpt.atIndex source index).text (byteLength marked) message

end CitationFile.Toml
