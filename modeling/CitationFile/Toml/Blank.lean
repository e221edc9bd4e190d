import CitationFile.Toml.Reader

namespace CitationFile.Toml

def isBlank (c : Char) : Bool :=
  c = ' ' || c = '\t'

def isLineChar (c : Char) : Bool :=
  c = '\t' || (' ' ≤ c && c ≠ '\x7f')

def blanks : Reader Unit := fun text =>
  .done () (text.dropWhile isBlank)

/-- A carriage return counts only before a line feed. -/
def newline : Reader Unit
  | '\n' :: rest => .done () rest
  | '\r' :: '\n' :: rest => .done () rest
  | '\r' :: rest => .missed {} rest
  | text => .missed {} text

def lineEnd : Reader Unit
  | [] => .done () []
  | '\n' :: rest => .done () rest
  | '\r' :: '\n' :: rest => .done () rest
  | text => .missed {} text

def comment : Reader Unit := do
  let _ ← Reader.symbol '#'
  let _ ← Reader.takeWhile isLineChar
  return ()

def lineTail : Reader Unit := do
  blanks
  let _ ← comment.maybe
  lineEnd

def lineTailExpected : List Expectation :=
  [.newline, .symbol "#"]

def skipLines (inComment : Bool) : List Char → Outcome Unit
  | [] => if inComment then .missed {} [] else .done () []
  | '\n' :: rest => skipLines false rest
  | '\r' :: '\n' :: rest => skipLines false rest
  | '\r' :: rest => .missed {} rest
  | c :: rest =>
      if inComment then
        if isLineChar c then skipLines true rest else .missed {} (c :: rest)
      else if c = '#' then skipLines true rest
      else if isBlank c then skipLines false rest
      else .done () (c :: rest)

def gap : Reader Unit :=
  skipLines false

end CitationFile.Toml
