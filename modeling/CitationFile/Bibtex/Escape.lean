/-! Characters that TeX would act on. `#`, `$`, `%`, `&` and `_` get a backslash; a brace becomes a
command, so that an escaped text never opens or closes a group of its own. -/

namespace CitationFile.Bibtex

def leftBrace : List Char := "\\textbraceleft\x7b\x7d".toList

def rightBrace : List Char := "\\textbraceright\x7b\x7d".toList

def isSpecial (c : Char) : Bool :=
  c = '#' || c = '$' || c = '%' || c = '&' || c = '_'

def escapeChar (c : Char) : List Char :=
  if isSpecial c then ['\\', c]
  else if c = '{' then leftBrace
  else if c = '}' then rightBrace
  else [c]

def escapeChars (text : List Char) : List Char :=
  text.flatMap escapeChar

def escape (text : String) : String :=
  String.ofList (escapeChars text.toList)

@[simp] theorem escapeChars_nil : escapeChars [] = [] := rfl

@[simp] theorem escapeChars_cons (c : Char) (rest : List Char) :
    escapeChars (c :: rest) = escapeChar c ++ escapeChars rest := rfl

theorem escapeChars_append (left right : List Char) :
    escapeChars (left ++ right) = escapeChars left ++ escapeChars right := by
  simp [escapeChars]

end CitationFile.Bibtex
