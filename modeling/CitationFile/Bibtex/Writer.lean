import CitationFile.Bibtex.Entry
import CitationFile.Bibtex.Escape

namespace CitationFile.Bibtex

/-- Links stand as they are, and authors are escaped name by name. -/
def verbatimKeys : List (List Char) :=
  ["url".toList, "doi".toList, "author".toList]

def isVerbatim (key : List Char) : Bool :=
  verbatimKeys.any (Text.equalIgnoringCase · key)

def delimited (value : List Char) : List Char :=
  if value ≠ [] ∧ value.all Char.isDigit then value else '{' :: value ++ ['}']

def writeField (key value : List Char) : List Char :=
  "    ".toList ++ key ++ " = ".toList ++
    delimited (if isVerbatim key then value else escapeChars value) ++ [',', '\n']

/-- The definition as an equation that leaves the literal texts folded. -/
theorem writeField_eq (key value : List Char) :
    writeField key value = "    ".toList ++ key ++ " = ".toList ++
      delimited (if isVerbatim key then value else escapeChars value) ++ [',', '\n'] := rfl

def writeEntry (type citeKey : List Char) (fields : List (List Char × List Char)) : List Char :=
  '@' :: type ++ '{' :: citeKey ++ [',', '\n'] ++
    fields.flatMap (fun field => writeField field.1 field.2) ++ ['}']

def Entry.write (entry : Entry) : String :=
  String.ofList (writeEntry entry.type.name.toList entry.citeKey.toList
    (entry.fields.map fun field => (field.key.toList, field.value.toList)))

end CitationFile.Bibtex
