import CitationFile.Apa
import CitationFile.Bibtex.Citation
import CitationFile.Bibtex.Writer

namespace CitationFile

inductive Format where
  | apa | bibtex
deriving DecidableEq, Repr

namespace Format

def name : Format → String
  | .apa => "apa"
  | .bibtex => "bibtex"

def all : List Format := [.apa, .bibtex]

def ofName? (name : String) : Option Format :=
  all.find? (·.name = name)

/-- Reads a name in any mix of cases, with `bib` as a short form. -/
def read? (text : String) : Option Format :=
  let lower := String.ofList (Text.asciiLower text.toList)
  if lower = "bib" then some .bibtex else ofName? lower

def unknownMessage (text : String) : String :=
  "Unknown render format '" ++ text ++ "'; expected apa or bibtex"

end Format

def defaultAuthorLimit : Nat := 20

def Record.render (record : Record) (format : Format) (authorLimit : Nat) : String :=
  match format with
  | .apa => Apa.reference record authorLimit
  | .bibtex => (Bibtex.Entry.ofRecord record).write

end CitationFile
