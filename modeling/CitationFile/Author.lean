import CitationFile.Bibtex.Escape
import CitationFile.Text.Blank
import CitationFile.Unicode.Letter
import CitationFile.Unicode.Uppercase

namespace CitationFile

open Text Unicode

structure Entity where
  name : String
  email : Option String := none
deriving DecidableEq, Repr

structure Person where
  familyNames : String
  givenNames : Option String := none
  orcid : Option String := none
  affiliation : Option String := none
  email : Option String := none
deriving DecidableEq, Repr

inductive Author where
  | entity (entity : Entity)
  | person (person : Person)
deriving DecidableEq, Repr

namespace Initials

def ofPiece? (piece : List Char) : Option (List Char) :=
  (piece.find? isAlphabetic).map fun c => uppercase c ++ ['.']

def ofWord (word : List Char) : List Char :=
  ['-'].intercalate ((word.splitOn '-').filterMap ofPiece?)

/-- One initial for each hyphenated piece of each word; pieces and words without a letter drop out,
and `Jean-Luc H.` becomes `J.-L. H.` -/
def ofNames? (names : List Char) : Option (List Char) :=
  match ((words names).map ofWord).filter (· ≠ []) with
  | [] => none
  | initials => some ([' '].intercalate initials)

end Initials

def Person.initials? (person : Person) : Option String :=
  person.givenNames.bind fun names => (Initials.ofNames? names.toList).map String.ofList

namespace Author

def displayName : Author → String
  | .entity e => e.name
  | .person p =>
      match p.givenNames with
      | some given => given ++ " " ++ p.familyNames
      | none => p.familyNames

/-- Braces keep the name of an entity whole. -/
def bibtexName : Author → String
  | .entity e => "\x7b" ++ Bibtex.escape e.name ++ "\x7d"
  | .person p =>
      match p.givenNames with
      | some given => Bibtex.escape p.familyNames ++ ", " ++ Bibtex.escape given
      | none => Bibtex.escape p.familyNames

def apaName : Author → String
  | .entity e => e.name
  | .person p =>
      match p.initials? with
      | some initials => p.familyNames ++ ", " ++ initials
      | none => p.familyNames

def sortName : Author → String
  | .entity e => e.name
  | .person p => p.familyNames

def orcid? : Author → Option String
  | .entity _ => none
  | .person p => p.orcid

end Author

def bibtexAuthors (authors : List Author) : String :=
  " and ".intercalate (authors.map Author.bibtexName)

end CitationFile
