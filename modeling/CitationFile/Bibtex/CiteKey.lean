import CitationFile.Author
import CitationFile.Text.Ascii
import CitationFile.Unicode.Composition

namespace CitationFile.Bibtex

open Text Unicode

def stopwords : List (List Char) :=
  ["a", "an", "the", "on", "in", "of", "for", "to", "and", "with", "by", "from", "as", "at", "is",
    "are", "was", "were", "be", "been", "being", "have", "has", "had", "do", "does", "did", "will",
    "would", "could", "should", "may", "might", "must", "shall", "can", "via"].map String.toList

/-- Lowercase is taken in ASCII: the only other letter with an ASCII lowercase form is the Kelvin
sign, and no stopword has a `k`. -/
def isStopword (word : List Char) : Bool :=
  stopwords.contains (asciiLower word)

def cleanForm (word : List Char) : List Char :=
  word.filter isAlphanumeric

/-- The clean form of the first word that has one and is no stopword, or else that of the very first
word. -/
def significantWord? (title : List Char) : Option (List Char) :=
  let forms := (words title).map cleanForm
  forms.find? (fun form => form ≠ [] ∧ !isStopword form) <|> forms.head?

def asciiProjection (text : List Char) : List Char :=
  ((compatibilityDecomposed (text.map Char.toNat)).map Char.ofNat).filter
    fun c => isAscii c && c.isAlphanum

/-- An uppercase letter or a digit, then lowercase letters and digits. -/
def keyPart (text : List Char) : List Char :=
  capitalise (asciiLower (asciiProjection text))

def authorPart : Author → List Char
  | .person person => keyPart person.familyNames.toList
  | .entity entity => keyPart ((significantWord? entity.name.toList).getD [])

def titlePart (title : String) : List Char :=
  keyPart ((significantWord? title.toList).getD [])

def citeKeyChars (author : Option Author) (year : Option Nat) (title : Option String) :
    List Char :=
  (author.map authorPart).getD [] ++ (year.map fun number => number.repr.toList).getD [] ++
    (title.map titlePart).getD []

def citeKeyFor (author : Option Author) (year : Option Nat) (title : Option String) : String :=
  match citeKeyChars author year title with
  | [] => "Unknown"
  | key => String.ofList key

end CitationFile.Bibtex
