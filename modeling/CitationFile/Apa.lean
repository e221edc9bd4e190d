import CitationFile.Doi
import CitationFile.Record
import CitationFile.Text.Blank

namespace CitationFile.Apa

open Text

/-- Up to the limit every author is listed; beyond it the first `limit - 1` and the last. A limit
below two counts as two. -/
def authorNames (authors : List Author) (limit : Nat) : String :=
  let names := authors.map Author.apaName
  let most := max limit 2
  match names.getLast? with
  | none => ""
  | some last =>
      if names.length = 1 then last
      else if names.length ≤ most then ", ".intercalate names.dropLast ++ ", & " ++ last
      else ", ".intercalate (names.take (most - 1)) ++ ", . . . " ++ last

def endsSentence (text : List Char) : Bool :=
  match text.getLast? with
  | some c => c = '.' || c = '?' || c = '!'
  | none => false

def sentenceChars (text : List Char) : List Char :=
  let trimmed := trim text
  if endsSentence trimmed then trimmed else trimmed ++ ['.']

def sentence (text : String) : String :=
  String.ofList (sentenceChars text.toList)

def year : Option Nat → String
  | some number => "(" ++ number.repr ++ ")"
  | none => "(n.d.)"

def authorBlock (authors : List Author) (limit : Nat) : String :=
  sentence (authorNames authors limit)

def opening (authors : List Author) (limit : Nat) (published : Option Nat) : String :=
  authorBlock authors limit ++ " " ++ year published ++ "."

def singleHyphens : List Char → List Char
  | '-' :: '-' :: rest => '-' :: singleHyphens rest
  | c :: rest => c :: singleHyphens rest
  | [] => []

def volumeAndNumber (volume number : Option Nat) : String :=
  match volume, number with
  | some volume, some number => ", " ++ volume.repr ++ "(" ++ number.repr ++ ")"
  | some volume, none => ", " ++ volume.repr
  | none, _ => ""

def pageSpan : Option String → String
  | some pages => ", " ++ String.ofList (singleHyphens pages.toList)
  | none => ""

/-- Articles name journal, volume, number and pages; any other work its journal or publisher. -/
def source? (citation : PreferredCitation) : Option String :=
  match citation.type with
  | .article =>
      citation.journal.map fun journal =>
        sentence (journal ++ volumeAndNumber citation.volume citation.number ++
          pageSpan citation.pages)
  | _ => (citation.journal <|> citation.publisher).map sentence

def link? (doi url : Option String) : Option String :=
  doi.map Doi.url <|> url

def joinParts (parts : List (Option String)) : String :=
  " ".intercalate (parts.filterMap id)

def citationReference (citation : PreferredCitation) (limit : Nat) : String :=
  joinParts [opening citation.authors limit citation.year, sentence citation.title,
    source? citation, link? citation.doi citation.url]

def softwareTitle (record : Record) : String :=
  match record.version with
  | some version => record.title ++ " (Version " ++ version ++ ") [Computer software]"
  | none => record.title ++ " [Computer software]"

def softwareReference (record : Record) (limit : Nat) : String :=
  joinParts [opening record.authors limit record.releaseYear?, sentence (softwareTitle record),
    link? ((record.identifier? .doi).map (·.value)) record.location?]

def reference (record : Record) (limit : Nat) : String :=
  match record.preferredCitation with
  | some citation => citationReference citation limit
  | none => softwareReference record limit

end CitationFile.Apa
