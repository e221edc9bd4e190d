import CitationFile.Bibtex.CiteKey
import CitationFile.Bibtex.Entry
import CitationFile.Doi

namespace CitationFile.Bibtex

def doubleFirstHyphen : List Char → List Char
  | [] => []
  | c :: rest => if c = '-' then '-' :: '-' :: rest else c :: doubleFirstHyphen rest

def hasDoubleHyphen : List Char → Bool
  | '-' :: '-' :: _ => true
  | _ :: rest => hasDoubleHyphen rest
  | [] => false

/-- A range of pages has an en-dash, which BibTeX writes as two hyphens. -/
def pageRange (pages : String) : String :=
  if hasDoubleHyphen pages.toList then pages
  else String.ofList (doubleFirstHyphen pages.toList)

def Entry.ofCitation (citation : PreferredCitation) : Entry :=
  let key := citeKeyFor citation.authors.head? citation.year (some citation.title)
  Entry.mk key (.ofCitationType citation.type) []
    |>.add "author" (bibtexAuthors citation.authors)
    |>.add "title" citation.title
    |>.addOptional "journal" citation.journal
    |>.addOptional "publisher" citation.publisher
    |>.addNumber "volume" citation.volume
    |>.addNumber "number" citation.number
    |>.addOptional "pages" (citation.pages.map pageRange)
    |>.addNumber "year" citation.year
    |>.addNumber "month" citation.month
    |>.addOptional "doi" (citation.doi.map Doi.normal)
    |>.addOptional "url" citation.url

def Entry.ofSoftware (record : Record) : Entry :=
  let year := record.releaseYear?
  let key := citeKeyFor record.authors.head? year (some record.title)
  Entry.mk key .software []
    |>.add "author" (bibtexAuthors record.authors)
    |>.add "title" record.title
    |>.addOptional "version" record.version
    |>.addNumber "year" year
    |>.addOptional "doi" ((record.identifier? .doi).map (Doi.normal ·.value))
    |>.addOptional "url" record.location?

def Entry.ofRecord (record : Record) : Entry :=
  match record.preferredCitation with
  | some citation => Entry.ofCitation citation
  | none => Entry.ofSoftware record

end CitationFile.Bibtex
