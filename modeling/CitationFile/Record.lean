import CitationFile.Author
import CitationFile.Text.Digit

namespace CitationFile

inductive IdentifierType where
  | url | doi | swh | other
deriving DecidableEq, Repr

namespace IdentifierType

def all : List IdentifierType := [.url, .doi, .swh, .other]

def name : IdentifierType → String
  | .url => "url"
  | .doi => "doi"
  | .swh => "swh"
  | .other => "other"

def ofName? (name : String) : Option IdentifierType :=
  all.find? (·.name = name)

@[simp] theorem ofName?_name (type : IdentifierType) : ofName? type.name = some type := by
  cases type <;> rfl

end IdentifierType

structure Identifier where
  type : IdentifierType
  value : String
  description : Option String
deriving DecidableEq, Repr

inductive CitationType where
  | article | book | conferencePaper | data | generic | manual | misc | proceedings | report
  | software | thesis | unpublished
deriving DecidableEq, Repr

namespace CitationType

def all : List CitationType :=
  [.article, .book, .conferencePaper, .data, .generic, .manual, .misc, .proceedings, .report,
    .software, .thesis, .unpublished]

def name : CitationType → String
  | .article => "article"
  | .book => "book"
  | .conferencePaper => "conference-paper"
  | .data => "data"
  | .generic => "generic"
  | .manual => "manual"
  | .misc => "misc"
  | .proceedings => "proceedings"
  | .report => "report"
  | .software => "software"
  | .thesis => "thesis"
  | .unpublished => "unpublished"

def ofName? (name : String) : Option CitationType :=
  all.find? (·.name = name)

@[simp] theorem ofName?_name (type : CitationType) : ofName? type.name = some type := by
  cases type <;> rfl

end CitationType

structure PreferredCitation where
  type : CitationType
  authors : List Author
  title : String
  journal : Option String
  publisher : Option String
  volume : Option Nat
  number : Option Nat
  pages : Option String
  year : Option Nat
  month : Option Nat
  doi : Option String
  url : Option String
deriving DecidableEq, Repr

structure Record where
  cffVersion : String
  message : String
  authors : List Author
  title : String
  version : Option String
  dateReleased : Option String
  abstract : Option String
  url : Option String
  repositoryCode : Option String
  license : Option String
  licenseUrl : Option String
  keywords : List String
  identifiers : List Identifier
  preferredCitation : Option PreferredCitation
deriving DecidableEq, Repr

namespace Record

/-- The year a release date opens with, when it is written in ASCII digits. -/
def releaseYear? (record : Record) : Option Nat :=
  record.dateReleased.bind fun date =>
    let opening := date.toList.take 4
    if opening.length = 4 then Text.natural? opening else none

def identifier? (record : Record) (type : IdentifierType) : Option Identifier :=
  record.identifiers.find? (·.type = type)

/-- Where the software is found: its page, or else its source code. -/
def location? (record : Record) : Option String :=
  record.url <|> record.repositoryCode

end Record

end CitationFile
