import CitationFile.Record
import CitationFile.Text.Ascii

namespace CitationFile.Bibtex

inductive EntryType where
  | article | book | inProceedings | manual | misc | phdThesis | proceedings | techReport
  | unpublished | software | dataset
deriving DecidableEq, Repr

namespace EntryType

def all : List EntryType :=
  [.article, .book, .inProceedings, .manual, .misc, .phdThesis, .proceedings, .techReport,
    .unpublished, .software, .dataset]

def name : EntryType → String
  | .article => "article"
  | .book => "book"
  | .inProceedings => "inproceedings"
  | .manual => "manual"
  | .misc => "misc"
  | .phdThesis => "phdthesis"
  | .proceedings => "proceedings"
  | .techReport => "techreport"
  | .unpublished => "unpublished"
  | .software => "software"
  | .dataset => "dataset"

def ofName? (name : String) : Option EntryType :=
  all.find? (·.name = name)

@[simp] theorem ofName?_name (type : EntryType) : ofName? type.name = some type := by
  cases type <;> rfl

def ofCitationType : CitationType → EntryType
  | .article => .article
  | .book => .book
  | .conferencePaper => .inProceedings
  | .data => .dataset
  | .generic => .misc
  | .manual => .manual
  | .misc => .misc
  | .proceedings => .proceedings
  | .report => .techReport
  | .software => .software
  | .thesis => .phdThesis
  | .unpublished => .unpublished

end EntryType

structure Field where
  key : String
  value : String
deriving DecidableEq, Repr

structure Entry where
  citeKey : String
  type : EntryType
  fields : List Field := []
deriving DecidableEq, Repr

namespace Entry

def add (entry : Entry) (key value : String) : Entry :=
  { entry with fields := entry.fields ++ [⟨key, value⟩] }

def addOptional (entry : Entry) (key : String) : Option String → Entry
  | none => entry
  | some value => entry.add key value

def addNumber (entry : Entry) (key : String) (number : Option Nat) : Entry :=
  entry.addOptional key (number.map Nat.repr)

def get? (entry : Entry) (key : String) : Option String :=
  (entry.fields.find? fun field => Text.equalIgnoringCase field.key.toList key.toList).map (·.value)

@[simp] theorem fields_add (entry : Entry) (key value : String) :
    (entry.add key value).fields = entry.fields ++ [⟨key, value⟩] := rfl

@[simp] theorem addOptional_none (entry : Entry) (key : String) :
    entry.addOptional key none = entry := rfl

@[simp] theorem addOptional_some (entry : Entry) (key value : String) :
    entry.addOptional key (some value) = entry.add key value := rfl

end Entry

end CitationFile.Bibtex
