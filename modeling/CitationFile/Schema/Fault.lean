import CitationFile.Issue
import CitationFile.Record
import CitationFile.Schema.Path
import CitationFile.Url.Error
import CitationFile.Yaml.Value

namespace CitationFile.Schema

inductive Kind where
  | null | bool | number | string | sequence | mapping | tagged
deriving DecidableEq, Repr

def Kind.of : Yaml.Value → Kind
  | .null => .null
  | .bool _ => .bool
  | .number _ => .number
  | .string _ => .string
  | .sequence _ => .sequence
  | .mapping _ => .mapping
  | .tagged .. => .tagged

def Kind.text : Kind → String
  | .null => "null"
  | .bool => "a boolean"
  | .number => "a number"
  | .string => "a string"
  | .sequence => "a list"
  | .mapping => "a mapping"
  | .tagged => "a tagged value"

inductive Fault where
  | notCitation (found : Kind)
  | missing
  | blank
  | notString (found : Kind)
  | notList (found : Kind)
  | notMapping (found : Kind)
  | notAuthor (found : Kind)
  | noAuthors
  | twoNames
  | noName
  | notVersion (text : String)
  | notDate (text : String)
  | notUrl (text : String) (cause : Url.Error)
  | notOrcid (text : String)
  | notInteger (found : Kind)
  | notIntegerText (text : String)
  | negative (value : Int)
  | zero
  | monthOutOfRange (month : Nat)
  | unknownIdentifierType (name : String)
  | unknownCitationType (name : String)
deriving DecidableEq, Repr

namespace Fault

def quoted (text : String) : String :=
  "'" ++ text ++ "'"

def message : Fault → String
  | .notCitation found => "expected a mapping of citation fields, found " ++ found.text
  | .missing => "missing required key"
  | .blank => "must not be empty"
  | .notString found => "expected a string, found " ++ found.text
  | .notList found => "expected a list, found " ++ found.text
  | .notMapping found => "expected a mapping, found " ++ found.text
  | .notAuthor found =>
      "expected a mapping with `name` or `family-names`, found " ++ found.text
  | .noAuthors => "at least one author is required"
  | .twoNames => "has both `name` and `family-names`; use exactly one form"
  | .noName => "must have either `name` or `family-names`"
  | .notVersion text => quoted text ++ " is not a MAJOR.MINOR.PATCH version"
  | .notDate text => quoted text ++ " is not a YYYY-MM-DD date"
  | .notUrl text cause => quoted text ++ " is not a valid URL: " ++ cause.message
  | .notOrcid text => quoted text ++ " is not an https://orcid.org/NNNN-NNNN-NNNN-NNNN URL"
  | .notInteger found => "expected an integer, found " ++ found.text
  | .notIntegerText text => "expected an integer, found " ++ quoted text
  | .negative value => "must be a positive integer, found " ++ toString value
  | .zero => "must be a positive integer"
  | .monthOutOfRange month => "month " ++ month.repr ++ " is not in 1..=12"
  | .unknownIdentifierType name =>
      "unknown identifier type " ++ quoted name ++ "; expected one of " ++
        ", ".intercalate (IdentifierType.all.map IdentifierType.name)
  | .unknownCitationType name => "unknown citation type " ++ quoted name

end Fault

inductive Doubt where
  | schemaVersion (text : String)
  | suspectDoi (text : String)
  | articleWithoutJournal
deriving DecidableEq, Repr

def Doubt.message : Doubt → String
  | .schemaVersion text => "schema version " ++ text ++ " is not a 1.x release"
  | .suspectDoi text => Fault.quoted text ++ " does not look like a DOI (10.NNNN/...)"
  | .articleWithoutJournal => "articles should name a journal"

structure Problem where
  path : Path
  fault : Fault
deriving DecidableEq, Repr

def Problem.issue (problem : Problem) : Issue :=
  ⟨problem.path.text, problem.fault.message, .error⟩

structure Caution where
  path : Path
  doubt : Doubt
deriving DecidableEq, Repr

def Caution.issue (caution : Caution) : Issue :=
  ⟨caution.path.text, caution.doubt.message, .warning⟩

end CitationFile.Schema
