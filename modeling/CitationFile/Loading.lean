import CitationFile.Document
import CitationFile.Storage.Fault
import CitationFile.Validation

namespace CitationFile

inductive LoadError where
  | unreadable (path : String) (fault : Storage.Fault)
  | malformed (failure : Document.Failure)
  | invalid (report : Report)
deriving DecidableEq, Repr

namespace LoadError

def text : LoadError → String
  | unreadable path fault => "Failed to read " ++ path ++ ": " ++ fault.text
  | malformed failure => failure.text
  | invalid report => report.message

def cause? : LoadError → Option String
  | unreadable _ fault => some fault.text
  | _ => none

end LoadError

/-- A strict loader refuses what raises a warning. -/
structure Loader where
  strict : Bool := false
deriving DecidableEq, Repr

namespace Loader

def validate (loader : Loader) (root : Yaml.Value) : Except LoadError Validated :=
  match Validated.ofDocument root with
  | .error report => .error (.invalid report)
  | .ok validated => (validated.demand loader.strict).mapError .invalid

def loadText (loader : Loader) (source : String) : Except LoadError Validated :=
  match Document.parse source with
  | .error failure => .error (.malformed failure)
  | .ok root => loader.validate root

def loadFile (loader : Loader) (files : Storage.Files) (path : String) :
    Except LoadError Validated :=
  match files path with
  | .error fault => .error (.unreadable path fault)
  | .ok source => loader.loadText source

end Loader

end CitationFile
