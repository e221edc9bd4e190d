namespace CitationFile

inductive Severity where
  | error | warning
deriving DecidableEq, Repr

structure Issue where
  path : String
  message : String
  severity : Severity := .error
deriving DecidableEq, Repr

namespace Issue

def text (issue : Issue) : String :=
  issue.path ++ ": " ++ issue.message

def isError (issue : Issue) : Bool :=
  issue.severity = .error

def asError (issue : Issue) : Issue :=
  { issue with severity := .error }

def isBelow (issue : Issue) (path : String) : Bool :=
  let anchor := issue.path.toList
  anchor = path.toList || (path.toList ++ ['.']).isPrefixOf anchor ||
    (path.toList ++ ['[']).isPrefixOf anchor

end Issue

structure Report where
  issues : List Issue
deriving DecidableEq, Repr

namespace Report

def message (report : Report) : String :=
  match report.issues with
  | [] => "Validation failed"
  | [issue] => "Validation failed: " ++ issue.text
  | issues =>
      "Validation failed with " ++ issues.length.repr ++ " issues:" ++
        String.join (issues.map fun issue => "\n  - " ++ issue.text)

def references (report : Report) (path : String) : Bool :=
  report.issues.any (·.isBelow path)

end Report

end CitationFile
