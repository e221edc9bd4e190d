namespace CitationFile.Storage

inductive Fault where
  | notFound
  | notDirectory
  | isDirectory
  | nameTooLong
  | nullInName
  | notText
  | other (text : String)
deriving DecidableEq, Repr

namespace Fault

def text : Fault → String
  | notFound => "No such file or directory (os error 2)"
  | notDirectory => "Not a directory (os error 20)"
  | isDirectory => "Is a directory (os error 21)"
  | nameTooLong => "File name too long (os error 36)"
  | nullInName => "file name contained an unexpected NUL byte"
  | notText => "stream did not contain valid UTF-8"
  | other text => text

def isAbsence : Fault → Bool
  | notText | other _ => false
  | _ => true

end Fault

/-- Files as they are seen by a reader: the text behind each path, or why there is none. -/
abbrev Files := String → Except Fault String

def Files.isFile (files : Files) (path : String) : Bool :=
  match files path with
  | .ok _ => true
  | .error fault => !fault.isAbsence

end CitationFile.Storage
