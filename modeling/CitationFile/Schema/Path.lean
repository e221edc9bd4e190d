namespace CitationFile.Schema

inductive Step where
  | key (name : String)
  | item (index : Nat)
deriving DecidableEq, Repr

abbrev Path := List Step

namespace Path

def stepText : Step → String
  | .key name => "." ++ name
  | .item index => "[" ++ index.repr ++ "]"

def rootText : String := "$"

def text : Path → String
  | [] => rootText
  | .key name :: rest => name ++ String.join (rest.map stepText)
  | steps => String.join (steps.map stepText)

end Path

end CitationFile.Schema
