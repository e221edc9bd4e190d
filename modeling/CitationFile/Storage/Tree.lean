import CitationFile.Storage.Fault

namespace CitationFile.Storage

inductive Node where
  | directory
  /-- A file of bytes that are no text has no content. -/
  | file (content : Option String)
deriving DecidableEq, Repr

def Node.ofBytes (bytes : ByteArray) : Node :=
  .file (String.fromUTF8? bytes)

abbrev Route := List String

def routeOf (path : String) : List String :=
  (path.toList.splitOn '/').map String.ofList

/-- Directories need not be listed if something in them is. -/
structure Tree where
  nodes : List (Route × Node)
deriving DecidableEq, Repr

namespace Tree

def node? (tree : Tree) (route : Route) : Option Node :=
  match tree.nodes.lookup route with
  | some node => some node
  | none => if tree.nodes.any (route.isPrefixOf ·.1) then some .directory else none

inductive Position where
  | inside (route : Route)
  | outside
deriving DecidableEq, Repr

def longestName : Nat := 255

/-- Follows the names of a path from a directory. A blank name and a dot stay there, and two dots
lead to the directory around it. -/
def follow (tree : Tree) : Position → List String → Except Fault Node
  | .outside, names =>
      if names.all (["", ".", ".."].contains ·) then .ok .directory else .error .notFound
  | .inside route, [] =>
      match tree.node? route with
      | some node => .ok node
      | none => if route = [] then .ok .directory else .error .notFound
  | .inside route, name :: rest =>
      match (if route = [] then some .directory else tree.node? route) with
      | none => .error .notFound
      | some (.file _) => .error .notDirectory
      | some .directory =>
          if name = "" ∨ name = "." then tree.follow (.inside route) rest
          else if name = ".." then
            if route = [] then tree.follow .outside rest
            else tree.follow (.inside route.dropLast) rest
          else if longestName < name.utf8ByteSize then .error .nameTooLong
          else tree.follow (.inside (route ++ [name])) rest

def read (tree : Tree) : Files := fun path =>
  if path.contains '\x00' then .error .nullInName
  else if path = "" then .error .notFound
  else do
    match ← tree.follow (.inside []) (routeOf path) with
    | .directory => throw .isDirectory
    | .file none => throw .notText
    | .file (some content) => return content

end Tree

end CitationFile.Storage
