import CitationFile.Yaml.Number

namespace CitationFile.Yaml

inductive Value where
  | null
  | bool (value : Bool)
  | number (value : Number)
  | string (value : String)
  | sequence (items : List Value)
  | mapping (entries : List (Value × Value))
  | tagged (tag : String) (value : Value)
deriving Inhabited

/-- A tag with and without its exclamation mark is the same, except the mark alone. -/
def bareTag (tag : String) : String :=
  match tag.toList with
  | '!' :: c :: rest => String.ofList (c :: rest)
  | _ => tag

namespace Value

/-! Keys are the same if they are equal as values: order counts in a sequence and not in a mapping.
-/

mutual

def same : Value → Value → Bool
  | null, null => true
  | bool left, bool right => left == right
  | number left, number right => left.same right
  | string left, string right => left == right
  | sequence left, sequence right => sameItems left right
  | mapping left, mapping right => left.length == right.length && sameEntries left right
  | tagged leftTag left, tagged rightTag right =>
      bareTag leftTag == bareTag rightTag && same left right
  | _, _ => false

def sameItems : List Value → List Value → Bool
  | [], [] => true
  | left :: lefts, right :: rights => same left right && sameItems lefts rights
  | _, _ => false

def sameEntries : List (Value × Value) → List (Value × Value) → Bool
  | [], _ => true
  | (key, value) :: rest, rights =>
      (match rights.find? (fun entry => same key entry.1) with
        | some entry => same value entry.2
        | none => false) && sameEntries rest rights

end

def untagged : Value → Value
  | tagged _ value => value.untagged
  | value => value

def string? (value : Value) : Option String :=
  match value.untagged with
  | string text => some text
  | _ => none

def sequence? (value : Value) : Option (List Value) :=
  match value.untagged with
  | sequence items => some items
  | _ => none

def mapping? (value : Value) : Option (List (Value × Value)) :=
  match value.untagged with
  | mapping entries => some entries
  | _ => none

def isNull (value : Value) : Bool :=
  match value.untagged with
  | null => true
  | _ => false

def isKey (name : String) : Value → Bool
  | string text => text = name
  | _ => false

def entry? (entries : List (Value × Value)) (name : String) : Option Value :=
  (entries.find? fun entry => entry.1.isKey name).map (·.2)

def get? (value : Value) (name : String) : Option Value :=
  value.mapping?.bind fun entries => entry? entries name

def insert (entries : List (Value × Value)) (key value : Value) : List (Value × Value) :=
  match entries with
  | [] => [(key, value)]
  | entry :: rest =>
      if key.same entry.1 then (entry.1, value) :: rest else entry :: insert rest key value

end Value

end CitationFile.Yaml
