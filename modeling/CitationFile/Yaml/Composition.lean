import CitationFile.Text.Quoted
import CitationFile.Yaml.Event
import CitationFile.Yaml.Scalar

/-! Composition of a value from events. An alias stands for a copy of the node it refers to; nesting
and the number of copies are limited. A fault in a value is told with the path to it. -/

namespace CitationFile.Yaml

inductive ValueStep where
  | item (index : Nat)
  | key (name : List Char)
  | unnamed
deriving DecidableEq, Repr

abbrev ValuePath := List ValueStep

namespace ValuePath

def text : ValuePath → List Char
  | [] => ['.']
  | .item index :: outer => text outer ++ '[' :: index.repr.toList ++ [']']
  | .key name :: outer => opening outer ++ name
  | .unnamed :: outer => opening outer ++ ['?']
where
  opening : ValuePath → List Char
    | [] => []
    | outer => text outer ++ ['.']

end ValuePath

inductive ValueFault where
  | duplicateKey (key : Value)
  | wideInteger (value : Int)
  | notBool (text : String)
  | notInteger (text : String)
  | notFloat (text : String)
  | notNull (text : String)

def ValueFault.text : ValueFault → String
  | .duplicateKey .null => "duplicate entry with null key"
  | .duplicateKey (.bool value) => "duplicate entry with key `" ++ toString value ++ "`"
  | .duplicateKey (.number number) => "duplicate entry with key " ++ number.text
  | .duplicateKey (.string string) => "duplicate entry with key " ++ Text.quote string
  | .duplicateKey _ => "duplicate entry in YAML map"
  | .wideInteger value =>
      "invalid type: integer `" ++ toString value ++ "` as " ++
        (if value < 0 then "i128" else "u128") ++ ", expected any YAML value"
  | .notBool text => mismatch text "a boolean"
  | .notInteger text => mismatch text "an integer"
  | .notFloat text => mismatch text "a float"
  | .notNull text => mismatch text "null"
where
  mismatch (text expected : String) : String :=
    "invalid value: string " ++ Text.quote text ++ ", expected " ++ expected

inductive ReadError where
  | malformed (flaw : Malformed)
  | fault (fault : ValueFault) (path : ValuePath) (mark : Mark)
  | tooDeep (mark : Mark)
  | tooManyCopies
  | unknownAnchor (mark : Mark)
  | severalDocuments

namespace ReadError

def mark? : ReadError → Option Mark
  | .malformed flaw => some flaw.mark
  | .fault _ _ mark => some mark
  | .tooDeep mark => some mark
  | .tooManyCopies => none
  | .unknownAnchor mark => some mark
  | .severalDocuments => none

def atMark (message : String) (mark : Mark) : String :=
  if mark.isStart then message else message ++ " at " ++ mark.text

def pathText (path : ValuePath) : String :=
  let text := ValuePath.text path
  if text = ['.'] then "" else String.ofList text ++ ": "

def text : ReadError → String
  | .malformed flaw => flaw.text
  | .fault what path mark => atMark (pathText path ++ what.text) mark
  | .tooDeep mark => atMark "recursion limit exceeded" mark
  | .tooManyCopies => "repetition limit exceeded"
  | .unknownAnchor mark => atMark "unknown anchor" mark
  | .severalDocuments =>
      "deserializing from YAML containing more than one document is not supported"

end ReadError

/-! Anchors are numbered by how many names came before, so a name that is used again does not get a
number of its own. An alias refers to its number, and through it to the node that took the number
last. -/

structure Graph where
  events : Array Event := #[]
  names : List (List Char × Nat) := []
  /-- The number of an alias, by its position. -/
  references : List (Nat × Nat) := []
  /-- The position of a node, by its number. -/
  targets : List (Nat × Nat) := []
  failure : Option ReadError := none

namespace Graph

def anchorOf : Event.Kind → Option (List Char)
  | .scalar properties .. => properties.anchor
  | .sequenceStart properties => properties.anchor
  | .mappingStart properties => properties.anchor
  | _ => none

def nameAnchor (graph : Graph) (name : List Char) : Graph :=
  let number := graph.names.length
  { graph with
    names := (name, number) :: graph.names.filter (·.1 ≠ name)
    targets := (number, graph.events.size) :: graph.targets }

def add (graph : Graph) (event : Event) : Graph :=
  let named := match anchorOf event.kind with
    | some name => graph.nameAnchor name
    | none => graph
  { named with events := named.events.push event }

def ofEvents (graph : Graph) (failure : Option Malformed) : List Event → Graph
  | [] => { graph with failure := failure.map .malformed }
  | event :: rest =>
      match event.kind with
      | .aliasOf name =>
          match graph.names.lookup name with
          | none => { graph with failure := some (.unknownAnchor event.mark) }
          | some number =>
              ofEvents
                { graph.add event with
                  references := (graph.events.size, number) :: graph.references }
                failure rest
      | _ => ofEvents (graph.add event) failure rest

def target? (graph : Graph) (position : Nat) : Option Nat :=
  (graph.references.lookup position).bind (graph.targets.lookup ·)

/-- The events break off only where the text does. -/
def stop (graph : Graph) : ReadError :=
  graph.failure.getD (.malformed (.defect .endOfStream {} none))

end Graph

def coreTag (name : String) : List Char :=
  ("tag:yaml.org,2002:" ++ name).toList

def localTag? : Option (List Char) → Option String
  | some ['!'] => some "!!"
  | some ('!' :: rest) => some (String.ofList ('!' :: rest))
  | _ => none

def plainValue (text : List Char) : Except ValueFault Value :=
  if Scalar.isNull text then .ok .null
  else match Scalar.bool? text with
    | some value => .ok (.bool value)
    | none =>
        match Scalar.readInteger text with
        | .integer value => .ok (.number (.integer value))
        | .wide value => .error (.wideInteger value)
        | .none =>
            match if Scalar.hasLeadingZero text then none else Scalar.float? text with
            | some value => .ok (.number (.float value))
            | none => .ok (.string (String.ofList text))

def scalarValue (tag : Option (List Char)) (text : List Char) (style : ScalarStyle) :
    Except ValueFault Value :=
  let string := String.ofList text
  match tag with
  | none => if style = .plain then plainValue text else .ok (.string string)
  | some tag =>
      if tag = coreTag "bool" then
        match Scalar.bool? text with
        | some value => .ok (.bool value)
        | none => .error (.notBool string)
      else if tag = coreTag "int" then
        match Scalar.readInteger text with
        | .integer value => .ok (.number (.integer value))
        | .wide value => .error (.wideInteger value)
        | .none => .error (.notInteger string)
      else if tag = coreTag "float" then
        match Scalar.float? text with
        | some value => .ok (.number (.float value))
        | none => .error (.notFloat string)
      else if tag = coreTag "null" then
        if text ≠ [] ∧ Scalar.isNull text then .ok .null else .error (.notNull string)
      else .ok (.string string)

structure Place where
  position : Nat
  copies : Nat

def Place.next (place : Place) : Place :=
  { place with position := place.position + 1 }

def deepest : Nat := 128

def copiesPerEvent : Nat := 100

mutual

/-- The value at a place and the place behind it. The tag of a node that is `bare` was read before.
-/
def composeNode (graph : Graph) (fuel depth : Nat) (path : ValuePath) (bare : Bool)
    (place : Place) : Except ReadError (Value × Place) :=
  match fuel with
  | 0 => .error (.tooDeep {})
  | fuel + 1 =>
      match graph.events[place.position]? with
      | none => .error graph.stop
      | some event =>
          let withTag (tag : Option (List Char))
              (untagged : Except ReadError (Value × Place)) :=
            match if bare then none else localTag? tag with
            | none => untagged
            | some tag => do
                let (value, behind) ← composeNode graph fuel depth path true place
                return (.tagged tag value, behind)
          match event.kind with
          | .aliasOf _ =>
              let copies := place.copies + 1
              if copiesPerEvent * graph.events.size < copies then .error .tooManyCopies
              else
                match graph.target? place.position with
                | none => .error (.unknownAnchor event.mark)
                | some target => do
                    let (value, behind) ← composeNode graph fuel depth path false ⟨target, copies⟩
                    return (value, ⟨place.position + 1, behind.copies⟩)
          | .scalar properties text style =>
              withTag properties.tag <|
                match scalarValue (if bare then none else properties.tag) text style with
                | .ok value => .ok (value, place.next)
                | .error fault => .error (.fault fault path event.mark)
          | .sequenceStart properties =>
              withTag properties.tag <|
                match depth with
                | 0 => .error (.tooDeep event.mark)
                | depth + 1 => do
                    let (items, behind) ← composeItems graph fuel depth path 0 place.next
                    return (.sequence items, behind)
          | .mappingStart properties =>
              withTag properties.tag <|
                match depth with
                | 0 => .error (.tooDeep event.mark)
                | depth + 1 => do
                    let (entries, behind) ←
                      composeEntries graph fuel depth path bare event.mark [] place.next
                    return (.mapping entries, behind)
          | _ => .error graph.stop

def composeItems (graph : Graph) (fuel depth : Nat) (path : ValuePath) (index : Nat)
    (place : Place) : Except ReadError (List Value × Place) :=
  match fuel with
  | 0 => .error (.tooDeep {})
  | fuel + 1 =>
      match (graph.events[place.position]?).map Event.kind with
      | none => .error graph.stop
      | some .sequenceEnd => .ok ([], place.next)
      | some _ => do
          let (item, behind) ← composeNode graph fuel depth (.item index :: path) false place
          let (items, final) ← composeItems graph fuel depth path (index + 1) behind
          return (item :: items, final)

/-- Keys of a mapping with a local tag are read without tags of their own. A key is refused as soon
as it is read a second time; `known` holds the keys so far. -/
def composeEntries (graph : Graph) (fuel depth : Nat) (path : ValuePath) (bare : Bool)
    (start : Mark) (known : List Value) (place : Place) :
    Except ReadError (List (Value × Value) × Place) :=
  match fuel with
  | 0 => .error (.tooDeep {})
  | fuel + 1 =>
      match (graph.events[place.position]?).map Event.kind with
      | none => .error graph.stop
      | some .mappingEnd => .ok ([], place.next)
      | some kind => do
          let (key, behindKey) ← composeNode graph fuel depth path bare place
          if let some earlier := known.find? key.same then
            throw (.fault (.duplicateKey earlier) path start)
          let step : ValueStep := match kind with
            | .scalar _ text _ => .key text
            | _ => .unnamed
          let (value, behind) ← composeNode graph fuel depth (step :: path) false behindKey
          let (entries, final) ←
            composeEntries graph fuel depth path bare start (key :: known) behind
          return ((key, value) :: entries, final)

end

def isDocumentEnd (event : Event) : Bool :=
  event.kind = .documentEnd

/-- The one document of a stream; an empty stream is null. -/
def Value.ofEvents (reading : Reading Event) : Except ReadError Value :=
  let content := reading.items.takeWhile (!isDocumentEnd ·)
  let behind := reading.items.dropWhile (!isDocumentEnd ·)
  let failure := if behind = [] then reading.failure else none
  let graph := Graph.ofEvents {} failure (content.filter (·.kind ≠ .documentStart))
  if content = [] ∧ failure = none then .ok .null
  else do
    let fuel := (deepest + 2) * (graph.events.size + 4)
    let (value, _) ← composeNode graph fuel deepest [] false ⟨0, 0⟩
    match graph.failure with
    | some error => throw error
    | none =>
        if behind.length ≤ 1 ∧ reading.failure = none then return value
        else throw .severalDocuments

def Value.ofText (text : String) : Except ReadError Value :=
  Value.ofEvents (Event.ofText text.toList)

end CitationFile.Yaml
