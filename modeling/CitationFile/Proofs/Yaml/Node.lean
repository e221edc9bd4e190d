import CitationFile.Proofs.Result
import CitationFile.Yaml.Composition
import Mathlib.Logic.Basic

/-! The nodes of a document, as the text gives them: a scalar with its tag, text and style, before
it is a value. What is composed from a text is what its nodes mean. -/

namespace CitationFile.Yaml

inductive Node where
  | scalar (tag : Option (List Char)) (text : List Char) (style : ScalarStyle)
  | sequence (tag : Option (List Char)) (items : List Node)
  | mapping (tag : Option (List Char)) (entries : List (Node × Node))
  /-- Another mention of a node. -/
  | copy (node : Node)

mutual

/-- The node that begins at a position, and the position behind it. -/
def nodeAt (graph : Graph) : Nat → Nat → Option (Node × Nat)
  | 0, _ => none
  | fuel + 1, position =>
      match (graph.events[position]?).map Event.kind with
      | some (.aliasOf _) => do
          let target ← graph.target? position
          let (node, _) ← nodeAt graph fuel target
          return (.copy node, position + 1)
      | some (.scalar properties text style) =>
          some (.scalar properties.tag text style, position + 1)
      | some (.sequenceStart properties) => do
          let (items, behind) ← itemsAt graph fuel (position + 1)
          return (.sequence properties.tag items, behind)
      | some (.mappingStart properties) => do
          let (entries, behind) ← entriesAt graph fuel (position + 1)
          return (.mapping properties.tag entries, behind)
      | _ => none

def itemsAt (graph : Graph) : Nat → Nat → Option (List Node × Nat)
  | 0, _ => none
  | fuel + 1, position =>
      if (graph.events[position]?).map Event.kind = some .sequenceEnd then some ([], position + 1)
      else do
        let (item, behind) ← nodeAt graph fuel position
        let (items, final) ← itemsAt graph fuel behind
        return (item :: items, final)

def entriesAt (graph : Graph) : Nat → Nat → Option (List (Node × Node) × Nat)
  | 0, _ => none
  | fuel + 1, position =>
      if (graph.events[position]?).map Event.kind = some .mappingEnd then some ([], position + 1)
      else do
        let (key, behindKey) ← nodeAt graph fuel position
        let (value, behind) ← nodeAt graph fuel behindKey
        let (entries, final) ← entriesAt graph fuel behind
        return ((key, value) :: entries, final)

end

/-- A local tag stands around the value, which is read without it. -/
def underTag (bare : Bool) (tag : Option (List Char)) (value? : Bool → Option Value) :
    Option Value :=
  match if bare then none else localTag? tag with
  | none => value? bare
  | some tag => (value? true).map (.tagged tag)

mutual

/-- The value of a node; the tag of one that is `bare` is left out. Keys are bare in a mapping with
a local tag. -/
def Node.value? : Node → Bool → Option Value
  | .scalar tag text style, bare =>
      underTag bare tag fun bare =>
        (scalarValue (if bare then none else tag) text style).toOption
  | .sequence tag items, bare =>
      underTag bare tag fun _ => (itemValues? items).map .sequence
  | .mapping tag entries, bare =>
      underTag bare tag fun bare => (entryValues? entries bare).map .mapping
  | .copy node, _ => node.value? false

def itemValues? : List Node → Option (List Value)
  | [] => some []
  | item :: items => do
      let value ← item.value? false
      let values ← itemValues? items
      return value :: values

def entryValues? : List (Node × Node) → Bool → Option (List (Value × Value))
  | [], _ => some []
  | (key, value) :: entries, bare => do
      let keyValue ← key.value? bare
      let value ← value.value? false
      let values ← entryValues? entries bare
      return (keyValue, value) :: values

end

namespace Node

/-- The node itself, where another mention of it is met. -/
def original : Node → Node
  | .copy node => node.original
  | node => node

def get? (node : Node) (name : String) : Option Node :=
  match node.original with
  | .mapping tag entries =>
      let bare := (localTag? tag).isSome
      (entries.find? fun entry => (entry.1.value? bare).any (·.isKey name)).map (·.2.original)
  | _ => none

end Node

variable {graph : Graph} {fuel position : Nat}

/-- What is read with this much fuel is read with one more as well. -/
structure KeepsReadings (graph : Graph) (fuel : Nat) : Prop where
  node {position read} (hfound : nodeAt graph fuel position = some read) :
    nodeAt graph (fuel + 1) position = some read
  items {position read} (hfound : itemsAt graph fuel position = some read) :
    itemsAt graph (fuel + 1) position = some read
  entries {position read} (hfound : entriesAt graph fuel position = some read) :
    entriesAt graph (fuel + 1) position = some read

namespace KeepsReadings

variable (hkeeps : KeepsReadings graph fuel)
include hkeeps

theorem node_succ {read : Node × Nat} (hfound : nodeAt graph (fuel + 1) position = some read) :
    nodeAt graph (fuel + 2) position = some read := by
  rw [nodeAt] at hfound ⊢
  split at hfound
  · simp only [Option.bind_eq_bind, Option.bind_eq_some_iff] at hfound ⊢
    obtain ⟨target, htarget, inner, hinner, hresult⟩ := hfound
    exact ⟨target, htarget, inner, hkeeps.node hinner, hresult⟩
  · exact hfound
  · simp only [Option.bind_eq_bind, Option.bind_eq_some_iff] at hfound ⊢
    obtain ⟨inner, hinner, hresult⟩ := hfound
    exact ⟨inner, hkeeps.items hinner, hresult⟩
  · simp only [Option.bind_eq_bind, Option.bind_eq_some_iff] at hfound ⊢
    obtain ⟨inner, hinner, hresult⟩ := hfound
    exact ⟨inner, hkeeps.entries hinner, hresult⟩
  · cases hfound

theorem items_succ {read : List Node × Nat}
    (hfound : itemsAt graph (fuel + 1) position = some read) :
    itemsAt graph (fuel + 2) position = some read := by
  rw [itemsAt] at hfound ⊢
  split at hfound
  case isTrue hends => rw [if_pos hends, hfound]
  case isFalse hgoesOn =>
    rw [if_neg hgoesOn]
    simp only [Option.bind_eq_bind, Option.bind_eq_some_iff] at hfound ⊢
    obtain ⟨first, hfirst, rest, hrest, hresult⟩ := hfound
    exact ⟨first, hkeeps.node hfirst, rest, hkeeps.items hrest, hresult⟩

theorem entries_succ {read : List (Node × Node) × Nat}
    (hfound : entriesAt graph (fuel + 1) position = some read) :
    entriesAt graph (fuel + 2) position = some read := by
  rw [entriesAt] at hfound ⊢
  split at hfound
  case isTrue hends => rw [if_pos hends, hfound]
  case isFalse hgoesOn =>
    rw [if_neg hgoesOn]
    simp only [Option.bind_eq_bind, Option.bind_eq_some_iff] at hfound ⊢
    obtain ⟨key, hkey, value, hvalue, rest, hrest, hresult⟩ := hfound
    exact ⟨key, hkeeps.node hkey, value, hkeeps.node hvalue, rest, hkeeps.entries hrest, hresult⟩

end KeepsReadings

theorem keepsReadings (graph : Graph) (fuel : Nat) : KeepsReadings graph fuel := by
  induction fuel with
  | zero => exact ⟨(nomatch ·), (nomatch ·), (nomatch ·)⟩
  | succ fuel ih => exact ⟨ih.node_succ, ih.items_succ, ih.entries_succ⟩

/-! What a step of the composition does. -/

variable {depth : Nat} {path : ValuePath} {bare : Bool} {place behind : Place}

def Event.Kind.tag? : Event.Kind → Option (List Char)
  | .scalar properties .. => properties.tag
  | .sequenceStart properties => properties.tag
  | .mappingStart properties => properties.tag
  | _ => none

inductive Composed (graph : Graph) (fuel : Nat) (bare : Bool) (place : Place) :
    Event.Kind → Value → Place → Prop
  | copy {name target copies depth path value final}
      (hfound : graph.target? place.position = some target)
      (hcomposed : composeNode graph fuel depth path false ⟨target, copies⟩ = .ok (value, final)) :
      Composed graph fuel bare place (.aliasOf name) value ⟨place.position + 1, final.copies⟩
  | tagged {kind tag depth path value behind} (hnotBare : bare = false)
      (htag : localTag? kind.tag? = some tag)
      (hcomposed : composeNode graph fuel depth path true place = .ok (value, behind)) :
      Composed graph fuel bare place kind (.tagged tag value) behind
  | scalar {properties text style value}
      (hnoTag : (if bare then none else localTag? properties.tag) = none)
      (hreads : scalarValue (if bare then none else properties.tag) text style = .ok value) :
      Composed graph fuel bare place (.scalar properties text style) value place.next
  | sequence {properties depth path items behind}
      (hnoTag : (if bare then none else localTag? properties.tag) = none)
      (hcomposed : composeItems graph fuel depth path 0 place.next = .ok (items, behind)) :
      Composed graph fuel bare place (.sequenceStart properties) (.sequence items) behind
  | mapping {properties depth path start entries behind}
      (hnoTag : (if bare then none else localTag? properties.tag) = none)
      (hcomposed : composeEntries graph fuel depth path bare start [] place.next =
        .ok (entries, behind)) :
      Composed graph fuel bare place (.mappingStart properties) (.mapping entries) behind

theorem Composed.of_bind (kind : Event.Kind) {tag : String} {value : Value}
    {next : Value × Place → Except ReadError (Value × Place)}
    (htag : (if bare then none else localTag? kind.tag?) = some tag)
    (hnext : ∀ inner, next inner = .ok (.tagged tag inner.1, inner.2))
    (h : composeNode graph fuel depth path true place >>= next = .ok (value, behind)) :
    Composed graph fuel bare place kind value behind := by
  obtain ⟨inner, hinner, hresult⟩ := Except.bind_eq_ok_iff.mp h
  cases (hnext inner).symm.trans hresult
  rw [ite_eq_iff] at htag
  simp only [reduceCtorEq, and_false, false_or] at htag
  exact .tagged (Bool.not_eq_true _ ▸ htag.1) htag.2 hinner

theorem composed_of_composeNode {value : Value}
    (h : composeNode graph (fuel + 1) depth path bare place = .ok (value, behind)) :
    ∃ kind, (graph.events[place.position]?).map Event.kind = some kind ∧
      Composed graph fuel bare place kind value behind := by
  rw [composeNode] at h
  split at h
  · cases h
  case h_2 event hevent =>
    refine ⟨event.kind, by rw [hevent]; rfl, ?_⟩
    dsimp only at h
    split at h
    case h_1 name hkind =>
      rw [hkind]
      split at h
      · cases h
      · split at h
        · cases h
        case h_2 target hfound =>
          obtain ⟨⟨inner, innerBehind⟩, hinner, hresult⟩ := Except.bind_eq_ok_iff.mp h
          cases hresult
          exact .copy hfound hinner
    case h_2 properties text style hkind =>
      rw [hkind]
      split at h
      case h_1 hnoTag =>
        split at h
        case h_1 value hreads =>
          cases h
          exact .scalar hnoTag hreads
        case h_2 => cases h
      case h_2 tag htag =>
        exact .of_bind (.scalar properties text style) htag (fun _ => rfl) h
    case h_3 properties hkind =>
      rw [hkind]
      split at h
      case h_1 hnoTag =>
        split at h
        · cases h
        · obtain ⟨⟨items, final⟩, hitems, hresult⟩ := Except.bind_eq_ok_iff.mp h
          cases hresult
          exact .sequence hnoTag hitems
      case h_2 tag htag =>
        exact .of_bind (.sequenceStart properties) htag (fun _ => rfl) h
    case h_4 properties hkind =>
      rw [hkind]
      split at h
      case h_1 hnoTag =>
        split at h
        · cases h
        · obtain ⟨⟨entries, final⟩, hentries, hresult⟩ := Except.bind_eq_ok_iff.mp h
          cases hresult
          exact .mapping hnoTag hentries
      case h_2 tag htag =>
        exact .of_bind (.mappingStart properties) htag (fun _ => rfl) h
    case h_5 => cases h

theorem underTag_none {tag : Option (List Char)} {value? : Bool → Option Value}
    (hnoTag : (if bare then none else localTag? tag) = none) :
    underTag bare tag value? = value? bare := by
  rw [underTag, hnoTag]

theorem underTag_some {tag : Option (List Char)} {name : String} {value? : Bool → Option Value}
    (htag : localTag? tag = some name) :
    underTag false tag value? = (underTag true tag value?).map (.tagged name) := by
  simp [underTag, htag]

theorem value?_tagged {position final : Nat} {kind : Event.Kind} {tag : String} {node : Node}
    (hkind : (graph.events[position]?).map Event.kind = some kind)
    (htag : localTag? kind.tag? = some tag)
    (hfound : nodeAt graph fuel position = some (node, final)) :
    node.value? false = (node.value? true).map (.tagged tag) := by
  cases fuel with
  | zero => cases hfound
  | succ fuel =>
      rw [nodeAt, hkind] at hfound
      cases kind with
      | scalar properties text style =>
          cases hfound
          exact underTag_some htag
      | sequenceStart properties =>
          simp only [Option.bind_eq_bind, Option.bind_eq_some_iff] at hfound
          obtain ⟨items, -, hresult⟩ := hfound
          cases hresult
          exact underTag_some htag
      | mappingStart properties =>
          simp only [Option.bind_eq_bind, Option.bind_eq_some_iff] at hfound
          obtain ⟨entries, -, hresult⟩ := hfound
          cases hresult
          exact underTag_some htag
      | aliasOf => cases htag
      | documentStart => cases hfound
      | documentEnd => cases hfound
      | sequenceEnd => cases hfound
      | mappingEnd => cases hfound

/-- With this much fuel, what is composed is what the nodes at its place mean. -/
structure NodesAgree (graph : Graph) (fuel : Nat) : Prop where
  node {depth path bare place value behind}
    (h : composeNode graph fuel depth path bare place = .ok (value, behind)) :
    ∃ node, nodeAt graph fuel place.position = some (node, behind.position) ∧
      node.value? bare = some value
  items {depth path index place values behind}
    (h : composeItems graph fuel depth path index place = .ok (values, behind)) :
    ∃ items, itemsAt graph fuel place.position = some (items, behind.position) ∧
      itemValues? items = some values
  entries {depth path bare start known place values behind}
    (h : composeEntries graph fuel depth path bare start known place = .ok (values, behind)) :
    ∃ entries, entriesAt graph fuel place.position = some (entries, behind.position) ∧
      entryValues? entries bare = some values

namespace NodesAgree

variable (hagree : NodesAgree graph fuel)
include hagree

theorem node_succ {value : Value}
    (h : composeNode graph (fuel + 1) depth path bare place = .ok (value, behind)) :
    ∃ node, nodeAt graph (fuel + 1) place.position = some (node, behind.position) ∧
      node.value? bare = some value := by
  obtain ⟨kind, hkind, hcomposed⟩ := composed_of_composeNode h
  cases hcomposed with
  | copy hfound hcomposed =>
      obtain ⟨inner, hinner, hmeaning⟩ := hagree.node hcomposed
      refine ⟨.copy inner, ?_, hmeaning⟩
      rw [nodeAt, hkind]
      simp [hfound, hinner]
  | tagged hnotBare htag hcomposed =>
      obtain ⟨inner, hinner, hmeaning⟩ := hagree.node hcomposed
      refine ⟨inner, (keepsReadings graph fuel).node hinner, ?_⟩
      rw [hnotBare, value?_tagged hkind htag hinner, hmeaning]
      rfl
  | scalar hnoTag hreads =>
      refine ⟨_, by rw [nodeAt, hkind]; rfl, ?_⟩
      rw [Node.value?, underTag_none hnoTag, hreads]
      rfl
  | sequence hnoTag hcomposed =>
      obtain ⟨inner, hinner, hmeaning⟩ := hagree.items hcomposed
      have hinner : itemsAt graph fuel (_ + 1) = _ := hinner
      refine ⟨.sequence _ inner, by rw [nodeAt, hkind]; simp [hinner]; rfl, ?_⟩
      rw [Node.value?, underTag_none hnoTag, hmeaning]
      rfl
  | mapping hnoTag hcomposed =>
      obtain ⟨inner, hinner, hmeaning⟩ := hagree.entries hcomposed
      have hinner : entriesAt graph fuel (_ + 1) = _ := hinner
      refine ⟨.mapping _ inner, by rw [nodeAt, hkind]; simp [hinner]; rfl, ?_⟩
      rw [Node.value?, underTag_none hnoTag, hmeaning]
      rfl

theorem items_succ {index : Nat} {values : List Value}
    (h : composeItems graph (fuel + 1) depth path index place = .ok (values, behind)) :
    ∃ items, itemsAt graph (fuel + 1) place.position = some (items, behind.position) ∧
      itemValues? items = some values := by
  rw [composeItems] at h
  split at h
  case h_1 => cases h
  case h_2 hends =>
    cases h
    exact ⟨[], by rw [itemsAt, if_pos hends]; rfl, rfl⟩
  case h_3 kind hgoesOn hkind =>
    obtain ⟨⟨value, between⟩, hvalue, h⟩ := Except.bind_eq_ok_iff.mp h
    obtain ⟨⟨values, final⟩, hvalues, hresult⟩ := Except.bind_eq_ok_iff.mp h
    cases hresult
    obtain ⟨first, hfirst, hfirstMeaning⟩ := hagree.node hvalue
    obtain ⟨rest, hrest, hrestMeaning⟩ := hagree.items hvalues
    refine ⟨first :: rest, ?_, by simp [itemValues?, hfirstMeaning, hrestMeaning]⟩
    rw [itemsAt, hkind, if_neg (fun hends => hgoesOn (Option.some.inj hends))]
    simp [hfirst, hrest]

theorem entries_succ {start : Mark} {known : List Value} {values : List (Value × Value)}
    (h : composeEntries graph (fuel + 1) depth path bare start known place =
      .ok (values, behind)) :
    ∃ entries, entriesAt graph (fuel + 1) place.position = some (entries, behind.position) ∧
      entryValues? entries bare = some values := by
  rw [composeEntries] at h
  split at h
  case h_1 => cases h
  case h_2 hends =>
    cases h
    exact ⟨[], by rw [entriesAt, if_pos hends]; rfl, rfl⟩
  case h_3 kind hgoesOn hkind =>
    obtain ⟨⟨keyValue, behindKey⟩, hkey, h⟩ := Except.bind_eq_ok_iff.mp h
    dsimp only at h
    split at h
    · cases h
    obtain ⟨-, -, h⟩ := Except.bind_eq_ok_iff.mp h
    obtain ⟨⟨value, between⟩, hvalue, h⟩ := Except.bind_eq_ok_iff.mp h
    obtain ⟨⟨values, final⟩, hvalues, hresult⟩ := Except.bind_eq_ok_iff.mp h
    cases hresult
    obtain ⟨key, hkeyAt, hkeyMeaning⟩ := hagree.node hkey
    obtain ⟨first, hfirst, hfirstMeaning⟩ := hagree.node hvalue
    obtain ⟨rest, hrest, hrestMeaning⟩ := hagree.entries hvalues
    refine ⟨(key, first) :: rest, ?_, by
      simp [entryValues?, hkeyMeaning, hfirstMeaning, hrestMeaning]⟩
    rw [entriesAt, hkind, if_neg (fun hends => hgoesOn (Option.some.inj hends))]
    simp [hkeyAt, hfirst, hrest]

end NodesAgree

theorem nodesAgree (graph : Graph) (fuel : Nat) : NodesAgree graph fuel := by
  induction fuel with
  | zero =>
      refine ⟨fun h => ?_, fun h => ?_, fun h => ?_⟩
      · rw [composeNode] at h
        cases h
      · rw [composeItems] at h
        cases h
      · rw [composeEntries] at h
        cases h
  | succ fuel ih => exact ⟨ih.node_succ, ih.items_succ, ih.entries_succ⟩

namespace Node

@[simp] theorem value?_original (node : Node) :
    node.original.value? false = node.value? false := by
  induction node using Node.original.induct with
  | case1 node ih => rw [original, ih, value?]
  | case2 node hother =>
      rw [original]
      exact hother

theorem mapping?_of_value? {tag : Option (List Char)} {entries : List (Node × Node)}
    {value : Value} (hmeaning : (Node.mapping tag entries).value? false = some value) :
    ∃ values, entryValues? entries (localTag? tag).isSome = some values ∧
      value.mapping? = some values := by
  cases htag : localTag? tag with
  | none =>
      rw [value?, underTag_none (by simpa using htag)] at hmeaning
      obtain ⟨values, hvalues, rfl⟩ := Option.map_eq_some_iff.mp hmeaning
      exact ⟨values, hvalues, rfl⟩
  | some name =>
      rw [value?, underTag_some htag, underTag_none rfl] at hmeaning
      obtain ⟨inner, hinner, rfl⟩ := Option.map_eq_some_iff.mp hmeaning
      obtain ⟨values, hvalues, rfl⟩ := Option.map_eq_some_iff.mp hinner
      exact ⟨values, hvalues, rfl⟩

theorem exists_entry?_of_find? {name : String} {bare : Bool} {entry : Node × Node} :
    ∀ {entries : List (Node × Node)} {values : List (Value × Value)},
      entryValues? entries bare = some values →
      (entries.find? fun entry => (entry.1.value? bare).any (·.isKey name)) = some entry →
      ∃ value, entry.2.value? false = some value ∧ Value.entry? values name = some value
  | [], _, _, hfound => by cases hfound
  | (key, node) :: entries, values, hmeaning, hfound => by
      simp only [entryValues?, Option.bind_eq_bind, Option.bind_eq_some_iff] at hmeaning
      obtain ⟨keyValue, hkey, value, hvalue, rest, hrest, hresult⟩ := hmeaning
      cases hresult
      by_cases hnamed : keyValue.isKey name
      · rw [List.find?_cons_of_pos (by simpa [hkey] using hnamed)] at hfound
        cases hfound
        exact ⟨value, hvalue, by simp [Value.entry?, hnamed]⟩
      · rw [List.find?_cons_of_neg (by simpa [hkey] using hnamed)] at hfound
        obtain ⟨child, hchild, hentry⟩ := exists_entry?_of_find? hrest hfound
        refine ⟨child, hchild, ?_⟩
        rw [Value.entry?] at hentry ⊢
        simpa [List.find?_cons, hnamed] using hentry

theorem exists_get?_of_get? {node child : Node} {value : Value} {name : String}
    (hmeaning : node.value? false = some value) (hfound : node.get? name = some child) :
    ∃ childValue, child.value? false = some childValue ∧ value.get? name = some childValue := by
  rw [← value?_original] at hmeaning
  unfold get? at hfound
  split at hfound
  case h_1 tag entries hshape =>
    rw [hshape] at hmeaning
    obtain ⟨values, hvalues, hmapping⟩ := mapping?_of_value? hmeaning
    obtain ⟨entry, hentry, rfl⟩ := Option.map_eq_some_iff.mp hfound
    obtain ⟨childValue, hchild, hvalue⟩ := exists_entry?_of_find? hvalues hentry
    refine ⟨childValue, by rw [value?_original, hchild], ?_⟩
    rw [Value.get?, hmapping, Option.bind_some, hvalue]
  case h_2 => cases hfound

end Node

def documentGraph (reading : Reading Event) : Graph :=
  let content := reading.items.takeWhile (!isDocumentEnd ·)
  let behind := reading.items.dropWhile (!isDocumentEnd ·)
  let failure := if behind = [] then reading.failure else none
  Graph.ofEvents {} failure (content.filter (·.kind ≠ .documentStart))

def Node.ofText (text : String) : Option Node :=
  let graph := documentGraph (Event.ofText text.toList)
  (nodeAt graph ((deepest + 2) * (graph.events.size + 4)) 0).map (·.1)

theorem exists_node_of_ofText {text : String} {value : Value}
    (h : Value.ofText text = .ok value) :
    value = .null ∨ ∃ node, Node.ofText text = some node ∧ node.value? false = some value := by
  unfold Value.ofText Value.ofEvents at h
  dsimp only at h
  rcases ite_eq_iff.mp h with ⟨-, hempty⟩ | ⟨-, h⟩
  · cases hempty
    exact .inl rfl
  · obtain ⟨⟨composed, behind⟩, hcomposed, h⟩ := Except.bind_eq_ok_iff.mp h
    dsimp only at h
    have hsame : composed = value := by
      split at h
      · cases h
      · split at h
        · cases h
          rfl
        · cases h
    subst hsame
    obtain ⟨node, hnode, hmeaning⟩ := (nodesAgree _ _).node hcomposed
    exact .inr ⟨node, by rw [Node.ofText]; exact congrArg (Option.map Prod.fst) hnode, hmeaning⟩

end CitationFile.Yaml
