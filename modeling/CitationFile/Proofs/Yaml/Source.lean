import CitationFile.Proofs.Yaml.Node
import CitationFile.Proofs.Yaml.Token

namespace CitationFile.Yaml

namespace Event

/-- If it is a plain scalar without gaps, its text is a part of the source. -/
def IsWritten (source : List Char) (event : Event) : Prop :=
  ∀ properties text, event.kind = .scalar properties text .plain →
    IsGapless text → text <:+: source

/-- What a goal yields and leaves is written in the source. -/
structure Step.Follows (source : List Char) (step : Step) : Prop where
  events : ∀ event ∈ step.events, event.IsWritten source
  tokens : ∀ token ∈ step.tokens, token.IsWritten source

variable {source : List Char} {token : Token} {tokens : List Token}

theorem isWritten_empty (properties : Properties) (mark : Mark) :
    IsWritten source ⟨.scalar properties [] .plain, mark⟩ := by
  intro properties text heq hgapless
  rw [← (Kind.scalar.inj heq).2.1]
  exact List.nil_infix

private theorem isWritten_other (kind : Kind)
    (hother : ∀ properties text, kind ≠ .scalar properties text .plain) (mark : Mark) :
    IsWritten source ⟨kind, mark⟩ :=
  fun properties text heq => absurd heq (hother properties text)

private theorem isWritten_scalar (hwritten : token.IsWritten source) {text : List Char}
    {style : ScalarStyle} (hkind : token.kind = .scalar text style) (properties : Properties)
    (mark : Mark) : IsWritten source ⟨.scalar properties text style, mark⟩ := by
  intro properties other heq hgapless
  obtain ⟨-, rfl, rfl⟩ := Kind.scalar.inj heq
  exact (hwritten text hkind hgapless).isInfix.trans (List.drop_suffix _ _).isInfix

section Goals

variable (hwritten : ∀ token ∈ tokens, token.IsWritten source)
include hwritten

private theorem peek_follows : (peek tokens).Ensures fun read =>
    read.1.IsWritten source ∧ ∀ token ∈ read.2, token.IsWritten source := by
  unfold peek
  split
  · exact Except.ensures_error
  · exact Except.ensures_ok (List.forall_mem_cons.mp hwritten)

private theorem readDirectives_follows (handles : Handles) (versioned : Bool) :
    (readDirectives handles versioned tokens).Ensures fun read =>
      ∀ token ∈ read.2, token.IsWritten source := by
  induction tokens generalizing handles versioned with
  | nil => exact Except.ensures_error
  | cons token rest ih =>
      have hlater := (List.forall_mem_cons.mp hwritten).2
      unfold readDirectives
      split
      · exact .ite Except.ensures_error (.ite Except.ensures_error (ih hlater _ _))
      · exact .ite Except.ensures_error (ih hlater _ _)
      · exact Except.ensures_ok hwritten

private theorem readProperties_follows (fuel : Nat) (reading : PropertyReading) :
    (readProperties fuel reading tokens).Ensures fun read =>
      read.2.1.IsWritten source ∧ ∀ token ∈ read.2.2, token.IsWritten source := by
  induction fuel generalizing reading tokens with
  | zero => exact Except.ensures_error
  | succ fuel ih =>
      cases tokens with
      | nil => exact Except.ensures_error
      | cons token rest =>
          obtain ⟨hfirst, hlater⟩ := List.forall_mem_cons.mp hwritten
          unfold readProperties
          split
          · exact ih hlater _
          · exact Except.ensures_ok ⟨hfirst, hlater⟩

private theorem Step.ensures_tokens (goals : List Goal) (handles : Handles) :
    (.ok ⟨[], goals, tokens, handles⟩ : Except Stop Step).Ensures (·.Follows source) :=
  Except.ensures_ok ⟨by simp, hwritten⟩

private theorem Step.ensures_event {event : Event} (hwrittenEvent : event.IsWritten source)
    (goals : List Goal) (handles : Handles) :
    (.ok ⟨[event], goals, tokens, handles⟩ : Except Stop Step).Ensures (·.Follows source) :=
  Except.ensures_ok ⟨by simpa using hwrittenEvent, hwritten⟩

private theorem startDocument_follows (explicit : Bool) :
    (startDocument explicit tokens).Ensures (·.Follows source) := by
  have hwritten : ∀ token ∈ (if explicit then tokens.dropWhile (·.kind = .documentEnd)
      else tokens), token.IsWritten source := by
    split
    · exact fun token hmem => hwritten token ((List.dropWhile_sublist _).mem hmem)
    · exact hwritten
  unfold startDocument
  dsimp only
  generalize (if explicit then tokens.dropWhile (·.kind = .documentEnd) else tokens) =
    tokens at hwritten ⊢
  refine Except.Ensures.bind (peek_follows hwritten) fun first hspec => ?_
  refine .ite (Step.ensures_tokens hwritten _ _) ?_
  refine Except.Ensures.bind (readDirectives_follows hwritten _ _) fun directives hlater => ?_
  refine Except.Ensures.bind (peek_follows hlater) fun next hspec => ?_
  have hopens : IsWritten source ⟨.documentStart, first.1.start⟩ := fun _ _ heq => nomatch heq
  refine .ite (Step.ensures_event hspec.2 hopens _ _) ?_
  exact .ite Except.ensures_error (Step.ensures_event hwritten hopens _ _)

private theorem documentContent_follows (handles : Handles) :
    (documentContent handles tokens).Ensures (·.Follows source) := by
  refine Except.Ensures.bind (peek_follows hwritten) fun first hspec => ?_
  have hmissing : IsWritten source (emptyScalar first.1.start) := isWritten_empty {} _
  dsimp only
  split
  case h_6 => exact Step.ensures_tokens hwritten _ _
  all_goals exact Step.ensures_event hwritten hmissing _ _

private theorem endDocument_follows : (endDocument tokens).Ensures (·.Follows source) := by
  refine Except.Ensures.bind (peek_follows hwritten) fun first hspec => ?_
  have hends : IsWritten source ⟨.documentEnd, first.1.start⟩ := fun _ _ heq => nomatch heq
  refine Step.ensures_event ?_ hends _ _
  split
  · exact hspec.2
  · exact hwritten

omit hwritten in
private theorem contentMissing_follows (block : Bool) (handles : Handles) (properties : Properties)
    (start : Mark) (bare : Option Mark) {rest : List Token}
    (hlater : ∀ other ∈ token :: rest, other.IsWritten source) :
    (node.contentMissing block handles properties start token rest bare).Ensures
      (·.Follows source) :=
  .ite (Step.ensures_event hlater (isWritten_empty _ _) _ _)
    Except.ensures_error

private theorem node_follows (block indentless : Bool) (handles : Handles) :
    (node block indentless handles tokens).Ensures (·.Follows source) := by
  refine Except.Ensures.bind (readProperties_follows hwritten _ _) fun read hspec => ?_
  obtain ⟨reading, token, rest⟩ := read
  obtain ⟨hfirst, hlater⟩ := hspec
  have hboth : ∀ other ∈ token :: rest, other.IsWritten source :=
    List.forall_mem_cons.mpr ⟨hfirst, hlater⟩
  refine Except.ensures_bind fun tag => ?_
  dsimp only at hfirst hlater ⊢
  split
  · exact Step.ensures_event hlater (isWritten_other (.aliasOf _) (fun _ _ => nofun) _) _ _
  · refine .ite ?_ (contentMissing_follows _ _ _ _ _ hboth)
    exact Step.ensures_event hboth (isWritten_other (.sequenceStart _) (fun _ _ => nofun) _) _ _
  case h_3 _ _ text style hkind =>
    exact Step.ensures_event hlater (isWritten_scalar hfirst hkind _ _) _ _
  · exact Step.ensures_event hlater (isWritten_other (.sequenceStart _) (fun _ _ => nofun) _) _ _
  · exact Step.ensures_event hlater (isWritten_other (.mappingStart _) (fun _ _ => nofun) _) _ _
  · refine .ite ?_ (contentMissing_follows _ _ _ _ _ hboth)
    exact Step.ensures_event hlater (isWritten_other (.sequenceStart _) (fun _ _ => nofun) _) _ _
  · refine .ite ?_ (contentMissing_follows _ _ _ _ _ hboth)
    exact Step.ensures_event hlater (isWritten_other (.mappingStart _) (fun _ _ => nofun) _) _ _
  · exact contentMissing_follows _ _ _ _ _ hboth

private theorem nodeOrEmpty_follows (goal : Goal) (stops : Token.Kind → Bool) (mark : Mark)
    (next : Goal) (handles : Handles) :
    (nodeOrEmpty goal stops mark next handles tokens).Ensures (·.Follows source) := by
  refine Except.Ensures.bind (peek_follows hwritten) fun first hspec => ?_
  refine .ite (Step.ensures_event hwritten (isWritten_empty _ _) _ _) ?_
  exact Step.ensures_tokens hwritten _ _

private theorem blockEntry_follows (start : Mark) (handles : Handles) :
    (blockEntry start handles tokens).Ensures (·.Follows source) := by
  refine Except.Ensures.bind (peek_follows hwritten) fun first hspec => ?_
  dsimp only
  split
  · exact nodeOrEmpty_follows hspec.2 _ _ _ _ _
  · exact Step.ensures_event hspec.2 (isWritten_other .sequenceEnd (fun _ _ => nofun) _) _ _
  · exact Except.ensures_error

private theorem indentlessEntry_follows (handles : Handles) :
    (indentlessEntry handles tokens).Ensures (·.Follows source) := by
  refine Except.Ensures.bind (peek_follows hwritten) fun first hspec => ?_
  dsimp only
  split
  · exact nodeOrEmpty_follows hspec.2 _ _ _ _ _
  · exact Step.ensures_event hwritten (isWritten_other .sequenceEnd (fun _ _ => nofun) _) _ _

private theorem blockKey_follows (start : Mark) (handles : Handles) :
    (blockKey start handles tokens).Ensures (·.Follows source) := by
  refine Except.Ensures.bind (peek_follows hwritten) fun first hspec => ?_
  dsimp only
  split
  · exact nodeOrEmpty_follows hspec.2 _ _ _ _ _
  · exact Step.ensures_event hspec.2 (isWritten_other .mappingEnd (fun _ _ => nofun) _) _ _
  · exact Except.ensures_error

private theorem blockValue_follows (start : Mark) (handles : Handles) :
    (blockValue start handles tokens).Ensures (·.Follows source) := by
  refine Except.Ensures.bind (peek_follows hwritten) fun first hspec => ?_
  dsimp only
  split
  · exact nodeOrEmpty_follows hspec.2 _ _ _ _ _
  · exact Step.ensures_event hwritten (isWritten_empty _ _) _ _

private theorem skipComma_follows (first : Bool) (defect : Defect) (activity : Activity)
    (start : Mark) :
    (skipComma first defect activity start tokens).Ensures fun read =>
      read.1.IsWritten source ∧ ∀ token ∈ read.2, token.IsWritten source := by
  refine Except.Ensures.bind (peek_follows hwritten) fun read hspec => ?_
  exact .ite (Except.ensures_ok hspec) (.ite (peek_follows hspec.2) Except.ensures_error)

private theorem flowEntry_follows (start : Mark) (first : Bool) (handles : Handles) :
    (flowEntry start first handles tokens).Ensures (·.Follows source) := by
  have hends (mark : Mark) : IsWritten source ⟨.sequenceEnd, mark⟩ :=
    isWritten_other .sequenceEnd (fun _ _ => nofun) mark
  refine Except.Ensures.bind (peek_follows hwritten) fun opening hspec => ?_
  refine .ite (Step.ensures_event hspec.2 (hends _) _ _) ?_
  refine Except.Ensures.bind (skipComma_follows hwritten _ _ _ _) fun read hspec => ?_
  dsimp only
  split
  · exact Step.ensures_event hspec.2 (isWritten_other (.mappingStart _) (fun _ _ => nofun) _) _ _
  · exact Step.ensures_event hspec.2 (hends _) _ _
  · exact Step.ensures_tokens (List.forall_mem_cons.mpr hspec) _ _

private theorem pairKey_follows (handles : Handles) :
    (pairKey handles tokens).Ensures (·.Follows source) := by
  refine Except.Ensures.bind (peek_follows hwritten) fun first hspec => ?_
  exact .ite (Step.ensures_event hspec.2 (isWritten_empty _ _) _ _)
    (Step.ensures_tokens hwritten _ _)

private theorem pairValue_follows (handles : Handles) :
    (pairValue handles tokens).Ensures (·.Follows source) := by
  refine Except.Ensures.bind (peek_follows hwritten) fun first hspec => ?_
  refine .ite ?_ (Step.ensures_event hwritten (isWritten_empty _ _) _ _)
  refine Except.ensures_bind fun next => ?_
  exact .ite (Step.ensures_event hspec.2 (isWritten_empty _ _) _ _)
    (Step.ensures_tokens hspec.2 _ _)

private theorem pairEnd_follows (handles : Handles) :
    (pairEnd handles tokens).Ensures (·.Follows source) :=
  Except.ensures_bind fun _ =>
    Step.ensures_event hwritten (isWritten_other .mappingEnd (fun _ _ => nofun) _) _ _

private theorem flowKey_follows (start : Mark) (first : Bool) (handles : Handles) :
    (flowKey start first handles tokens).Ensures (·.Follows source) := by
  have hends (mark : Mark) : IsWritten source ⟨.mappingEnd, mark⟩ :=
    isWritten_other .mappingEnd (fun _ _ => nofun) mark
  refine Except.Ensures.bind (peek_follows hwritten) fun opening hspec => ?_
  refine .ite (Step.ensures_event hspec.2 (hends _) _ _) ?_
  refine Except.Ensures.bind (skipComma_follows hwritten _ _ _ _) fun read hspec => ?_
  dsimp only
  split
  · refine Except.ensures_bind fun next => ?_
    exact .ite (Step.ensures_event hspec.2 (isWritten_empty _ _) _ _)
      (Step.ensures_tokens hspec.2 _ _)
  · exact Step.ensures_event hspec.2 (hends _) _ _
  · exact Step.ensures_tokens (List.forall_mem_cons.mpr hspec) _ _

private theorem flowValue_follows (handles : Handles) :
    (flowValue handles tokens).Ensures (·.Follows source) := by
  refine Except.Ensures.bind (peek_follows hwritten) fun first hspec => ?_
  refine .ite ?_ (Step.ensures_event hwritten (isWritten_empty _ _) _ _)
  refine Except.ensures_bind fun next => ?_
  exact .ite (Step.ensures_event hspec.2 (isWritten_empty _ _) _ _)
    (Step.ensures_tokens hspec.2 _ _)

private theorem flowValueMissing_follows (handles : Handles) :
    (flowValueMissing handles tokens).Ensures (·.Follows source) :=
  Except.ensures_bind fun _ =>
    Step.ensures_event hwritten (isWritten_empty _ _) _ _

private theorem pursue_follows (handles : Handles) (goal : Goal) :
    (pursue handles tokens goal).Ensures (·.Follows source) := by
  cases goal with
  | documentStart => exact startDocument_follows hwritten _
  | documentContent => exact documentContent_follows hwritten _
  | documentEnd => exact endDocument_follows hwritten
  | node => exact node_follows hwritten _ _ _
  | blockEntry => exact blockEntry_follows hwritten _ _
  | indentlessEntry => exact indentlessEntry_follows hwritten _
  | blockKey => exact blockKey_follows hwritten _ _
  | blockValue => exact blockValue_follows hwritten _ _
  | flowEntry => exact flowEntry_follows hwritten _ _ _
  | pairKey => exact pairKey_follows hwritten _
  | pairValue => exact pairValue_follows hwritten _
  | pairEnd => exact pairEnd_follows hwritten _
  | flowKey => exact flowKey_follows hwritten _ _ _
  | flowValue => exact flowValue_follows hwritten _
  | flowValueMissing => exact flowValueMissing_follows hwritten _

end Goals

private theorem isWritten_of_mem_run {failure : Option Malformed} (fuel : Nat) {handles : Handles}
    {goals : List Goal} (hwritten : ∀ token ∈ tokens, token.IsWritten source) :
    ∀ event ∈ (run failure fuel handles tokens goals).items, event.IsWritten source := by
  induction fuel generalizing handles tokens goals with
  | zero => simp [run]
  | succ fuel ih =>
      cases goals with
      | nil => simp [run]
      | cons goal goals =>
          unfold run
          split
          · simp
          · simp
          case h_3 step hstep =>
            have hfollows := pursue_follows hwritten handles goal step hstep
            exact List.forall_mem_append.mpr ⟨hfollows.events, ih hfollows.tokens⟩

private theorem isWritten_of_mem_ofText :
    ∀ event ∈ (Event.ofText source).items, event.IsWritten source :=
  isWritten_of_mem_run _ fun token hmem =>
    Token.isWritten_of_mem_ofText token (List.mem_of_mem_drop hmem)

end Event

/-! Nodes are made of the events, and so of what is written in the source. -/

variable {source : List Char} {graph : Graph}

/-- The texts of all plain scalars without gaps in a node are parts of the source. -/
inductive Node.IsWritten (source : List Char) : Node → Prop
  | scalar {tag text style}
      (hpart : style = .plain → IsGapless text → text <:+: source) :
      IsWritten source (.scalar tag text style)
  | sequence {tag items} (hall : ∀ item ∈ items, IsWritten source item) :
      IsWritten source (.sequence tag items)
  | mapping {tag entries} (hkeys : ∀ entry ∈ entries, IsWritten source entry.1)
      (hvalues : ∀ entry ∈ entries, IsWritten source entry.2) :
      IsWritten source (.mapping tag entries)
  | copy {node} (hinner : IsWritten source node) : IsWritten source (.copy node)

private theorem Graph.isWritten_add {event : Event} (hwritten : event.IsWritten source)
    (hevents : ∀ other ∈ graph.events, other.IsWritten source) :
    ∀ other ∈ (graph.add event).events, other.IsWritten source := by
  have hnamed : (graph.add event).events = graph.events.push event := by
    unfold add
    dsimp only
    split
    · rfl
    · rfl
  intro other hmem
  rw [hnamed] at hmem
  rcases Array.mem_push.mp hmem with hknown | rfl
  · exact hevents other hknown
  · exact hwritten

private theorem Graph.isWritten_ofEvents {failure : Option Malformed} {items : List Event}
    (hwritten : ∀ event ∈ items, event.IsWritten source)
    (hevents : ∀ event ∈ graph.events, event.IsWritten source) :
    ∀ event ∈ (graph.ofEvents failure items).events, event.IsWritten source := by
  induction items generalizing graph with
  | nil => exact hevents
  | cons event rest ih =>
      obtain ⟨hfirst, hlater⟩ := List.forall_mem_cons.mp hwritten
      have hadded := isWritten_add hfirst hevents
      unfold ofEvents
      split
      · split
        · exact hevents
        · exact ih hlater hadded
      · exact ih hlater hadded

/-- With this much fuel, all nodes that are read consist of parts of the source. -/
structure NodesWritten (source : List Char) (graph : Graph) (fuel : Nat) : Prop where
  node {position node behind} (hfound : nodeAt graph fuel position = some (node, behind)) :
    node.IsWritten source
  items {position items behind} (hfound : itemsAt graph fuel position = some (items, behind)) :
    ∀ item ∈ items, item.IsWritten source
  entries {position entries behind}
    (hfound : entriesAt graph fuel position = some (entries, behind)) :
    ∀ entry ∈ entries, entry.1.IsWritten source ∧ entry.2.IsWritten source

namespace NodesWritten

variable {fuel position behind : Nat} (hnodes : NodesWritten source graph fuel)
include hnodes

private theorem node_succ (hevents : ∀ event ∈ graph.events, event.IsWritten source) {node : Node}
    (hfound : nodeAt graph (fuel + 1) position = some (node, behind)) : node.IsWritten source := by
  rw [nodeAt] at hfound
  split at hfound
  · simp only [Option.bind_eq_bind, Option.bind_eq_some_iff] at hfound
    obtain ⟨target, -, ⟨inner, final⟩, hinner, hresult⟩ := hfound
    cases hresult
    exact .copy (hnodes.node hinner)
  case h_2 properties text style hkind =>
    cases hfound
    obtain ⟨event, hevent, hkind⟩ := Option.map_eq_some_iff.mp hkind
    refine .scalar fun hplain hgapless => ?_
    have hwritten := hevents event (Array.mem_of_getElem? hevent)
    exact hwritten properties text (hplain ▸ hkind) hgapless
  · simp only [Option.bind_eq_bind, Option.bind_eq_some_iff] at hfound
    obtain ⟨⟨inner, final⟩, hinner, hresult⟩ := hfound
    cases hresult
    exact .sequence (hnodes.items hinner)
  · simp only [Option.bind_eq_bind, Option.bind_eq_some_iff] at hfound
    obtain ⟨⟨inner, final⟩, hinner, hresult⟩ := hfound
    cases hresult
    exact .mapping (fun entry hmem => (hnodes.entries hinner entry hmem).1)
      fun entry hmem => (hnodes.entries hinner entry hmem).2
  · cases hfound

private theorem items_succ {items : List Node}
    (hfound : itemsAt graph (fuel + 1) position = some (items, behind)) :
    ∀ item ∈ items, item.IsWritten source := by
  rw [itemsAt] at hfound
  split at hfound
  · cases hfound
    simp
  · simp only [Option.bind_eq_bind, Option.bind_eq_some_iff] at hfound
    obtain ⟨⟨first, between⟩, hfirst, ⟨rest, final⟩, hrest, hresult⟩ := hfound
    cases hresult
    exact List.forall_mem_cons.mpr ⟨hnodes.node hfirst, hnodes.items hrest⟩

private theorem entries_succ {entries : List (Node × Node)}
    (hfound : entriesAt graph (fuel + 1) position = some (entries, behind)) :
    ∀ entry ∈ entries, entry.1.IsWritten source ∧ entry.2.IsWritten source := by
  rw [entriesAt] at hfound
  split at hfound
  · cases hfound
    simp
  · simp only [Option.bind_eq_bind, Option.bind_eq_some_iff] at hfound
    obtain ⟨⟨key, behindKey⟩, hkey, ⟨first, between⟩, hfirst, ⟨rest, final⟩, hrest,
      hresult⟩ := hfound
    cases hresult
    exact List.forall_mem_cons.mpr
      ⟨⟨hnodes.node hkey, hnodes.node hfirst⟩, hnodes.entries hrest⟩

end NodesWritten

private theorem nodesWritten (hevents : ∀ event ∈ graph.events, event.IsWritten source)
    (fuel : Nat) :
    NodesWritten source graph fuel := by
  induction fuel with
  | zero => exact ⟨(nomatch ·), (nomatch ·), (nomatch ·)⟩
  | succ fuel ih => exact ⟨ih.node_succ hevents, ih.items_succ, ih.entries_succ⟩

namespace Node

theorem isWritten_of_ofText {text : String} {node : Node} (hfound : ofText text = some node) :
    node.IsWritten text.toList := by
  unfold ofText at hfound
  obtain ⟨⟨root, behind⟩, hroot, rfl⟩ := Option.map_eq_some_iff.mp hfound
  refine (nodesWritten ?_ _).node hroot
  refine Graph.isWritten_ofEvents (fun event hmem => ?_) (by simp)
  have hcontent := (List.takeWhile_sublist _).mem (List.mem_filter.mp hmem).1
  exact Event.isWritten_of_mem_ofText event hcontent

private theorem IsWritten.original {node : Node} (hwritten : node.IsWritten source) :
    node.original.IsWritten source := by
  induction node using Node.original.induct with
  | case1 node ih =>
      cases hwritten with
      | copy hinner => exact ih hinner
  | case2 node hother =>
      rw [Node.original]
      · exact hwritten
      · exact hother

theorem IsWritten.get? {node child : Node} {name : String} (hwritten : node.IsWritten source)
    (hfound : node.get? name = some child) : child.IsWritten source := by
  have horiginal := hwritten.original
  unfold Node.get? at hfound
  split at hfound
  case h_1 tag entries hshape =>
    obtain ⟨entry, hentry, rfl⟩ := Option.map_eq_some_iff.mp hfound
    rw [hshape] at horiginal
    cases horiginal with
    | mapping hkeys hvalues => exact (hvalues entry (List.mem_of_find?_eq_some hentry)).original
  case h_2 => cases hfound

end Node

end CitationFile.Yaml
