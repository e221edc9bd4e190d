import CitationFile.Yaml.Token.Stream

/-! Events: the nodes of a YAML text in the order in which it shows them. The grammar is a list of
goals, of which the first is pursued: it looks at the next tokens, yields events and sets new goals
in its place. -/

namespace CitationFile.Yaml

structure Properties where
  anchor : Option (List Char) := none
  tag : Option (List Char) := none
deriving DecidableEq, Repr

namespace Event

inductive Kind where
  | documentStart
  | documentEnd
  | aliasOf (name : List Char)
  | scalar (properties : Properties) (text : List Char) (style : ScalarStyle)
  | sequenceStart (properties : Properties)
  | sequenceEnd
  | mappingStart (properties : Properties)
  | mappingEnd
deriving DecidableEq, Repr

end Event

structure Event where
  kind : Event.Kind
  mark : Mark
deriving DecidableEq, Repr

namespace Event

def emptyScalar (mark : Mark) : Event :=
  ⟨.scalar {} [] .plain, mark⟩

inductive Goal where
  | documentStart (explicit : Bool)
  | documentContent
  | documentEnd
  /-- A node; a block sequence as deep as the mapping around it has no tokens of its own. -/
  | node (block indentless : Bool)
  | blockEntry (start : Mark)
  | indentlessEntry
  | blockKey (start : Mark)
  | blockValue (start : Mark)
  | flowEntry (start : Mark) (first : Bool)
  | pairKey
  | pairValue
  | pairEnd
  | flowKey (start : Mark) (first : Bool)
  | flowValue
  | flowValueMissing
deriving DecidableEq, Repr

inductive Stop where
  | outOfTokens
  | malformed (flaw : Malformed)
deriving DecidableEq, Repr

abbrev Handles := List (List Char × List Char)

structure Step where
  events : List Event := []
  goals : List Goal := []
  tokens : List Token
  handles : Handles

def peek : List Token → Except Stop (Token × List Token)
  | [] => .error .outOfTokens
  | token :: rest => .ok (token, rest)

def unexpected (defect : Defect) (mark : Mark) (context : Option (Activity × Mark)) :
    Except Stop α :=
  .error (.malformed (.defect defect mark context))

def defaultHandles : Handles :=
  [(['!'], ['!']), ("!!".toList, "tag:yaml.org,2002:".toList)]

def addHandle (handles : Handles) (handle : List Char × List Char) : Handles :=
  if handles.any (·.1 = handle.1) then handles else handles ++ [handle]

def withDefaults (handles : Handles) : Handles :=
  defaultHandles.foldl addHandle handles

def readDirectives (handles : Handles) (versioned : Bool) :
    List Token → Except Stop (Handles × List Token)
  | [] => .error .outOfTokens
  | token :: rest =>
      match token.kind with
      | .versionDirective major minor =>
          if versioned then unexpected .duplicateVersionDirective token.start none
          else if major ≠ 1 ∨ (minor ≠ 1 ∧ minor ≠ 2) then
            unexpected .incompatibleVersion token.start none
          else readDirectives handles true rest
      | .tagDirective handle expansion =>
          if handles.any (·.1 = handle) then
            unexpected .duplicateTagDirective token.start none
          else readDirectives (handles ++ [(handle, expansion)]) versioned rest
      | _ => .ok (handles, token :: rest)

def isDirective : Token.Kind → Bool
  | .versionDirective .. | .tagDirective .. => true
  | _ => false

/-- An explicit document has directives or a mark before it; only the first can do without. -/
def startDocument (explicit : Bool) (tokens : List Token) : Except Stop Step := do
  let tokens := if explicit then tokens.dropWhile (·.kind = .documentEnd) else tokens
  let (token, _) ← peek tokens
  if token.kind = .streamEnd then return { tokens, handles := [] }
  else
    let (directives, behind) ← readDirectives [] false tokens
    let (next, rest) ← peek behind
    let handles := withDefaults directives
    let event : Event := ⟨.documentStart, token.start⟩
    if next.kind = .documentStart then
      return ⟨[event], [.documentContent, .documentEnd], rest, handles⟩
    else if explicit || isDirective token.kind then
      unexpected .documentStartMissing next.start none
    else return ⟨[event], [.node true false, .documentEnd], tokens, handles⟩

def documentContent (handles : Handles) (tokens : List Token) : Except Stop Step := do
  let (token, _) ← peek tokens
  match token.kind with
  | .versionDirective .. | .tagDirective .. | .documentStart | .documentEnd | .streamEnd =>
      return { events := [emptyScalar token.start], tokens, handles }
  | _ => return { goals := [.node true false], tokens, handles }

def endDocument (tokens : List Token) : Except Stop Step := do
  let (token, rest) ← peek tokens
  let behind := if token.kind = .documentEnd then rest else tokens
  return ⟨[⟨.documentEnd, token.start⟩], [.documentStart true], behind, []⟩

/-- Anchor and tag in either order, the mark of the first of them, and a tag's own mark. -/
structure PropertyReading where
  anchor : Option (List Char) := none
  tag : Option (List Char × List Char) := none
  tagMark : Mark := {}
  start : Option Mark := none

def readProperty (reading : PropertyReading) (token : Token) : Option PropertyReading :=
  match token.kind with
  | .anchorName name =>
      if reading.anchor.isSome then none
      else some { reading with
        anchor := some name, start := reading.start <|> some token.start }
  | .tag handle ending =>
      if reading.tag.isSome then none
      else some { reading with
        tag := some (handle, ending)
        tagMark := token.start
        start := reading.start <|> some token.start }
  | _ => none

def readProperties : Nat → PropertyReading → List Token →
    Except Stop (PropertyReading × Token × List Token)
  | 0, _, _ => .error .outOfTokens
  | _, _, [] => .error .outOfTokens
  | fuel + 1, reading, token :: rest =>
      match readProperty reading token with
      | some more => readProperties fuel more rest
      | none => .ok (reading, token, rest)

def resolveTag (handles : Handles) (reading : PropertyReading) (start : Mark) :
    Except Stop (Option (List Char)) :=
  match reading.tag with
  | none => .ok none
  | some ([], ending) => .ok (some ending)
  | some (handle, ending) =>
      match handles.find? (·.1 = handle) with
      | some (_, expansion) => .ok (some (expansion ++ ending))
      | none => unexpected .undefinedTagHandle reading.tagMark (some (.node, start))

def node (block indentless : Bool) (handles : Handles) (tokens : List Token) :
    Except Stop Step := do
  let (reading, token, rest) ← readProperties 3 {} tokens
  let start := reading.start.getD token.start
  let tag ← resolveTag handles reading start
  let properties : Properties := ⟨reading.anchor, tag⟩
  let opened (kind : Event.Kind) (goal : Goal) (tokens : List Token) : Step :=
    ⟨[⟨kind, start⟩], [goal], tokens, handles⟩
  match token.kind, reading.start with
  | .aliasName name, none => return ⟨[⟨.aliasOf name, start⟩], [], rest, handles⟩
  | .blockEntry, bare =>
      if indentless then
        return opened (.sequenceStart properties) .indentlessEntry (token :: rest)
      else contentMissing properties start token rest bare
  | .scalar text style, _ =>
      return ⟨[⟨.scalar properties text style, start⟩], [], rest, handles⟩
  | .flowSequenceStart, _ =>
      return opened (.sequenceStart properties) (.flowEntry token.start true) rest
  | .flowMappingStart, _ =>
      return opened (.mappingStart properties) (.flowKey token.start true) rest
  | .blockSequenceStart, bare =>
      if block then return opened (.sequenceStart properties) (.blockEntry token.start) rest
      else contentMissing properties start token rest bare
  | .blockMappingStart, bare =>
      if block then return opened (.mappingStart properties) (.blockKey token.start) rest
      else contentMissing properties start token rest bare
  | _, bare => contentMissing properties start token rest bare
where
  /-- Properties alone make an empty scalar. -/
  contentMissing (properties : Properties) (start : Mark) (token : Token) (rest : List Token)
      (bare : Option Mark) : Except Stop Step :=
    if bare.isSome then .ok ⟨[⟨.scalar properties [] .plain, start⟩], [], token :: rest, handles⟩
    else unexpected .nodeContentMissing token.start
      (some (if block then .blockNode else .flowNode, start))

/-! Collections in block style, whose ends have tokens of their own. -/

/-- A node, or an empty scalar at a mark if the next token is one of those that cannot start it. -/
def nodeOrEmpty (goal : Goal) (stops : Token.Kind → Bool) (mark : Mark) (next : Goal)
    (handles : Handles) (tokens : List Token) : Except Stop Step := do
  let (token, _) ← peek tokens
  if stops token.kind then return ⟨[emptyScalar mark], [next], tokens, handles⟩
  else return ⟨[], [goal, next], tokens, handles⟩

def endsEntry (kind : Token.Kind) : Bool :=
  kind = .blockEntry || kind = .blockEnd

def endsKeyOrValue (kind : Token.Kind) : Bool :=
  kind = .key || kind = .value || kind = .blockEnd

def blockEntry (start : Mark) (handles : Handles) (tokens : List Token) : Except Stop Step := do
  let (token, rest) ← peek tokens
  match token.kind with
  | .blockEntry =>
      nodeOrEmpty (.node true false) endsEntry token.finish (.blockEntry start) handles rest
  | .blockEnd => return ⟨[⟨.sequenceEnd, token.start⟩], [], rest, handles⟩
  | _ => unexpected .blockEntryMissing token.start (some (.blockCollection, start))

def indentlessEntry (handles : Handles) (tokens : List Token) : Except Stop Step := do
  let (token, rest) ← peek tokens
  match token.kind with
  | .blockEntry =>
      nodeOrEmpty (.node true false) (fun kind => endsEntry kind || endsKeyOrValue kind)
        token.finish .indentlessEntry handles rest
  | _ => return ⟨[⟨.sequenceEnd, token.start⟩], [], tokens, handles⟩

def blockKey (start : Mark) (handles : Handles) (tokens : List Token) : Except Stop Step := do
  let (token, rest) ← peek tokens
  match token.kind with
  | .key =>
      nodeOrEmpty (.node true true) endsKeyOrValue token.finish (.blockValue start) handles rest
  | .blockEnd => return ⟨[⟨.mappingEnd, token.start⟩], [], rest, handles⟩
  | _ => unexpected .blockKeyMissing token.start (some (.blockMapping, start))

def blockValue (start : Mark) (handles : Handles) (tokens : List Token) : Except Stop Step := do
  let (token, rest) ← peek tokens
  match token.kind with
  | .value =>
      nodeOrEmpty (.node true true) endsKeyOrValue token.finish (.blockKey start) handles rest
  | _ => return ⟨[emptyScalar token.start], [.blockKey start], tokens, handles⟩

/-! Collections in flow style, whose entries are parted by commas. -/

def skipComma (first : Bool) (defect : Defect) (activity : Activity) (start : Mark)
    (tokens : List Token) : Except Stop (Token × List Token) := do
  let (token, rest) ← peek tokens
  if first then return (token, rest)
  else if token.kind = .flowEntry then peek rest
  else unexpected defect token.start (some (activity, start))

def flowEntry (start : Mark) (first : Bool) (handles : Handles) (tokens : List Token) :
    Except Stop Step := do
  let (opening, behind) ← peek tokens
  if opening.kind = .flowSequenceEnd then
    return ⟨[⟨.sequenceEnd, opening.start⟩], [], behind, handles⟩
  else
    let (token, rest) ← skipComma first .flowSequenceMark .flowSequence start tokens
    match token.kind with
    | .key =>
        return ⟨[⟨.mappingStart {}, token.start⟩],
          [.pairKey, .pairValue, .pairEnd, .flowEntry start false], rest, handles⟩
    | .flowSequenceEnd => return ⟨[⟨.sequenceEnd, token.start⟩], [], rest, handles⟩
    | _ => return ⟨[], [.node false false, .flowEntry start false], token :: rest, handles⟩

def endsPair (kind : Token.Kind) : Bool :=
  kind = .flowEntry || kind = .flowSequenceEnd

/-- The key of a single pair in a sequence; a token that cannot start it is passed over. -/
def pairKey (handles : Handles) (tokens : List Token) : Except Stop Step := do
  let (token, rest) ← peek tokens
  if token.kind = .value || endsPair token.kind then
    return ⟨[emptyScalar token.finish], [], rest, handles⟩
  else return ⟨[], [.node false false], tokens, handles⟩

def pairValue (handles : Handles) (tokens : List Token) : Except Stop Step := do
  let (token, rest) ← peek tokens
  if token.kind = .value then
    let (next, _) ← peek rest
    if endsPair next.kind then return ⟨[emptyScalar next.start], [], rest, handles⟩
    else return ⟨[], [.node false false], rest, handles⟩
  else return ⟨[emptyScalar token.start], [], tokens, handles⟩

def pairEnd (handles : Handles) (tokens : List Token) : Except Stop Step := do
  let (token, _) ← peek tokens
  return ⟨[⟨.mappingEnd, token.start⟩], [], tokens, handles⟩

def endsFlowEntry (kind : Token.Kind) : Bool :=
  kind = .flowEntry || kind = .flowMappingEnd

def flowKey (start : Mark) (first : Bool) (handles : Handles) (tokens : List Token) :
    Except Stop Step := do
  let (opening, behind) ← peek tokens
  if opening.kind = .flowMappingEnd then
    return ⟨[⟨.mappingEnd, opening.start⟩], [], behind, handles⟩
  else
    let (token, rest) ← skipComma first .flowMappingMark .flowMapping start tokens
    match token.kind with
    | .key =>
        let (next, _) ← peek rest
        if next.kind = .value || endsFlowEntry next.kind then
          return ⟨[emptyScalar next.start], [.flowValue, .flowKey start false], rest, handles⟩
        else return ⟨[], [.node false false, .flowValue, .flowKey start false], rest, handles⟩
    | .flowMappingEnd => return ⟨[⟨.mappingEnd, token.start⟩], [], rest, handles⟩
    | _ =>
        return ⟨[], [.node false false, .flowValueMissing, .flowKey start false], token :: rest,
          handles⟩

def flowValue (handles : Handles) (tokens : List Token) : Except Stop Step := do
  let (token, rest) ← peek tokens
  if token.kind = .value then
    let (next, _) ← peek rest
    if endsFlowEntry next.kind then return ⟨[emptyScalar next.start], [], rest, handles⟩
    else return ⟨[], [.node false false], rest, handles⟩
  else return ⟨[emptyScalar token.start], [], tokens, handles⟩

def flowValueMissing (handles : Handles) (tokens : List Token) : Except Stop Step := do
  let (token, _) ← peek tokens
  return ⟨[emptyScalar token.start], [], tokens, handles⟩

def pursue (handles : Handles) (tokens : List Token) : Goal → Except Stop Step
  | .documentStart explicit => startDocument explicit tokens
  | .documentContent => documentContent handles tokens
  | .documentEnd => endDocument tokens
  | .node block indentless => node block indentless handles tokens
  | .blockEntry start => blockEntry start handles tokens
  | .indentlessEntry => indentlessEntry handles tokens
  | .blockKey start => blockKey start handles tokens
  | .blockValue start => blockValue start handles tokens
  | .flowEntry start first => flowEntry start first handles tokens
  | .pairKey => pairKey handles tokens
  | .pairValue => pairValue handles tokens
  | .pairEnd => pairEnd handles tokens
  | .flowKey start first => flowKey start first handles tokens
  | .flowValue => flowValue handles tokens
  | .flowValueMissing => flowValueMissing handles tokens

def run (failure : Option Malformed) :
    Nat → Handles → List Token → List Goal → Reading Event
  | 0, _, _, _ => ⟨[], failure⟩
  | _, _, _, [] => ⟨[], none⟩
  | fuel + 1, handles, tokens, goal :: goals =>
      match pursue handles tokens goal with
      | .error .outOfTokens => ⟨[], failure⟩
      | .error (.malformed flaw) => ⟨[], some flaw⟩
      | .ok step =>
          let reading := run failure fuel step.handles step.tokens (step.goals ++ goals)
          ⟨step.events ++ reading.items, reading.failure⟩

/-- The events of a stream of tokens, whose first token only opens the stream. Between two tokens
that are taken no more than eight goals are pursued. -/
def ofTokens (tokens : Reading Token) : Reading Event :=
  run tokens.failure (8 * tokens.items.length + 8) [] (tokens.items.drop 1) [.documentStart false]

def ofText (text : List Char) : Reading Event :=
  ofTokens (Token.ofText text)

end Event

end CitationFile.Yaml
