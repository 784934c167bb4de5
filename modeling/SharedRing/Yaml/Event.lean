import SharedRing.Yaml.Token

/-!
# Events of a YAML stream

The grammar of YAML over tokens. An event opens or closes a document, a sequence or a mapping, or is a
leaf. `events` walks the tokens with a stack of what is expected after the current node, and gives one
event per step; where the tokens break the grammar, or end early, the events end early.
-/

namespace SharedRing.Yaml

inductive EventKind where
  | documentStart
  | documentEnd
  | streamEnd
  | alias (name : String)
  | scalar (anchor : Option String) (scalar : Scalar)
  | sequenceStart (anchor : Option String)
  | sequenceEnd
  | mappingStart (anchor : Option String)
  | mappingEnd
deriving DecidableEq, Repr

structure Event where
  kind : EventKind
  mark : Mark
deriving DecidableEq, Repr

/-- What the grammar allows next. -/
inductive Expected where
  | firstDocument
  /-- A further document, or the end of the stream. -/
  | nextDocument
  | documentContent
  | documentEnd
  | blockNode
  | blockSequenceEntry
  /-- An entry of a sequence that is indented no deeper than the mapping around it. -/
  | flatSequenceEntry
  | blockMappingKey
  | blockMappingValue
  | flowSequenceFirst
  | flowSequenceEntry
  /-- The key, value and end of a mapping with one entry, written inside a flow sequence. -/
  | pairKey
  | pairValue
  | pairEnd
  | flowMappingFirst
  | flowMappingKey
  | flowMappingValue
  /-- The value of a key without a `:`. -/
  | flowMappingNoValue
  | nothing
deriving DecidableEq, Repr

structure Walk where
  tokens : List Token
  next : Expected
  /-- What comes after the nodes that are open, innermost first. -/
  after : List Expected
  /-- Replacements of tag handles. -/
  handles : List (String × String)

namespace Walk

def advance (walk : Walk) (next : Expected) : Walk :=
  { walk with tokens := walk.tokens.drop 1, next }

def leave (walk : Walk) : Walk :=
  { walk with next := walk.after.head?.getD .nothing, after := walk.after.drop 1 }

/-- Say what comes after the node that is about to be read. -/
def thenExpect (walk : Walk) (expected : Expected) : Walk :=
  { walk with after := expected :: walk.after }

def mark (walk : Walk) : Mark :=
  (walk.tokens.head?.map (·.mark)).getD Mark.start

def kind? (walk : Walk) : Option TokenKind :=
  walk.tokens.head?.map (·.kind)

/-- A node that is not written out. -/
def emptyNode (walk : Walk) (next : Expected) : Event × Walk :=
  (⟨.scalar none ⟨"", .plain, none⟩, walk.mark⟩, { walk with next })

/-! ## Nodes -/

structure Properties where
  anchor : Option String
  tag : Option (String × String)

/-- Read an anchor and a tag, in either order, at most one of each. -/
def properties (walk : Walk) : Properties × Walk :=
  match walk.tokens with
  | ⟨.anchor name, _⟩ :: ⟨.tag handle suffix, _⟩ :: rest =>
    (⟨some name, some (handle, suffix)⟩, { walk with tokens := rest })
  | ⟨.tag handle suffix, _⟩ :: ⟨.anchor name, _⟩ :: rest =>
    (⟨some name, some (handle, suffix)⟩, { walk with tokens := rest })
  | ⟨.anchor name, _⟩ :: rest => (⟨some name, none⟩, { walk with tokens := rest })
  | ⟨.tag handle suffix, _⟩ :: rest => (⟨none, some (handle, suffix)⟩, { walk with tokens := rest })
  | _ => (⟨none, none⟩, walk)

/-- The tag that handle and suffix stand for; an unknown handle is an error. -/
def resolveTag (walk : Walk) : Option (String × String) → Option (Option String)
  | none => some none
  | some ("", suffix) => some (some suffix)
  | some (handle, suffix) => (walk.handles.lookup handle).map fun replacement => some (replacement ++ suffix)

/-- Read a node. `block` allows block collections, and `flat` a sequence whose entries stand at the
column of the mapping around it. The tag `!` alone leaves a scalar untagged. -/
def node (walk : Walk) (block flat : Bool) : Option (Event × Walk) :=
  let mark := walk.mark
  match walk.kind? with
  | some (.alias name) => some (⟨.alias name, mark⟩, { walk with tokens := walk.tokens.drop 1 }.leave)
  | _ => do
    let (found, inner) := walk.properties
    let tag ← walk.resolveTag found.tag
    let start := fun (kind : EventKind) (next : Walk) => some (Event.mk kind mark, next)
    match ← inner.kind? with
    | .blockEntry =>
      if flat then start (.sequenceStart found.anchor) { inner with next := .flatSequenceEntry }
      else if found.anchor.isSome || tag.isSome then
        start (.scalar found.anchor ⟨"", .plain, tag⟩) inner.leave
      else none
    | .scalar text style =>
      let tag := if tag = some "!" then none else tag
      start (.scalar found.anchor ⟨text, style, tag⟩) { inner with tokens := inner.tokens.drop 1 }.leave
    | .flowSequenceStart => start (.sequenceStart found.anchor) (inner.advance .flowSequenceFirst)
    | .flowMappingStart => start (.mappingStart found.anchor) (inner.advance .flowMappingFirst)
    | kind =>
      if block && kind = .blockSequenceStart then
        start (.sequenceStart found.anchor) (inner.advance .blockSequenceEntry)
      else if block && kind = .blockMappingStart then
        start (.mappingStart found.anchor) (inner.advance .blockMappingKey)
      else if found.anchor.isSome || tag.isSome then
        start (.scalar found.anchor ⟨"", .plain, tag⟩) inner.leave
      else none

/-- Read a node, and go on to `next` after it; but if one of `ends` comes first the node is empty. -/
def nodeUnless (walk : Walk) (ends : List TokenKind) (next : Expected) (block flat : Bool) :
    Option (Event × Walk) := do
  if (← walk.kind?) ∈ ends then return walk.emptyNode next
  (walk.thenExpect next).node block flat

/-! ## Documents -/

def defaultHandles : List (String × String) :=
  [("!", "!"), ("!!", coreTag "")]

/-- Read the directives in front of a document: at most one version, which has to be 1.1 or 1.2, and
no handle twice. -/
def directives : List Token → Bool → List (String × String) → Option (List Token × List (String × String))
  | ⟨.versionDirective major minor, _⟩ :: rest, versionSeen, handles =>
    if versionSeen || major ≠ 1 || !(minor = 1 || minor = 2) then none
    else directives rest true handles
  | ⟨.tagDirective handle replacement, _⟩ :: rest, versionSeen, handles =>
    if (handles.lookup handle).isSome then none
    else directives rest versionSeen ((handle, replacement) :: handles)
  | tokens, _, handles => some (tokens, handles)

def document (walk : Walk) (first : Bool) : Option (Event × Walk) := do
  let walk :=
    if first then walk
    else { walk with tokens := walk.tokens.dropWhile fun token => token.kind = .documentEnd }
  let mark := walk.mark
  let kind ← walk.kind?
  let explicit := match kind with
    | .versionDirective _ _ | .tagDirective _ _ | .documentStart => true
    | _ => false
  if kind = .streamEnd then return (⟨.streamEnd, mark⟩, walk.advance .nothing)
  if first && !explicit then
    return (⟨.documentStart, mark⟩,
      { walk with next := .blockNode, after := [.documentEnd], handles := defaultHandles })
  let (rest, handles) ← directives walk.tokens false []
  let opened := { walk with tokens := rest, handles := handles ++ defaultHandles, after := [.documentEnd] }
  if (← opened.kind?) ≠ .documentStart then none
  return (⟨.documentStart, mark⟩, opened.advance .documentContent)

def startsNoContent : TokenKind → Bool
  | .versionDirective _ _ | .tagDirective _ _ | .documentStart | .documentEnd | .streamEnd => true
  | _ => false

/-! ## Steps -/

/-- Read an entry of a flow sequence, or its end. An entry that starts with a key is a mapping with
one entry. -/
def flowSequenceEntry (walk : Walk) : Option (Event × Walk) := do
  let kind ← walk.kind?
  if kind = .flowSequenceEnd then
    return (⟨.sequenceEnd, walk.mark⟩, { walk with tokens := walk.tokens.drop 1 }.leave)
  if kind = .key then return (⟨.mappingStart none, walk.mark⟩, walk.advance .pairKey)
  (walk.thenExpect .flowSequenceEntry).node false false

def flowMappingKey (walk : Walk) : Option (Event × Walk) := do
  let kind ← walk.kind?
  if kind = .flowMappingEnd then
    return (⟨.mappingEnd, walk.mark⟩, { walk with tokens := walk.tokens.drop 1 }.leave)
  if kind = .key then
    (walk.advance walk.next).nodeUnless [.value, .flowEntry, .flowMappingEnd] .flowMappingValue false false
  else (walk.thenExpect .flowMappingNoValue).node false false

def step (walk : Walk) : Option (Event × Walk) := do
  let kind ← walk.kind?
  let mark := walk.mark
  let shifted := walk.advance walk.next
  match walk.next with
  | .firstDocument => walk.document true
  | .nextDocument => walk.document false
  | .documentContent =>
    if startsNoContent kind then
      return (⟨.scalar none ⟨"", .plain, none⟩, mark⟩, walk.leave)
    else walk.node true false
  | .documentEnd =>
    let next := if kind = .documentEnd then shifted else walk
    return (⟨.documentEnd, mark⟩, { next with next := .nextDocument, after := [] })
  | .blockNode => walk.node true false
  | .blockSequenceEntry =>
    if kind = .blockEntry then
      shifted.nodeUnless [.blockEntry, .blockEnd] .blockSequenceEntry true false
    else if kind = .blockEnd then return (⟨.sequenceEnd, mark⟩, shifted.leave)
    else none
  | .flatSequenceEntry =>
    if kind = .blockEntry then
      shifted.nodeUnless [.blockEntry, .key, .value, .blockEnd] .flatSequenceEntry true false
    else return (⟨.sequenceEnd, mark⟩, walk.leave)
  | .blockMappingKey =>
    if kind = .key then
      shifted.nodeUnless [.key, .value, .blockEnd] .blockMappingValue true true
    else if kind = .blockEnd then return (⟨.mappingEnd, mark⟩, shifted.leave)
    else none
  | .blockMappingValue =>
    if kind = .value then shifted.nodeUnless [.key, .value, .blockEnd] .blockMappingKey true true
    else return walk.emptyNode .blockMappingKey
  | .flowSequenceFirst => walk.flowSequenceEntry
  | .flowSequenceEntry =>
    if kind = .flowSequenceEnd then walk.flowSequenceEntry
    else if kind = .flowEntry then shifted.flowSequenceEntry
    else none
  | .pairKey =>
    if kind ∈ [.value, .flowEntry, .flowSequenceEnd] then return shifted.emptyNode .pairValue
    else (walk.thenExpect .pairValue).node false false
  | .pairValue =>
    if kind = .value then shifted.nodeUnless [.flowEntry, .flowSequenceEnd] .pairEnd false false
    else return walk.emptyNode .pairEnd
  | .pairEnd => return (⟨.mappingEnd, mark⟩, { walk with next := .flowSequenceEntry })
  | .flowMappingFirst => walk.flowMappingKey
  | .flowMappingKey =>
    if kind = .flowMappingEnd then walk.flowMappingKey
    else if kind = .flowEntry then shifted.flowMappingKey
    else none
  | .flowMappingValue =>
    if kind = .value then shifted.nodeUnless [.flowEntry, .flowMappingEnd] .flowMappingKey false false
    else return walk.emptyNode .flowMappingKey
  | .flowMappingNoValue => return walk.emptyNode .flowMappingKey
  | .nothing => none

/-- All events from a state on, at most `fuel`. -/
def run : Nat → Walk → List Event → List Event
  | 0, _, out => out.reverse
  | fuel + 1, walk, out =>
    match walk.step with
    | some (event, next) => run fuel next (event :: out)
    | none => out.reverse

end Walk

/-- The events of a row of tokens. A token takes part in at most four of them. -/
def events (tokens : List Token) : List Event :=
  Walk.run (4 * tokens.length + 8) ⟨tokens, .firstDocument, [], []⟩ []

end SharedRing.Yaml
