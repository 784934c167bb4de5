import SharedRing.Yaml.Event
import SharedRing.Yaml.Token.Lexer

/-!
# Nodes of a YAML document

A document as a tree. A mapping keeps its entries in the order of the text, repeated keys included.
Where the text breaks off, the tree ends in `missing`, so that what stands before the fault can still
be read.

An alias names a slot of the document's anchors. The slot of an anchor is the number of different
anchor names before it; a name given again takes a new slot, which a later name may take over, and a
slot always stands for the node that took it last.
-/

namespace SharedRing.Yaml

inductive Node where
  | scalar (mark : Mark) (scalar : Scalar)
  | sequence (mark : Mark) (items : List Node)
  | mapping (mark : Mark) (entries : List (Node × Node))
  | alias (slot : Nat)
  /-- The text broke off here. -/
  | missing
deriving Repr

mutual

def Node.isWhole : Node → Bool
  | .scalar _ _ => true
  | .sequence _ items => Node.allWhole items
  | .mapping _ entries => Node.entriesWhole entries
  | .alias _ => true
  | .missing => false

def Node.allWhole : List Node → Bool
  | [] => true
  | item :: items => item.isWhole && Node.allWhole items

def Node.entriesWhole : List (Node × Node) → Bool
  | [] => true
  | (key, value) :: entries => key.isWhole && value.isWhole && Node.entriesWhole entries

end

/-! ## Anchors -/

/-- The anchors of a document. Anchored nodes are numbered in the order in which they start. -/
structure Anchors where
  /-- Slots of the names, one entry a name. -/
  names : List (String × Nat)
  /-- The node that took each slot last; the first entry of a slot counts. -/
  owners : List (Nat × Nat)
  nodes : List (Nat × Node)
  count : Nat

namespace Anchors

def none : Anchors := ⟨[], [], [], 0⟩

def define (anchors : Anchors) (name : String) : Nat × Anchors :=
  let slot := anchors.names.length
  (anchors.count,
    { anchors with
      names := (name, slot) :: anchors.names.filter (·.1 ≠ name)
      owners := (slot, anchors.count) :: anchors.owners
      count := anchors.count + 1 })

def complete (anchors : Anchors) (number : Option Nat) (node : Node) : Anchors :=
  match number with
  | some n => { anchors with nodes := (n, node) :: anchors.nodes }
  | Option.none => anchors

def node? (anchors : Anchors) (slot : Nat) : Option Node :=
  (anchors.owners.lookup slot).bind fun number => anchors.nodes.lookup number

end Anchors

/-! ## Building a tree -/

/-- A collection that is open; what it holds is listed last one first. -/
inductive OpenNode where
  | sequence (mark : Mark) (number : Option Nat) (items : List Node)
  /-- `key` is a key whose value has not come. -/
  | mapping (mark : Mark) (number : Option Nat) (entries : List (Node × Node)) (key : Option Node)

structure Builder where
  spine : List OpenNode
  root : Option Node
  anchors : Anchors

namespace Builder

/-- Put a complete node where it belongs. -/
def add (builder : Builder) (node : Node) : Builder :=
  match builder.spine with
  | [] => { builder with root := some node }
  | .sequence mark number items :: outer =>
    { builder with spine := .sequence mark number (node :: items) :: outer }
  | .mapping mark number entries none :: outer =>
    { builder with spine := .mapping mark number entries (some node) :: outer }
  | .mapping mark number entries (some key) :: outer =>
    { builder with spine := .mapping mark number ((key, node) :: entries) none :: outer }

def close (builder : Builder) : Builder :=
  match builder.spine with
  | [] => builder
  | .sequence mark number items :: outer =>
    let node := Node.sequence mark items.reverse
    { builder with spine := outer, anchors := builder.anchors.complete number node }.add node
  | .mapping mark number entries _ :: outer =>
    let node := Node.mapping mark entries.reverse
    { builder with spine := outer, anchors := builder.anchors.complete number node }.add node

def anchor (builder : Builder) : Option String → Option Nat × Builder
  | none => (none, builder)
  | some name =>
    let (number, anchors) := builder.anchors.define name
    (some number, { builder with anchors })

/-- Close everything that is open around a fault. -/
def breakOff : Nat → Builder → Builder
  | 0, builder => builder
  | depth + 1, builder =>
    let ended := match builder.spine with
      | .mapping _ _ _ none :: _ => (builder.add .missing).add .missing
      | _ => builder.add .missing
    breakOff depth ended.close

/-- Build the tree of a document from its events, up to its end; what is left of the events after it,
or nothing where the document breaks off. -/
def run : List Event → Builder → Builder × Option (List Event)
  | [], builder => (builder.breakOff builder.spine.length, none)
  | event :: rest, builder =>
    match event.kind with
    | .scalar name scalar =>
      let (number, builder) := builder.anchor name
      let node := Node.scalar event.mark scalar
      run rest ({ builder with anchors := builder.anchors.complete number node }.add node)
    | .alias name =>
      match builder.anchors.names.lookup name with
      | some slot => run rest (builder.add (.alias slot))
      | none => (builder.breakOff builder.spine.length, none)
    | .sequenceStart name =>
      let (number, builder) := builder.anchor name
      run rest { builder with spine := .sequence event.mark number [] :: builder.spine }
    | .mappingStart name =>
      let (number, builder) := builder.anchor name
      run rest { builder with spine := .mapping event.mark number [] none :: builder.spine }
    | .sequenceEnd | .mappingEnd => run rest builder.close
    | .documentStart => run rest builder
    | .documentEnd | .streamEnd => (builder, some rest)

end Builder

/-! ## Documents -/

/-- The first document of a stream. -/
structure Document where
  root : Option Node
  anchors : Anchors
  ending : Mark
  /-- Whether it is whole and nothing follows it. -/
  sound : Bool

def Document.ofEvents : List Event → Document
  | [⟨.streamEnd, mark⟩] => ⟨none, Anchors.none, mark, true⟩
  | ⟨.documentStart, _⟩ :: events =>
    let (builder, rest) := Builder.run events ⟨[], none, Anchors.none⟩
    let sound := match rest with
      | some [⟨.streamEnd, _⟩] => true
      | _ => false
    ⟨some (builder.root.getD .missing), builder.anchors, Mark.start, sound⟩
  | _ => ⟨some .missing, Anchors.none, Mark.start, false⟩

def Document.ofText (text : String) : Document :=
  .ofEvents (events (tokens text).tokens)

/-- The node that is meant: for an alias the one it stands for. -/
def Document.follow (document : Document) : Node → Node
  | .alias slot => (document.anchors.node? slot).getD .missing
  | node => node

end SharedRing.Yaml
