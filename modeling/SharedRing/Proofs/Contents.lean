import Mathlib.Data.List.Induction
import Mathlib.Logic.Function.Basic
import SharedRing.Config
import SharedRing.Proofs.Opening

/-!
# What a document says

`Node.content` is a tree without the places in the text. What a configuration is read from it can be said without a
fold over entries: a section's key may be given once, its field is what its one value says, and the values of other
keys only have to be whole. `config?` says so, and reading a document finds just that (`Raw.ofDocument_eq_ok_iff`),
whatever else the document is like.
-/

namespace SharedRing

namespace Yaml

/-- What a node says, wherever it stands. -/
inductive Content where
  | scalar (scalar : Scalar)
  | sequence (items : List Content)
  | mapping (entries : List (Content × Content))
  | alias (slot : Nat)
  | missing

mutual

def Node.content : Node → Content
  | .scalar _ leaf => .scalar leaf
  | .sequence _ items => .sequence (Node.itemContents items)
  | .mapping _ entries => .mapping (Node.entryContents entries)
  | .alias slot => .alias slot
  | .missing => .missing

def Node.itemContents : List Node → List Content
  | [] => []
  | item :: items => item.content :: Node.itemContents items

def Node.entryContents : List (Node × Node) → List (Content × Content)
  | [] => []
  | (key, value) :: entries => (key.content, value.content) :: Node.entryContents entries

end

namespace Content

mutual

def isWhole : Content → Bool
  | .scalar _ => true
  | .sequence items => allWhole items
  | .mapping entries => entriesWhole entries
  | .alias _ => true
  | .missing => false

def allWhole : List Content → Bool
  | [] => true
  | item :: items => item.isWhole && allWhole items

def entriesWhole : List (Content × Content) → Bool
  | [] => true
  | (key, value) :: entries => key.isWhole && value.isWhole && entriesWhole entries

end

mutual

def aliasFree : Content → Bool
  | .scalar _ => true
  | .sequence items => allAliasFree items
  | .mapping entries => entriesAliasFree entries
  | .alias _ => false
  | .missing => true

def allAliasFree : List Content → Bool
  | [] => true
  | item :: items => item.aliasFree && allAliasFree items

def entriesAliasFree : List (Content × Content) → Bool
  | [] => true
  | (key, value) :: entries => key.aliasFree && value.aliasFree && entriesAliasFree entries

end

def scalar? : Content → Option Scalar
  | .scalar leaf => some leaf
  | _ => none

/-- What a scalar is read as. -/
def read {α : Type} (read : Scalar → Option α) (content : Content) : Option α :=
  content.scalar?.bind read

def text? : Content → Option String := read fun scalar => some scalar.text

/-- An untagged scalar in plain style. -/
def plain (text : String) : Content := .scalar ⟨text, .plain, none⟩

theorem text?_plain (text : String) : (plain text).text? = some text := rfl

def word? : Content → Option Nat := read Scalar.word?

def boolean? : Content → Option Bool := read Scalar.boolean?

/-- The entries of a mapping; a blank stands for a mapping without entries. -/
def entries? : Content → Option (List (Content × Content))
  | .mapping entries => some entries
  | .scalar leaf => if leaf.text = "" && leaf.style = .plain then some [] else none
  | _ => none

/-- The content that is meant, if an alias means what its slot says. -/
def follow (slots : Nat → Content) : Content → Content
  | .alias slot => slots slot
  | content => content

mutual

def decEq : (content content' : Content) → Decidable (content = content')
  | .scalar leaf, .scalar leaf' => decidable_of_iff (leaf = leaf') (by simp)
  | .sequence items, .sequence items' =>
    have := itemsDecEq items items'
    decidable_of_iff (items = items') (by simp)
  | .mapping entries, .mapping entries' =>
    have := entriesDecEq entries entries'
    decidable_of_iff (entries = entries') (by simp)
  | .alias slot, .alias slot' => decidable_of_iff (slot = slot') (by simp)
  | .missing, .missing => isTrue rfl
  | .scalar _, .sequence _ | .scalar _, .mapping _ | .scalar _, .alias _ | .scalar _, .missing
  | .sequence _, .scalar _ | .sequence _, .mapping _ | .sequence _, .alias _ | .sequence _, .missing
  | .mapping _, .scalar _ | .mapping _, .sequence _ | .mapping _, .alias _ | .mapping _, .missing
  | .alias _, .scalar _ | .alias _, .sequence _ | .alias _, .mapping _ | .alias _, .missing
  | .missing, .scalar _ | .missing, .sequence _ | .missing, .mapping _ | .missing, .alias _ => isFalse nofun

def itemsDecEq : (items items' : List Content) → Decidable (items = items')
  | [], [] => isTrue rfl
  | item :: items, item' :: items' =>
    have := decEq item item'
    have := itemsDecEq items items'
    decidable_of_iff (item = item' ∧ items = items') (by simp)
  | [], _ :: _ | _ :: _, [] => isFalse nofun

def entriesDecEq : (entries entries' : List (Content × Content)) → Decidable (entries = entries')
  | [], [] => isTrue rfl
  | (key, value) :: entries, (key', value') :: entries' =>
    have := decEq key key'
    have := decEq value value'
    have := entriesDecEq entries entries'
    decidable_of_iff (key = key' ∧ value = value' ∧ entries = entries') (by simp [and_assoc])
  | [], _ :: _ | _ :: _, [] => isFalse nofun

end

instance : DecidableEq Content := decEq

end Content

mutual

theorem Node.isWhole_content : ∀ node : Node, node.content.isWhole = node.isWhole
  | .scalar .. | .alias _ | .missing => rfl
  | .sequence _ items => Node.allWhole_itemContents items
  | .mapping _ entries => Node.entriesWhole_entryContents entries

theorem Node.allWhole_itemContents : ∀ items : List Node,
    Content.allWhole (Node.itemContents items) = Node.allWhole items
  | [] => rfl
  | item :: items => by
    rw [Node.itemContents, Content.allWhole, Node.allWhole, item.isWhole_content, Node.allWhole_itemContents items]

theorem Node.entriesWhole_entryContents : ∀ entries : List (Node × Node),
    Content.entriesWhole (Node.entryContents entries) = Node.entriesWhole entries
  | [] => rfl
  | (key, value) :: entries => by
    rw [Node.entryContents, Content.entriesWhole, Node.entriesWhole, key.isWhole_content, value.isWhole_content,
      Node.entriesWhole_entryContents entries]

end

theorem Node.entryContents_eq_map (entries : List (Node × Node)) :
    Node.entryContents entries = entries.map fun entry => (entry.1.content, entry.2.content) := by
  induction entries with
  | nil => rfl
  | cons entry entries ih => rw [Node.entryContents, ih, List.map_cons]

/-- What the slots of a document's anchors say. -/
def Document.slots (document : Document) (slot : Nat) : Content :=
  ((document.anchors.node? slot).getD .missing).content

theorem Document.content_follow (document : Document) (node : Node) :
    (document.follow node).content = node.content.follow document.slots := by
  cases node <;> rfl

/-- What the document of a text says, if the text is one document. -/
def Content.ofText? (text : String) : Option Content :=
  let document := Document.ofText text
  if document.sound then document.root.map Node.content else none

end Yaml

namespace Config

open Yaml (Node Document Scalar Content Mark)

/-! ## Sections -/

/-- The values that a section gives to a key. -/
def values (slots : Nat → Content) (entries : List (Content × Content)) (name : String) : List Content :=
  (entries.filter fun entry => (entry.1.follow slots).text? = some name).map fun entry => entry.2.follow slots

/-- Whether a section can be read through: its keys are texts, and what is passed over is whole. -/
def orderly (slots : Nat → Content) (names : List String) (entries : List (Content × Content)) : Bool :=
  entries.all fun entry => (entry.1.follow slots).text?.any fun name => name ∈ names || entry.2.isWhole

/-- What a field is read from, if a key is given at most once. -/
def single {α : Type} (read : Content → Option α) : List Content → Option (Option α)
  | [] => some none
  | [value] => (read value).map some
  | _ => none

/-- What a section says, if that depends on the values of its keys. -/
def ofValues? {α : Type} (slots : Nat → Content) (names : List String) (of? : (String → List Content) → Option α)
    (content : Content) : Option α :=
  content.entries?.bind fun entries =>
    if orderly slots names entries then of? (values slots entries) else none

def optionalSize? (scalar : Scalar) : Option (Option Nat) :=
  (leavesOut ⟨[], Mark.start⟩ scalar).toOption.bind fun absent =>
    if absent then some none else scalar.word?.map some

def queueNames : List String := ["name", "quantum_size", "quantum_count", "named"]

def QueueFields.of? (values : String → List Content) : Option QueueFields := do
  return {
    name := ← single Content.text? (values "name")
    quantumSize := ← single (Content.read optionalSize?) (values "quantum_size")
    quantumCount := ← single (Content.read optionalSize?) (values "quantum_count")
    named := ← single Content.boolean? (values "named") }

def benchNames : List String := ["messages", "batch"]

def BenchFields.of? (values : String → List Content) : Option BenchFields := do
  return {
    messages := ← single Content.word? (values "messages")
    batch := ← single Content.word? (values "batch") }

def queue? (slots : Nat → Content) : Content → Option RawQueue :=
  ofValues? slots queueNames fun values => (QueueFields.of? values).bind fun fields => some fields.finish

def bench? (slots : Nat → Content) : Content → Option RawBench :=
  ofValues? slots benchNames fun values => (BenchFields.of? values).bind fun fields => some fields.finish

def sectionNames : List String := ["queue", "bench"]

def Sections.of? (slots : Nat → Content) (values : String → List Content) : Option Sections := do
  return {
    queue := ← single (queue? slots) (values "queue")
    bench := ← single (bench? slots) (values "bench") }

/-- The configuration of a document's sections, if there is a queue section. -/
def Sections.raw? (fields : Sections) : Option Raw :=
  fields.queue.map fun queue => ⟨queue, fields.bench.getD defaultBench⟩

/-- The configuration that a tree says, if aliases mean what their slots say. -/
def config? (slots : Nat → Content) : Content → Option Raw :=
  ofValues? slots sectionNames fun values => (Sections.of? slots values).bind Sections.raw?

/-! ### One entry more -/

section

variable {α : Type} {read : Content → Option α} {values : List Content} {value : Content}

theorem single_nil : single read [] = some none := rfl

@[simp]
theorem single_singleton : single read [value] = (read value).map some := rfl

theorem single_eq_some_none_iff : single read values = some none ↔ values = [] := by
  match values with
  | [] => simp [single]
  | [value] => simp [single]
  | first :: second :: rest => simp [single]

theorem single_concat_eq_some_iff {field : Option α} : single read (values ++ [value]) = some field ↔
    single read values = some none ∧ ∃ a, read value = some a ∧ field = some a := by
  rw [single_eq_some_none_iff]
  match values with
  | [] => simp [single, eq_comm]
  | [first] => simp [single]
  | first :: second :: rest => simp [single]

end

/-- A key that is a text adds its value to those of its name. -/
theorem values_concat {slots : Nat → Content} {key : Content} {name : String}
    (named : (key.follow slots).text? = some name) (entries : List (Content × Content)) (value : Content) :
    values slots (entries ++ [(key, value)]) =
      Function.update (values slots entries) name (values slots entries name ++ [value.follow slots]) := by
  funext other
  by_cases same : other = name
  · subst same
    simp [values, named]
  · have different : name ≠ other := Ne.symm same
    simp [values, named, same, different]

theorem orderly_concat_iff {slots : Nat → Content} {names : List String} {entries : List (Content × Content)}
    {key value : Content} : orderly slots names (entries ++ [(key, value)]) = true ↔
      orderly slots names entries = true ∧
        ∃ name, (key.follow slots).text? = some name ∧ (name ∈ names ∨ value.isWhole = true) := by
  simp [orderly, Option.any_eq_true]

theorem ofValues?_mapping_eq_some_iff {α : Type} {slots : Nat → Content} {names : List String}
    {of? : (String → List Content) → Option α} {entries : List (Content × Content)} {a : α} :
    ofValues? slots names of? (.mapping entries) = some a ↔
      orderly slots names entries = true ∧ of? (values slots entries) = some a := by
  simp [ofValues?, Content.entries?]

/-! ## Reading -/

variable {document : Document} {path : List String} {around : Place} {node : Node}

section Readers

variable {α : Type} {value : α}

theorem readScalar_eq_ok_iff {wanted : Wanted} {read : Scalar → Option α} :
    readScalar document path wanted read node = .ok value ↔
      (node.content.follow document.slots).read read = some value := by
  rw [← document.content_follow, readScalar]
  cases document.follow node with
  | scalar mark scalar =>
    simp only [Node.content, Content.read, Content.scalar?, Option.bind_some]
    cases read scalar <;> simp
  | _ => simp [Node.content, Content.read, Content.scalar?]

theorem readText_eq_ok_iff {wanted : Wanted} {text : String} : readText document path wanted node = .ok text ↔
    (node.content.follow document.slots).text? = some text := by
  rw [readText, readScalar_eq_ok_iff, Content.text?]

theorem readWord_eq_ok_iff {wanted : Wanted} {n : Nat} : readWord document path wanted node = .ok n ↔
    (node.content.follow document.slots).word? = some n := by
  rw [readWord, readScalar_eq_ok_iff, Content.word?]

theorem readBoolean_eq_ok_iff {b : Bool} : readBoolean document path node = .ok b ↔
    (node.content.follow document.slots).boolean? = some b := by
  rw [readBoolean, readScalar_eq_ok_iff, Content.boolean?]

theorem readKey_eq_ok_iff {key : Node} {name : String} : readKey document around key = .ok name ↔
    (key.content.follow document.slots).text? = some name := by
  rw [readKey, readText_eq_ok_iff]

/-- The place matters to the error only. -/
theorem leavesOut_eq_ok_iff {scalar : Scalar} {absent : Bool} : leavesOut around scalar = .ok absent ↔
    (leavesOut ⟨[], Mark.start⟩ scalar).toOption = some absent := by
  rw [toOption_eq_some_iff]
  unfold leavesOut
  split
  · rfl
  · split
    · rfl
    · split
      · rfl
      · split
        · rfl
        · simp

theorem readOptionalSize_eq_ok_iff {size : Option Nat} : readOptionalSize document around path node = .ok size ↔
    (node.content.follow document.slots).read optionalSize? = some size := by
  have word : (do return some (← readWord document path .size node) : Except ShapeError (Option Nat)) = .ok size ↔
      ((document.follow node).content.read Scalar.word?).map some = some size := by
    simp only [bind_eq_ok_iff, readWord, readScalar_eq_ok_iff, document.content_follow, pure, Except.pure,
      Except.ok.injEq, Option.map_eq_some_iff]
  rw [← document.content_follow, readOptionalSize]
  cases followed : document.follow node with
  | scalar mark scalar =>
    rw [followed] at word
    simp only [Node.content, Content.read, Content.scalar?, Option.bind_some] at word ⊢
    simp only [bind_eq_ok_iff, leavesOut_eq_ok_iff, optionalSize?, Option.bind_eq_some_iff]
    refine exists_congr fun absent => and_congr_right fun _ => ?_
    cases absent with
    | true => simp [pure, Except.pure]
    | false => exact word
  | _ =>
    rw [followed] at word
    exact word

theorem once_eq_ok_iff {β σ : Type} {name : String} {field : Option α} {read : Except ShapeError β} {fill : β → σ}
    {fields : σ} : once around name field (do return fill (← read)) = .ok fields ↔
      field = none ∧ ∃ b, read = .ok b ∧ fill b = fields := by
  cases field <;> simp [once, bind_eq_ok_iff, pure, Except.pure]

theorem passOver_eq_ok_iff {fields fields' : α} : passOver fields node = .ok fields' ↔
    node.content.isWhole = true ∧ fields = fields' := by
  rw [node.isWhole_content, passOver]
  cases node.isWhole <;> simp

end Readers

/-- What a function of the values says are the fields that are read. -/
structure ReadsFields {σ : Type} (document : Document) (names : List String)
    (readField : Place → List String → σ → String → Node → Except ShapeError σ)
    (of? : (String → List Content) → Option σ) (start : σ) : Prop where
  start_iff : ∀ fields, of? (fun _ => []) = some fields ↔ fields = start
  /-- One more value is one more that a field is read from, or passed over. -/
  step_iff : ∀ around path values name value fields',
    (∃ fields, of? values = some fields ∧ readField around path fields name value = .ok fields') ↔
      (name ∈ names ∨ value.content.isWhole = true) ∧
        of? (Function.update values name (values name ++ [value.content.follow document.slots])) = some fields'

theorem readEntries_concat_eq_ok_iff {σ : Type}
    {readField : Place → List String → σ → String → Node → Except ShapeError σ} {entries : List (Node × Node)}
    {key value : Node} {fields fields' : σ} :
    readEntries document around readField (entries ++ [(key, value)]) fields = .ok fields' ↔
      ∃ between, readEntries document around readField entries fields = .ok between ∧
        ∃ name, readKey document around key = .ok name ∧
          readField around (around.inside (keyInPath key name)) between name value = .ok fields' := by
  induction entries generalizing fields with
  | nil => simp [readEntries, bind_eq_ok_iff]
  | cons entry entries ih =>
    simp only [List.cons_append, readEntries, bind_eq_ok_iff, ih]
    grind

namespace ReadsFields

variable {σ : Type} {names : List String}
  {readField : Place → List String → σ → String → Node → Except ShapeError σ}
  {of? : (String → List Content) → Option σ} {start fields : σ}

theorem readEntries_eq_ok_iff (reads : ReadsFields document names readField of? start)
    {entries : List (Node × Node)} : readEntries document around readField entries start = .ok fields ↔
      orderly document.slots names (Node.entryContents entries) = true ∧
        of? (values document.slots (Node.entryContents entries)) = some fields := by
  rw [Node.entryContents_eq_map]
  -- from the right: the last entry meets the fields that the entries before it have left
  induction entries using List.reverseRecOn generalizing fields with
  | nil =>
    rw [readEntries, Except.ok.injEq, eq_comm, ← reads.start_iff]
    exact (and_iff_right rfl).symm
  | append_singleton entries entry ih =>
    obtain ⟨key, value⟩ := entry
    rw [readEntries_concat_eq_ok_iff, List.map_append, List.map_singleton, orderly_concat_iff]
    simp only [ih, readKey_eq_ok_iff]
    constructor
    · rintro ⟨between, ⟨orderly, said⟩, name, named, read⟩
      obtain ⟨passes, said'⟩ := (reads.step_iff _ _ _ _ _ _).1 ⟨between, said, read⟩
      rw [values_concat named]
      exact ⟨⟨orderly, name, named, passes⟩, said'⟩
    · rintro ⟨⟨orderly, name, named, passes⟩, said'⟩
      rw [values_concat named] at said'
      obtain ⟨between, said, read⟩ := (reads.step_iff _ _ _ _ _ _).2 ⟨passes, said'⟩
      exact ⟨between, ⟨orderly, said⟩, name, named, read⟩

/-- Reading a section is reading its entries; what comes of the fields has to be the same at every place. -/
theorem readSection_bind_eq_ok_iff {β : Type} {wanted : Wanted} {finish : Place × σ → Except ShapeError β}
    {finish? : σ → Option β} (reads : ReadsFields document names readField of? start)
    (same : ∀ place fields b, finish (place, fields) = .ok b ↔ finish? fields = some b) {b : β} :
    readSection document path wanted readField start node >>= finish = .ok b ↔
      ofValues? document.slots names (fun values => (of? values).bind finish?)
        (node.content.follow document.slots) = some b := by
  rw [← document.content_follow, readSection]
  cases document.follow node with
  | scalar mark scalar =>
    by_cases blank : (scalar.text = "" && scalar.style = .plain) = true
    · have no_entries : ofValues? document.slots names (fun values => (of? values).bind finish?) (.scalar scalar) =
          finish? start := by
        simp only [ofValues?, Content.entries?, blank, ↓reduceIte]
        exact congrArg (Option.bind · finish?) ((reads.start_iff start).2 rfl)
      simp only [blank, ↓reduceIte, Node.content, no_entries, ← same ⟨path, mark⟩]
      rfl
    · simp [ofValues?, Node.content, Content.entries?, blank, bind, Except.bind]
  | mapping mark entries =>
    simp only [Node.content, ofValues?_mapping_eq_some_iff, Option.bind_eq_some_iff, reads.readEntries_eq_ok_iff,
      bind_eq_ok_iff, pure, Except.pure, Except.ok.injEq]
    constructor
    · rintro ⟨_, ⟨fields, ⟨orderly, said⟩, rfl⟩, finished⟩
      exact ⟨orderly, fields, said, (same _ _ _).1 finished⟩
    · rintro ⟨orderly, fields, said, finished⟩
      exact ⟨_, ⟨fields, ⟨orderly, said⟩, rfl⟩, (same _ _ _).2 finished⟩
  | _ => simp [ofValues?, Node.content, Content.entries?, bind, Except.bind]

end ReadsFields

theorem QueueFields.of?_eq_some_iff {values : String → List Content} {fields : QueueFields} :
    of? values = some fields ↔ single Content.text? (values "name") = some fields.name ∧
      single (Content.read optionalSize?) (values "quantum_size") = some fields.quantumSize ∧
      single (Content.read optionalSize?) (values "quantum_count") = some fields.quantumCount ∧
      single Content.boolean? (values "named") = some fields.named := by
  obtain ⟨name, quantumSize, quantumCount, named⟩ := fields
  simp only [of?, Option.bind_eq_bind, Option.bind_eq_some_iff, Option.pure_def, Option.some.injEq, mk.injEq]
  grind

theorem QueueFields.reads (document : Document) :
    ReadsFields document queueNames (QueueFields.read document) QueueFields.of? {} := by
  constructor
  case start_iff =>
    intro fields
    obtain ⟨name, size, count, named⟩ := fields
    simp only [of?_eq_some_iff, single, Option.some.injEq, mk.injEq]
    grind
  case step_iff =>
    intro around path values key value fields
    obtain ⟨name, size, count, named⟩ := fields
    simp only [of?_eq_some_iff, QueueFields.read]
    -- before a step of a known key, the fields are those after it but for the one that the key fills
    split
    case h_1 =>
      simp only [once_eq_ok_iff, readText_eq_ok_iff, Function.update_apply, String.reduceEq, ↓reduceIte,
        single_concat_eq_some_iff]
      exact ⟨by grind [queueNames], fun _ => ⟨⟨none, size, count, named⟩, by grind⟩⟩
    case h_2 =>
      simp only [once_eq_ok_iff, readOptionalSize_eq_ok_iff, Function.update_apply, String.reduceEq, ↓reduceIte,
        single_concat_eq_some_iff]
      exact ⟨by grind [queueNames], fun _ => ⟨⟨name, none, count, named⟩, by grind⟩⟩
    case h_3 =>
      simp only [once_eq_ok_iff, readOptionalSize_eq_ok_iff, Function.update_apply, String.reduceEq, ↓reduceIte,
        single_concat_eq_some_iff]
      exact ⟨by grind [queueNames], fun _ => ⟨⟨name, size, none, named⟩, by grind⟩⟩
    case h_4 =>
      simp only [once_eq_ok_iff, readBoolean_eq_ok_iff, Function.update_apply, String.reduceEq, ↓reduceIte,
        single_concat_eq_some_iff]
      refine ⟨?_, fun _ => ⟨⟨name, size, count, none⟩, by grind⟩⟩
      rintro ⟨fields, said, absent, b, read, filled⟩
      cases filled
      exact ⟨.inl (by decide), said.1, said.2.1, said.2.2.1, absent ▸ said.2.2.2, b, read, rfl⟩
    case h_5 =>
      simp only [passOver_eq_ok_iff]
      grind [queueNames]

theorem RawQueue.read_eq_ok_iff {raw : RawQueue} : RawQueue.read document path node = .ok raw ↔
    queue? document.slots (node.content.follow document.slots) = some raw :=
  (QueueFields.reads document).readSection_bind_eq_ok_iff fun _ _ _ => by simp [pure, Except.pure]

theorem BenchFields.of?_eq_some_iff {values : String → List Content} {fields : BenchFields} :
    of? values = some fields ↔ single Content.word? (values "messages") = some fields.messages ∧
      single Content.word? (values "batch") = some fields.batch := by
  obtain ⟨messages, batch⟩ := fields
  simp only [of?, Option.bind_eq_bind, Option.bind_eq_some_iff, Option.pure_def, Option.some.injEq, mk.injEq]
  grind

theorem BenchFields.reads (document : Document) :
    ReadsFields document benchNames (BenchFields.read document) BenchFields.of? {} := by
  constructor
  case start_iff =>
    intro fields
    obtain ⟨messages, batch⟩ := fields
    simp only [of?_eq_some_iff, single, Option.some.injEq, mk.injEq]
    grind
  case step_iff =>
    intro around path values key value fields
    obtain ⟨messages, batch⟩ := fields
    simp only [of?_eq_some_iff, BenchFields.read]
    split
    case h_1 =>
      simp only [once_eq_ok_iff, readWord_eq_ok_iff, Function.update_apply, String.reduceEq, ↓reduceIte,
        single_concat_eq_some_iff]
      exact ⟨by grind [benchNames], fun _ => ⟨⟨none, batch⟩, by grind⟩⟩
    case h_2 =>
      simp only [once_eq_ok_iff, readWord_eq_ok_iff, Function.update_apply, String.reduceEq, ↓reduceIte,
        single_concat_eq_some_iff]
      exact ⟨by grind [benchNames], fun _ => ⟨⟨messages, none⟩, by grind⟩⟩
    case h_3 =>
      simp only [passOver_eq_ok_iff]
      grind [benchNames]

theorem RawBench.read_eq_ok_iff {raw : RawBench} : RawBench.read document path node = .ok raw ↔
    bench? document.slots (node.content.follow document.slots) = some raw :=
  (BenchFields.reads document).readSection_bind_eq_ok_iff fun _ _ _ => by simp [pure, Except.pure]

theorem Sections.of?_eq_some_iff {slots : Nat → Content} {values : String → List Content} {fields : Sections} :
    of? slots values = some fields ↔ single (queue? slots) (values "queue") = some fields.queue ∧
      single (bench? slots) (values "bench") = some fields.bench := by
  obtain ⟨queue, bench⟩ := fields
  simp only [of?, Option.bind_eq_bind, Option.bind_eq_some_iff, Option.pure_def, Option.some.injEq, mk.injEq]
  grind

theorem Sections.reads (document : Document) :
    ReadsFields document sectionNames (Sections.read document) (Sections.of? document.slots) {} := by
  constructor
  case start_iff =>
    intro fields
    obtain ⟨queue, bench⟩ := fields
    simp only [of?_eq_some_iff, single, Option.some.injEq, mk.injEq]
    grind
  case step_iff =>
    intro around path values key value fields
    obtain ⟨queue, bench⟩ := fields
    simp only [of?_eq_some_iff, Sections.read]
    split
    case h_1 =>
      simp only [once_eq_ok_iff, RawQueue.read_eq_ok_iff, Function.update_apply, String.reduceEq, ↓reduceIte,
        single_concat_eq_some_iff]
      exact ⟨by grind [sectionNames], fun _ => ⟨⟨none, bench⟩, by grind⟩⟩
    case h_2 =>
      simp only [once_eq_ok_iff, RawBench.read_eq_ok_iff, Function.update_apply, String.reduceEq, ↓reduceIte,
        single_concat_eq_some_iff]
      exact ⟨by grind [sectionNames], fun _ => ⟨⟨queue, none⟩, by grind⟩⟩
    case h_3 =>
      simp only [passOver_eq_ok_iff]
      grind [sectionNames]

theorem Raw.ofNode_eq_ok_iff {raw : Raw} : Raw.ofNode document node = .ok raw ↔
    config? document.slots (node.content.follow document.slots) = some raw := by
  refine (Sections.reads document).readSection_bind_eq_ok_iff fun place fields raw => ?_
  obtain ⟨queue, bench⟩ := fields
  cases queue <;> simp [Sections.finish, Sections.raw?]

/-- **A document is read as what it says**, if it is one document. -/
theorem Raw.ofDocument_eq_ok_iff {raw : Raw} : Raw.ofDocument document = .ok raw ↔ document.sound = true ∧
    ∃ root, document.root = some root ∧
      config? document.slots (root.content.follow document.slots) = some raw := by
  rw [Raw.ofDocument]
  cases document.root with
  | none => simp [Sections.finish, bind, Except.bind]
  | some root =>
    simp only [bind_eq_ok_iff, Raw.ofNode_eq_ok_iff, Option.some.injEq, exists_eq_left']
    cases document.sound <;> simp [pure, Except.pure]

end Config

end SharedRing
