import SharedRing.Config.Mismatch
import SharedRing.Yaml.Node

/-!
# The shape of a configuration

A configuration is a mapping with a section `queue` and an optional section `bench`. Reading a section
is a fold over its entries in the order of the text: a known key is read into its field and may not
come twice, an unknown key is passed over whatever it holds, and what is missing at the end takes its
default. So only the set of entries counts, and of two faults the first one in the text is reported.
-/

namespace SharedRing.Config

open Yaml (Node Document Scalar)

/-- `RawQueueConfig`: the queue section as written. -/
structure RawQueue where
  name : String
  quantumSize : Option Nat
  quantumCount : Option Nat
  named : Bool
deriving DecidableEq, Repr

structure RawBench where
  messages : Nat
  batch : Nat
deriving DecidableEq, Repr

/-- `RawConfig`: a configuration as written, with defaults filled in and nothing checked. -/
structure Raw where
  queue : RawQueue
  bench : RawBench
deriving DecidableEq, Repr

def defaultName : String := "shmq"
def defaultMessages : Nat := 1000000
def defaultBatch : Nat := 16
def defaultBench : RawBench := ⟨defaultMessages, defaultBatch⟩

/-! ## Reading single values -/

/-- The complaint about a scalar of the wrong type. -/
def scalarComplaint (scalar : Scalar) (wanted : Wanted) : Complaint :=
  match scalar.meaning with
  | .ok meaning => .invalidType (.scalar meaning) wanted
  | .error type => .invalidValue scalar.text type

def readScalar (document : Document) (path : List String) (wanted : Wanted)
    (read : Scalar → Option α) (node : Node) : Except ShapeError α :=
  match document.follow node with
  | .scalar mark scalar =>
    match read scalar with
    | some value => .ok value
    | none => .error (.mismatch ⟨path, mark⟩ (scalarComplaint scalar wanted))
  | .sequence mark _ => .error (.mismatch ⟨path, mark⟩ (.invalidType .sequence wanted))
  | .mapping mark _ => .error (.mismatch ⟨path, mark⟩ (.invalidType .mapping wanted))
  | .alias _ | .missing => .error .malformed

def readText (document : Document) (path : List String) (wanted : Wanted) (node : Node) :
    Except ShapeError String :=
  readScalar document path wanted (fun scalar => some scalar.text) node

def readWord (document : Document) (path : List String) (wanted : Wanted) (node : Node) :
    Except ShapeError Nat :=
  readScalar document path wanted Scalar.word? node

def readBoolean (document : Document) (path : List String) (node : Node) : Except ShapeError Bool :=
  readScalar document path .boolean Scalar.boolean? node

/-- Whether a scalar in the place of an optional value leaves it out; a scalar that is tagged as null
and does not say null is an error of the section around it. -/
def leavesOut (around : Place) (scalar : Scalar) : Except ShapeError Bool :=
  if scalar.style ≠ .plain then .ok false
  else match scalar.tag with
    | none => .ok (scalar.text = "" || Yaml.isNullWord scalar.text)
    | some tag =>
      if tag ≠ Yaml.coreTag "null" then .ok false
      else if Yaml.isNullWord scalar.text then .ok true
      else .error (.mismatch around (.invalidValue scalar.text "null"))

def readOptionalSize (document : Document) (around : Place) (path : List String) (node : Node) :
    Except ShapeError (Option Nat) := do
  let absent ← match document.follow node with
    | .scalar _ scalar => leavesOut around scalar
    | _ => .ok false
  if absent then return none
  return some (← readWord document path .size node)

/-! ## Reading sections -/

def readKey (document : Document) (around : Place) (key : Node) : Except ShapeError String :=
  readText document around.path .key key

/-- How a key appears in the path to its value; a key given by an alias appears as `?`. -/
def keyInPath (key : Node) (name : String) : String :=
  match key with
  | .alias _ => "?"
  | _ => name

def readEntries (document : Document) (around : Place)
    (readField : Place → List String → σ → String → Node → Except ShapeError σ) :
    List (Node × Node) → σ → Except ShapeError σ
  | [], fields => .ok fields
  | (key, value) :: entries, fields => do
    let name ← readKey document around key
    let path := around.inside (keyInPath key name)
    readEntries document around readField entries (← readField around path fields name value)

/-- Read a section: a mapping, or nothing at all, which is a mapping without entries. -/
def readSection (document : Document) (path : List String) (wanted : Wanted)
    (readField : Place → List String → σ → String → Node → Except ShapeError σ) (fields : σ)
    (node : Node) : Except ShapeError (Place × σ) :=
  match document.follow node with
  | .mapping mark entries => do
    let place : Place := ⟨path, mark⟩
    return (place, ← readEntries document place readField entries fields)
  | .scalar mark scalar =>
    if scalar.text = "" && scalar.style = .plain then .ok (⟨path, mark⟩, fields)
    else .error (.mismatch ⟨path, mark⟩ (scalarComplaint scalar wanted))
  | .sequence mark _ => .error (.mismatch ⟨path, mark⟩ (.invalidType .sequence wanted))
  | .alias _ | .missing => .error .malformed

/-- Take a field that may be given once. -/
def once (around : Place) (name : String) (field : Option α) (read : Except ShapeError β) :
    Except ShapeError β :=
  if field.isSome then .error (.mismatch around (.duplicateField name)) else read

def passOver (fields : σ) (value : Node) : Except ShapeError σ :=
  if value.isWhole then .ok fields else .error .malformed

structure QueueFields where
  name : Option String := none
  quantumSize : Option (Option Nat) := none
  quantumCount : Option (Option Nat) := none
  named : Option Bool := none

def QueueFields.read (document : Document) (around : Place) (path : List String)
    (fields : QueueFields) (key : String) (value : Node) : Except ShapeError QueueFields :=
  match key with
  | "name" => once around key fields.name do
    return { fields with name := some (← readText document path .text value) }
  | "quantum_size" => once around key fields.quantumSize do
    return { fields with quantumSize := some (← readOptionalSize document around path value) }
  | "quantum_count" => once around key fields.quantumCount do
    return { fields with quantumCount := some (← readOptionalSize document around path value) }
  | "named" => once around key fields.named do
    return { fields with named := some (← readBoolean document path value) }
  | _ => passOver fields value

/-- The section with its defaults filled in. -/
def QueueFields.finish (fields : QueueFields) : RawQueue :=
  { name := fields.name.getD defaultName
    quantumSize := fields.quantumSize.join
    quantumCount := fields.quantumCount.join
    named := fields.named.getD false }

def RawQueue.read (document : Document) (path : List String) (node : Node) : Except ShapeError RawQueue := do
  let (_, fields) ← readSection document path .queueSection (QueueFields.read document) {} node
  return fields.finish

structure BenchFields where
  messages : Option Nat := none
  batch : Option Nat := none

def BenchFields.read (document : Document) (around : Place) (path : List String)
    (fields : BenchFields) (key : String) (value : Node) : Except ShapeError BenchFields :=
  match key with
  | "messages" => once around key fields.messages do
    return { fields with messages := some (← readWord document path .count value) }
  | "batch" => once around key fields.batch do
    return { fields with batch := some (← readWord document path .size value) }
  | _ => passOver fields value

def BenchFields.finish (fields : BenchFields) : RawBench :=
  { messages := fields.messages.getD defaultMessages
    batch := fields.batch.getD defaultBatch }

def RawBench.read (document : Document) (path : List String) (node : Node) : Except ShapeError RawBench := do
  let (_, fields) ← readSection document path .benchSection (BenchFields.read document) {} node
  return fields.finish

/-! ## Reading a configuration -/

structure Sections where
  queue : Option RawQueue := none
  bench : Option RawBench := none

def Sections.read (document : Document) (around : Place) (path : List String)
    (fields : Sections) (key : String) (value : Node) : Except ShapeError Sections :=
  match key with
  | "queue" => once around key fields.queue do
    return { fields with queue := some (← RawQueue.read document path value) }
  | "bench" => once around key fields.bench do
    return { fields with bench := some (← RawBench.read document path value) }
  | _ => passOver fields value

/-- A configuration has a queue section. -/
def Sections.finish (around : Place) (fields : Sections) : Except ShapeError Raw :=
  match fields.queue with
  | some queue => .ok ⟨queue, fields.bench.getD defaultBench⟩
  | none => .error (.mismatch around (.missingField "queue"))

def Raw.ofNode (document : Document) (node : Node) : Except ShapeError Raw := do
  let (place, fields) ← readSection document [] .sections (Sections.read document) {} node
  fields.finish place

/-- Read a configuration from a document. A stream without a document counts as a mapping without
entries; what follows the document is looked at last. -/
def Raw.ofDocument (document : Document) : Except ShapeError Raw := do
  let raw ← match document.root with
    | some node => Raw.ofNode document node
    | none => Sections.finish ⟨[], document.ending⟩ {}
  if document.sound then return raw
  .error .malformed

end SharedRing.Config
