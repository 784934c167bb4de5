import SharedRing.Config.Raw
import SharedRing.Layout

/-!
# Configurations

A configuration describes a queue's geometry, how its memory is allocated, and the parameters of the
throughput check. `validate` checks what was read against the ranges that a queue supports and reports
the first value that is out of range; `load` reads a text and checks it, `ofFile` does so with a
file's content.
-/

namespace SharedRing

structure QueueConfig where
  name : String
  quantumSize : Nat
  quantumCount : Nat
  /-- Named shared memory rather than an anonymous object. -/
  named : Bool
deriving DecidableEq, Repr

structure BenchConfig where
  /-- Elements to push through the queue. -/
  messages : Nat
  /-- Elements per call. -/
  batch : Nat
deriving DecidableEq, Repr

structure Config where
  queue : QueueConfig
  bench : BenchConfig
deriving DecidableEq, Repr

def QueueConfig.layout (config : QueueConfig) : Except LayoutFault QueueLayout :=
  QueueLayout.ofGeometry config.quantumSize config.quantumCount

namespace Config

/-- `MAX_QUANTUM_SIZE`: one page. -/
def maxQuantumSize : Nat := 4096

/-- `MAX_NAME_LEN`, in bytes. -/
def maxNameLength : Nat := 64

/-- What `validate_queue` asks of a name: its length in bytes, then its characters. -/
def checkName (name : String) : Except SettingError Unit :=
  if name.utf8ByteSize = 0 ∨ maxNameLength < name.utf8ByteSize then
    .error (.invalidValue "queue.name" name (.nameLength maxNameLength))
  else if name.toList.any fun c => c = '/' || c = '\x00' then
    .error (.invalidValue "queue.name" name .nameCharacters)
  else .ok ()

def require (field : String) (value : Option Nat) : Except SettingError Nat :=
  match value with
  | some n => .ok n
  | none => .error (.missingField field "queue")

def checkGeometry (quantumSize quantumCount : Nat) : Except SettingError Unit :=
  if quantumSize = 0 ∨ maxQuantumSize < quantumSize then
    .error (.invalidValue "queue.quantum_size" (toString quantumSize) (.sizeRange maxQuantumSize))
  else if quantumCount = 0 then
    .error (.invalidValue "queue.quantum_count" "0" .atLeastOne)
  else match QueueLayout.ofGeometry quantumSize quantumCount with
    | .error fault =>
      .error (.invalidValue "queue.quantum_count" (toString quantumCount) (.layout fault))
    | .ok _ => .ok ()

/-- `validate_queue`: the first check that fails is the error. -/
def validateQueue (raw : RawQueue) : Except SettingError QueueConfig := do
  checkName raw.name
  let quantumSize ← require "quantum_size" raw.quantumSize
  let quantumCount ← require "quantum_count" raw.quantumCount
  checkGeometry quantumSize quantumCount
  return { name := raw.name, quantumSize, quantumCount, named := raw.named }

/-- `validate_bench`: a batch that is larger than the ring could never be written. -/
def validateBench (raw : RawBench) (queue : QueueConfig) : Except SettingError BenchConfig :=
  if raw.messages = 0 then .error (.invalidValue "bench.messages" "0" .atLeastOne)
  else if raw.batch = 0 ∨ queue.quantumCount < raw.batch then
    .error (.invalidValue "bench.batch" (toString raw.batch) (.batchRange queue.quantumCount))
  else .ok { messages := raw.messages, batch := raw.batch }

def validate (raw : Raw) : Except SettingError Config := do
  let queue ← validateQueue raw.queue
  let bench ← validateBench raw.bench queue
  return { queue, bench }

def ofDocument (document : Yaml.Document) : Except Error Config := do
  let raw ← (Raw.ofDocument document).mapError fun error => .configParse (.shape error)
  (validate raw).mapError .setting

/-- `load_string`: read and check a text. -/
def load (text : String) : Except Error Config :=
  ofDocument (Yaml.Document.ofText text)

/-- What stands at a path. -/
inductive FileContent where
  | missing
  | directory
  | bytes (data : ByteArray)

/-- `load_file`: read and check the file at a path. -/
def ofFile (path : String) (content : FileContent) : Except Error Config :=
  let unreadable := fun fault => Error.io "reading config file" fault
  match content with
  | .missing => .error (.configNotFound path)
  | .directory => .error (unreadable .isDirectory)
  | .bytes data =>
    match String.fromUTF8? data with
    | some text => load text
    | none => .error (unreadable .notUtf8)

end Config

end SharedRing
