import SharedRing.Command.Arguments
import SharedRing.Segment.Creation
import SharedRing.Transfer

/-!
# Commands

What each command prints and the status it ends with. `validate` checks a configuration file,
`inspect` shows where a configuration's queue lies and what of it is mapped, and `bench` passes
numbered messages through the queue, a producer and a consumer taking turns, and checks their order.

A command either prints its lines and ends with status 0, or fails with a reason and prints nothing
else.
-/

namespace SharedRing

inductive BenchError where
  | quantumSize (actual : Nat)
  | outOfOrder (misplaced : Misplaced)
deriving DecidableEq, Repr

def BenchError.debug : BenchError → String
  | .quantumSize actual => Text.wrapped "QuantumSize" (toString actual)
  | .outOfOrder misplaced =>
    Text.record "OutOfOrder"
      [("expected", toString misplaced.expected), ("received", toString misplaced.received)]

/-- Why a command fails. -/
inductive Failure where
  /-- A configuration file that is not valid. -/
  | invalid (error : Error)
  | general (error : Error)
  | sharedMemory (error : SharedMemoryError)
  | bench (error : BenchError)
  | fault (fault : Fault)
deriving DecidableEq, Repr

def Failure.lines : Failure → List String
  | .invalid error => ["✗ Configuration validation failed:", "  " ++ error.message]
  | .general error => ["Error: " ++ error.debug]
  | .sharedMemory error => ["Error: " ++ error.debug]
  | .bench error => ["Error: " ++ error.debug]
  | .fault cause => [cause.message]

/-- The status of a failure: 1, or 101 for a computation that broke off. -/
def Failure.status : Failure → Nat
  | .fault _ => 101
  | _ => 1

/-- What a call prints, and the status it ends with. -/
structure Outcome where
  status : Nat
  output : List String
  errors : List String
deriving DecidableEq, Repr

def Outcome.ofResult : Except Failure (List String) → Outcome
  | .ok lines => { status := 0, output := lines, errors := [] }
  | .error failure => { status := failure.status, output := [], errors := failure.lines }

namespace Command

def layout (config : Config) : Except Failure QueueLayout :=
  config.queue.layout.mapError fun fault => .sharedMemory (.invalidLayout fault)

/-! ## Validation -/

def backing (named : Bool) : String :=
  if named then "named POSIX shared memory" else "anonymous memfd"

/-- `execute` of `validate`: check a configuration and show it. -/
def validateLines (loaded : Except Error Config) : Except Failure (List String) := do
  let config ← loaded.mapError .invalid
  let layout ← layout config
  return [
    "✓ Configuration is valid",
    "",
    "Queue Settings:",
    s!"  Name:          {config.queue.name}",
    "  Backing:       " ++ backing config.queue.named,
    s!"  Quantum Size:  {config.queue.quantumSize} bytes",
    s!"  Quantum Count: {config.queue.quantumCount}",
    s!"  Ring Size:     {layout.ringBytes} bytes",
    "",
    "Bench Settings:",
    s!"  Messages:      {config.bench.messages}",
    s!"  Batch:         {config.bench.batch}"]

/-! ## Inspection -/

def padLeft (width : Nat) (s : String) : String := String.ofList (s.toList.leftpad width ' ')

def padRight (width : Nat) (s : String) : String := String.ofList (s.toList.rightpad width ' ')

def roles : List String := ["read counter", "write counter", "data ring"]

/-- The line of a slot: its grantor and the window that is mapped of it. -/
def slotLine (slot : Nat) (role : String) (grantor : Grantor) (window : Window) : String :=
  "  ".intercalate
    ["", padRight 4 (toString slot), padRight 13 role, padLeft 8 (toString grantor.offset),
     padLeft 8 (toString grantor.extent), padLeft 10 (toString window.offset),
     padLeft 10 (toString window.length)]

def slotLines (page : Nat) : Nat → List (String × Grantor) → Except Failure (List String)
  | _, [] => return []
  | slot, (role, grantor) :: rest => do
    let window ← (grantor.window page).mapError .fault
    return slotLine slot role grantor window :: (← slotLines page (slot + 1) rest)

/-- `execute` of `inspect`: show the layout of a configuration's queue. -/
def inspectLines (page : Nat) (loaded : Except Error Config) : Except Failure (List String) := do
  let config ← loaded.mapError .general
  let layout ← layout config
  let rows ← slotLines page 0 (roles.zip layout.grantors)
  return [
    s!"Segment '{config.queue.name}'",
    s!"  Total size: {layout.totalSize} bytes",
    s!"  Page size:  {page} bytes",
    "",
    "  slot  role           offset    extent    map offset  map length"] ++ rows

/-! ## Measurement -/

def messageSize : Nat := 8

/-- The transfer of a measurement, before its first call, and the segment it runs on. -/
def prepare (system : System) (config : Config) (total : Nat) :
    Except Failure (System × QueueSegment × Transfer) := do
  if config.queue.quantumSize ≠ messageSize then
    throw (.bench (.quantumSize config.queue.quantumSize))
  let (created, outcome) := QueueSegment.ofConfig system config.queue
  let segment ← outcome.mapError .sharedMemory
  match Transfer.openQueues pageSize (fun _ => created.request) segment.descriptor with
  | .error (.failed error) => throw (.general error)
  | .error (.faulted fault) => throw (.fault fault)
  | .ok (source, sink) =>
    let batch := config.bench.batch
    return (created, segment, Transfer.start source sink 0 total batch batch true)

def finalCounter (counter : Except CounterFault UInt64) : Except Failure UInt64 :=
  counter.mapError fun fault => .sharedMemory (.counterAccess fault)

/-- `execute` of `bench`: pass messages through a configuration's queue. The lines that time it and count the polls
are left out, and with them the product `total * 8` of the bandwidth line. -/
def benchLines (system : System) (messages : Option Nat) (loaded : Except Error Config) :
    Except Failure (List String) := do
  let config ← loaded.mapError .general
  let total := messages.getD config.bench.messages
  let (created, segment, transfer) ← prepare system config total
  let (ended, after) := created.perform transfer.run
  match ended.consumer.tally.misplaced with
  | some misplaced => throw (.bench (.outOfOrder misplaced))
  | none =>
    let read ← finalCounter (segment.readCounter after)
    let write ← finalCounter (segment.writeCounter after)
    return [
      s!"✓ {total} messages delivered in order",
      s!"  Final counters:  read={read} write={write}"]

end Command

namespace Invocation

def file? : Invocation → Option String
  | .run _ (.validate file) => some file
  | .run config _ => some config
  | .version => none
  | .help => none

def versionLine : String := "shmq 0.1.0"

def usageLines : List String :=
  ["Usage: shmq [-c FILE] [-v] COMMAND",
   "  validate FILE  check a configuration file",
   "  inspect        show the layout of a configuration's queue",
   "  bench [-m N]   pass messages through a configuration's queue"]

/-- What a call prints. Files are read through `content`. -/
def outcome (content : String → Config.FileContent) : Invocation → Outcome
  | .version => { status := 0, output := [versionLine], errors := [] }
  | .help => { status := 0, output := usageLines, errors := [] }
  | .run config command =>
    let load := fun file => Config.ofFile file (content file)
    .ofResult <| match command with
      | .validate file => Command.validateLines (load file)
      | .inspect => Command.inspectLines pageSize (load config)
      | .bench messages => Command.benchLines .empty messages (load config)

/-- What a call with these arguments prints; one that is not understood prints how to call. -/
def outcomeOfArguments (content : String → Config.FileContent) (arguments : List String) : Outcome :=
  match ofArguments arguments with
  | some invocation => invocation.outcome content
  | none => { status := 2, output := [], errors := usageLines }

end Invocation

end SharedRing
