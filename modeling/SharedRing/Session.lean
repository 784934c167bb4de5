import SharedRing.Segment.Creation
import SharedRing.Session.Step

/-!
# Sessions

A session holds segments, queues and mapped regions under ids, on one system. A step makes, uses or
drops one of them; an id that was never made, or was dropped, is answered as unknown, and a failed
creation stores nothing. What is made under an id in use replaces it, once it has been made.
-/

namespace SharedRing

/-- Put a value in front under a key that then occurs once. -/
def bindKey {α : Type} (key : String) (value : α) (entries : List (String × α)) : List (String × α) :=
  (key, value) :: entries.filter (·.1 ≠ key)

structure Session where
  system : System
  segments : List (String × QueueSegment)
  queues : List (String × MessageQueue)
  regions : List (String × MappedRegion)

namespace Session

def empty : Session := { system := .empty, segments := [], queues := [], regions := [] }

def segment? (session : Session) (id : String) : Option QueueSegment := session.segments.lookup id

def queue? (session : Session) (id : String) : Option MessageQueue := session.queues.lookup id

def region? (session : Session) (id : String) : Option MappedRegion := session.regions.lookup id

def object? (session : Session) (id : String) : Option Nat :=
  session.segment? id >>= fun segment => session.system.object? segment.fd

def perform {α : Type} (session : Session) (operation : Access α) : α × Session :=
  let { system, segments, queues, regions } := session
  let (result, after) := system.perform operation
  (result, { system := after, segments, queues, regions })

/-! ## Segments -/

def releaseSegment (session : Session) (id : String) : Session :=
  match session.segment? id with
  | some segment =>
    { session with
      system := segment.release session.system
      segments := session.segments.filter (·.1 ≠ id) }
  | none => session

def readCounters (system : System) (segment : QueueSegment) : CounterReading :=
  { read := segment.readCounter system, write := segment.writeCounter system }

def reportSegment (system : System) (segment : QueueSegment) : SegmentReport :=
  { segment
    objectSize := (system.length? segment.fd).toOption.getD 0
    counters := readCounters system segment }

def keepSegment (session : Session) (id : String)
    (outcome : System × Except SharedMemoryError QueueSegment) : Answer × Session :=
  match outcome with
  | (system, .error error) => (.refused error, { session with system })
  | (system, .ok segment) =>
    let released := { session with system }.releaseSegment id
    (.segment (reportSegment system segment),
      { released with segments := bindKey id segment released.segments })

/-- Make a segment of a geometry, which has to have a layout. -/
def makeSegment (session : Session) (id : String) (quantumSize quantumCount : Nat)
    (make : QueueLayout → System × Except SharedMemoryError QueueSegment) : Answer × Session :=
  match QueueLayout.ofGeometry quantumSize quantumCount with
  | .error fault => (.refused (.invalidLayout fault), session)
  | .ok layout => session.keepSegment id (make layout)

def resetSegment (session : Session) (segment : QueueSegment) : Answer × Session :=
  match segment.resetCounters session.system with
  | (system, .error fault) => (.refused (.counterAccess fault), { session with system })
  | (system, .ok ()) => (.counters (readCounters system segment), { session with system })

/-! ## Queues -/

/-- The file descriptors of sources, if all their segments are known. -/
def resolve (session : Session) (sources : List DescriptorSource) : Option (List Int) :=
  sources.mapM fun
    | .segment id => (session.segment? id).map fun segment => (segment.fd : Int)
    | .number fd => some fd

def descriptor? (session : Session) : RegionSource → Option RegionDescriptor
  | .segment id => (session.segment? id).map (·.descriptor)
  | .custom sources grantors quantumSize quantumCount =>
    (session.resolve sources).map fun fds =>
      { handle := ⟨fds⟩, grantors, quantumSize, quantumCount }

/-- Make a queue on the session's system; a reported one has to be valid. -/
def makeQueue (session : Session) (element : ElementType) (reported : Bool)
    (descriptor : RegionDescriptor) : Except (Stop Error) MessageQueue :=
  let request := fun _ => session.system.request
  if reported then MessageQueue.ofDescriptor? pageSize request element descriptor
  else (MessageQueue.ofDescriptor pageSize request element descriptor).mapError .faulted

def reportQueue (queue : MessageQueue) : Access QueueReport := do
  let toRead ← queue.availableToRead
  let toWrite ← queue.availableToWrite
  let debug ← queue.debug
  return { queue, toRead, toWrite, debug }

def infoQueue (session : Session) (queue : MessageQueue) : Answer × Session :=
  let (report, after) := session.perform (reportQueue queue)
  (.queue report, after)

def keepQueue (session : Session) (id : String) (outcome : Except (Stop Error) MessageQueue) :
    Answer × Session :=
  match outcome with
  | .error (.failed error) => (.failed error, session)
  | .error (.faulted fault) => (.faulted fault, session)
  | .ok queue =>
    { session with queues := bindKey id queue session.queues }.infoQueue queue

/-- The outcome of a call with what is available after it. -/
def movement (queue : MessageQueue) (moved : Bool) (buffer : Option (List Element)) :
    Access Movement := do
  let toRead ← queue.availableToRead
  let toWrite ← queue.availableToWrite
  return { moved, toRead, toWrite, buffer }

def afterWrite (queue : MessageQueue) (call : Access Bool) : Access Movement := do
  movement queue (← call) none

def afterRead (queue : MessageQueue) (call : Access (Bool × List Element)) : Access Movement := do
  let (filled, buffer) ← call
  movement queue filled (some buffer)

def move (session : Session) (operation : Access Movement) : Answer × Session :=
  let (result, after) := session.perform operation
  (.moved result, after)

/-! ## Regions and transfers -/

def mapRegion (session : Session) (id : String) (fds : List Int) (grantor : Grantor) :
    Answer × Session :=
  match MappedRegion.map pageSize session.system.request ⟨fds⟩ grantor with
  | .error (.failed fault) => (.refused (.mapFailed fault), session)
  | .error (.faulted fault) => (.faulted fault, session)
  | .ok region =>
    (.region region.length (region.lead % pageSize),
      { session with regions := bindKey id region session.regions })

def readRegion (region : MappedRegion) (start count : Nat) : Access Answer := do
  return .bytes (← Access.takeBytes (region.place start) count)

def writeRegion (region : MappedRegion) (start : Nat) (bytes : List UInt8) : Access Answer := do
  Access.putBytes (region.place start) bytes
  return .bytes bytes

def transfer (session : Session) (segment : QueueSegment) (first : UInt64)
    (total writeBatch readBatch : Nat) : Answer × Session :=
  match Transfer.openQueues pageSize (fun _ => session.system.request) segment.descriptor with
  | .error (.failed error) => (.failed error, session)
  | .error (.faulted fault) => (.faulted fault, session)
  | .ok (source, sink) =>
    let transfer := Transfer.start source sink first total writeBatch readBatch false
    let (ended, after) := session.perform transfer.run
    (.transferred ended.consumer.tally (readCounters after.system segment), after)

/-! ## Steps -/

def drop (session : Session) (id : String) : Answer × Session :=
  let found := (session.segment? id).isSome || (session.queue? id).isSome || (session.region? id).isSome
  let released := session.releaseSegment id
  (.dropped found,
    { released with
      queues := released.queues.filter (·.1 ≠ id)
      regions := released.regions.filter (·.1 ≠ id) })

def withKnown {α : Type} (session : Session) (known : Option α) (go : α → Answer × Session) :
    Answer × Session :=
  match known with
  | some value => go value
  | none => (.unknownId, session)

/-- One step and its answer. -/
def step (session : Session) : Step → Answer × Session
  | .create seg named name quantumSize quantumCount =>
    session.makeSegment seg quantumSize quantumCount fun layout =>
      QueueSegment.create session.system named name layout
  | .openNamed seg name quantumSize quantumCount =>
    session.makeSegment seg quantumSize quantumCount fun layout =>
      QueueSegment.openNamed session.system name layout
  | .createFrom seg config => session.keepSegment seg (QueueSegment.ofConfig session.system config)
  | .segment seg =>
    session.withKnown (session.segment? seg) fun segment =>
      (.segment (reportSegment session.system segment), session)
  | .counters seg =>
    session.withKnown (session.segment? seg) fun segment =>
      (.counters (readCounters session.system segment), session)
  | .reset seg => session.withKnown (session.segment? seg) session.resetSegment
  | .truncate seg size =>
    session.withKnown (session.object? seg) fun object =>
      (.done, { session with system := session.system.resize object size })
  | .limit size => (.done, { session with system := { session.system with limit := size } })
  | .peek seg offset count =>
    session.withKnown (session.object? seg) fun object =>
      (.bytes (session.system.memory.bytes ⟨object, offset⟩ count), session)
  | .poke seg offset bytes =>
    session.withKnown (session.object? seg) fun object =>
      (.done, { session with system := session.system.storeBytes object offset bytes })
  | .drop id => session.drop id
  | .queue q element reported source =>
    session.withKnown (session.descriptor? source) fun descriptor =>
      session.keepQueue q (session.makeQueue element reported descriptor)
  | .info q => session.withKnown (session.queue? q) session.infoQueue
  | .write q elements =>
    session.withKnown (session.queue? q) fun queue =>
      session.move (afterWrite queue (queue.write elements))
  | .writeOne q element =>
    session.withKnown (session.queue? q) fun queue =>
      session.move (afterWrite queue (queue.writeOne element))
  | .read q count =>
    session.withKnown (session.queue? q) fun queue =>
      session.move (afterRead queue (queue.read (queue.blank count)))
  | .readOne q =>
    session.withKnown (session.queue? q) fun queue =>
      session.move (afterRead queue (queue.readOne queue.element.zero))
  | .map r sources grantor =>
    session.withKnown (session.resolve sources) fun fds => session.mapRegion r fds grantor
  | .regionRead r start count =>
    session.withKnown (session.region? r) fun region => session.perform (readRegion region start count)
  | .regionWrite r start bytes =>
    session.withKnown (session.region? r) fun region => session.perform (writeRegion region start bytes)
  | .stream seg first total writeBatch readBatch =>
    session.withKnown (session.segment? seg) fun segment =>
      session.transfer segment first total writeBatch readBatch

/-- The answers to a row of steps, and the session after them. -/
def run (session : Session) : List Step → List Answer × Session
  | [] => ([], session)
  | step :: steps =>
    let (answer, next) := session.step step
    let (answers, last) := next.run steps
    (answer :: answers, last)

end Session

end SharedRing
