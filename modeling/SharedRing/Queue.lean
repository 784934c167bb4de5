import SharedRing.Mapping
import SharedRing.Queue.Element
import SharedRing.Queue.Ring

/-!
# Message queues

A queue of elements over a descriptor's three regions. Opening one checks the descriptor against the
element size and maps the read counter, the write counter and the data, in this order; the first
failure is the reason. A queue that was made from a descriptor that could not be opened is invalid: it
is empty, full, and refuses every request, also the empty one.

The counters are never stored by opening. Any number of queues may be open on one descriptor, each by
mappings of its own.
-/

namespace SharedRing

structure MessageQueue where
  element : ElementType
  descriptor : RegionDescriptor
  /-- The mapped ring, if the queue is valid. -/
  ring : Option Ring
deriving DecidableEq, Repr

namespace MessageQueue

/-! ## Opening -/

/-- Map the grantor of a slot. The system answers each slot on its own. -/
def mapSlot (page : Nat) (request : Nat → MapRequest) (descriptor : RegionDescriptor) (slot : Nat) :
    Except (Stop Error) MappedRegion :=
  match descriptor.grantor? slot with
  | none =>
    .error (.failed (.descriptor
      (.tooFewGrantors descriptor.grantors.length RegionDescriptor.requiredSlots)))
  | some grantor =>
    match MappedRegion.map page (request slot) descriptor.handle grantor with
    | .ok region => .ok region
    | .error (.failed fault) => .error (.failed (.sharedMemory (.mapFailed fault)))
    | .error (.faulted fault) => .error (.faulted fault)

/-- Check that a counter is aligned. A mapping is, so its region is if the lead is. -/
def checkAligned (region : MappedRegion) : Except (Stop Error) Unit :=
  if region.lead % counterSize = 0 then .ok ()
  else .error (.faulted (.misaligned (region.lead % counterSize)))

/-- `map` of `MappedRing`: map the three regions. -/
def mapRing (page : Nat) (request : Nat → MapRequest) (descriptor : RegionDescriptor) :
    Except (Stop Error) Ring := do
  let read ← mapSlot page request descriptor RegionDescriptor.readSlot
  let write ← mapSlot page request descriptor RegionDescriptor.writeSlot
  let data ← mapSlot page request descriptor RegionDescriptor.dataSlot
  checkAligned read
  checkAligned write
  let bytes ← (multiplyWords descriptor.quantumSize descriptor.quantumCount).mapError .faulted
  return { readCounter := read.start, writeCounter := write.start, data := data.start, bytes }

/-- `open_ring`: check a descriptor for an element size and map its regions. -/
def openRing (page : Nat) (request : Nat → MapRequest) (descriptor : RegionDescriptor)
    (elementSize : Nat) : Except (Stop Error) Ring := do
  (descriptor.validate elementSize).mapError fun error => .failed (.descriptor error)
  mapRing page request descriptor

/-- `try_new`: open a queue, or say why not. -/
def ofDescriptor? (page : Nat) (request : Nat → MapRequest) (element : ElementType)
    (descriptor : RegionDescriptor) : Except (Stop Error) MessageQueue := do
  let ring ← openRing page request descriptor element.size
  return { element, descriptor, ring := some ring }

/-- `new`: make a queue; it is invalid if the descriptor cannot be opened. -/
def ofDescriptor (page : Nat) (request : Nat → MapRequest) (element : ElementType)
    (descriptor : RegionDescriptor) : Except Fault MessageQueue :=
  match openRing page request descriptor element.size with
  | .ok ring => .ok { element, descriptor, ring := some ring }
  | .error (.failed _) => .ok { element, descriptor, ring := none }
  | .error (.faulted fault) => .error fault

def isValid (queue : MessageQueue) : Bool := queue.ring.isSome

/-! ## Operations -/

def availableToRead (queue : MessageQueue) : Access Nat :=
  match queue.ring with
  | some ring => ring.availableToRead
  | none => return 0

def availableToWrite (queue : MessageQueue) : Access Nat :=
  match queue.ring with
  | some ring => ring.availableToWrite
  | none => return 0

/-- `write`: all of the elements, or nothing. -/
def write (queue : MessageQueue) (elements : List Element) : Access Bool :=
  match queue.ring with
  | some ring => ring.write (queue.element.encodeAll elements)
  | none => return false

def writeOne (queue : MessageQueue) (element : Element) : Access Bool := queue.write [element]

/-- `read`: fill all of a buffer, or leave it as it is. -/
def read (queue : MessageQueue) (buffer : List Element) : Access (Bool × List Element) :=
  match queue.ring with
  | some ring => do
    let (filled, bytes) ← ring.read (queue.element.encodeAll buffer)
    return (filled, queue.element.decodeAll buffer.length bytes)
  | none => return (false, buffer)

def readOne (queue : MessageQueue) (element : Element) : Access (Bool × List Element) :=
  queue.read [element]

def blank (queue : MessageQueue) (count : Nat) : List Element :=
  List.replicate count queue.element.zero

def debug (queue : MessageQueue) : Access String := do
  let available ← queue.availableToRead
  return Text.record "MessageQueue"
    [("quantum_size", toString queue.descriptor.quantumSize),
     ("quantum_count", toString queue.descriptor.quantumCount),
     ("valid", toString queue.isValid), ("available_to_read", toString available)]

end MessageQueue

end SharedRing
