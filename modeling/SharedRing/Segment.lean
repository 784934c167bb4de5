import SharedRing.Layout
import SharedRing.System

/-!
# Segments

A segment is a backing object sized for one queue, held by a file descriptor. Letting it go closes the
descriptor and, for the segment that made a named object, frees the name; what has been mapped of the
object stays. Its counters can be read and zeroed through the descriptor, which takes the object's
length into account.
-/

namespace SharedRing

structure QueueSegment where
  name : String
  fd : Nat
  layout : QueueLayout
  named : Bool
  /-- Whether this segment made the object, and so frees its name. -/
  owner : Bool
deriving DecidableEq, Repr

namespace QueueSegment

def descriptor (segment : QueueSegment) : RegionDescriptor :=
  segment.layout.descriptor segment.fd

/-- `drop`: close the file descriptor. Only the segment that made a named object frees its name. -/
def release (system : System) (segment : QueueSegment) : System :=
  let closed := system.close segment.fd
  if segment.named && segment.owner then closed.unlink segment.name else closed

/-! ## Names -/

/-- Check that a text has no NUL; positions count its bytes from `start`. -/
def checkNul (start : Nat) (name : String) : Except NameFault Unit :=
  if name.toList.contains '\x00' then
    let before := name.toList.takeWhile (· ≠ '\x00')
    .error (.nul (start + (String.ofList before).utf8ByteSize))
  else .ok ()

def checkLabel (name : String) : Except NameFault Unit := checkNul 0 name

/-- `shm_name`: check the name of a named object. In the name space it follows a slash. -/
def checkName (name : String) : Except NameFault Unit :=
  if name.isEmpty then .error .empty
  else if name.toList.contains '/' then .error .slash
  else checkNul 1 name

/-! ## Counters -/

def zeroCounter (system : System) (segment : QueueSegment) (offset : Nat) :
    System × Except CounterFault Unit :=
  let (after, outcome) := system.writeAt segment.fd offset (bytesOfNat counterSize 0)
  (after, outcome.mapError (.zeroing offset))

/-- `reset_counters`: zero both counters, first the read counter. A failure ends it. -/
def resetCounters (system : System) (segment : QueueSegment) : System × Except CounterFault Unit :=
  match segment.zeroCounter system QueueLayout.readCounterOffset with
  | (after, .ok ()) => segment.zeroCounter after QueueLayout.writeCounterOffset
  | failure => failure

/-- `counter_at`: a counter, read through the file descriptor. -/
def counter (system : System) (segment : QueueSegment) (offset : Nat) : Except CounterFault UInt64 :=
  match system.readAt segment.fd offset counterSize with
  | some bytes => .ok (UInt64.ofNat (natOfBytes bytes))
  | none => .error (.shortRead offset)

def readCounter (system : System) (segment : QueueSegment) : Except CounterFault UInt64 :=
  segment.counter system QueueLayout.readCounterOffset

def writeCounter (system : System) (segment : QueueSegment) : Except CounterFault UInt64 :=
  segment.counter system QueueLayout.writeCounterOffset

end QueueSegment

end SharedRing
