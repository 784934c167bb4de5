import SharedRing.Error

/-!
# Region descriptors

A queue lives in three slices of backing objects: the read counter, the write counter and the data
ring. A descriptor names the objects by a set of file descriptors and each slice by a grantor; it is
made by whoever allocated the memory and handed to both sides of the queue.

`validate` checks a descriptor against the element size that a side will transfer, before anything is
mapped, and reports the first thing that is wrong.
-/

namespace SharedRing

/-- `COUNTER_SIZE`: the size of a shared counter in bytes; counters are aligned to it. -/
def counterSize : Nat := 8

/-- A slice of a backing object. -/
structure Grantor where
  fdIndex : Nat
  offset : Nat
  extent : Nat
deriving DecidableEq, Repr

def Grantor.debug (grantor : Grantor) : String :=
  Text.record "Grantor"
    [("fd_index", toString grantor.fdIndex), ("offset", toString grantor.offset),
     ("extent", toString grantor.extent)]

/-- `NativeHandle`: the file descriptors of a queue's objects. -/
structure Handle where
  fds : List Int
deriving DecidableEq, Repr

/-- `is_valid`: there is a file descriptor and none is negative. -/
def Handle.isValid (handle : Handle) : Bool :=
  !handle.fds.isEmpty && handle.fds.all (0 ≤ ·)

def Handle.fd? (handle : Handle) (index : Nat) : Option Int := handle.fds[index]?

def Handle.debug (handle : Handle) : String :=
  Text.record "NativeHandle" [("fds", Text.bracketed (handle.fds.map toString))]

structure RegionDescriptor where
  handle : Handle
  /-- By slot: read counter, write counter, data ring, and any others. -/
  grantors : List Grantor
  quantumSize : Nat
  quantumCount : Nat
deriving DecidableEq, Repr

namespace RegionDescriptor

def readSlot : Nat := 0
def writeSlot : Nat := 1
def dataSlot : Nat := 2

/-- `MIN_GRANTOR_COUNT`: the three regions have to be there. -/
def requiredSlots : Nat := 3

def grantor? (descriptor : RegionDescriptor) (slot : Nat) : Option Grantor :=
  descriptor.grantors[slot]?

/-- `ring_bytes`: the ring's capacity in bytes, if that is a word. -/
def ringBytes? (descriptor : RegionDescriptor) : Option Nat :=
  let bytes := descriptor.quantumSize * descriptor.quantumCount
  if bytes < wordLimit then some bytes else none

def debug (descriptor : RegionDescriptor) : String :=
  Text.record "RegionDescriptor"
    [("handle", descriptor.handle.debug),
     ("grantors", Text.bracketed (descriptor.grantors.map Grantor.debug)),
     ("quantum_size", toString descriptor.quantumSize),
     ("quantum_count", toString descriptor.quantumCount)]

/-! ## Validation -/

def checkHandle (handle : Handle) : Except DescriptorError Unit :=
  if handle.isValid then .ok ()
  else if handle.fds.isEmpty then .error (.invalidHandle .empty)
  else .error (.invalidHandle (.negative handle.fds))

/-- What `validate` asks of every grantor: its object is in the handle, and it ends at an offset. -/
def checkGrantor (fdCount slot : Nat) (grantor : Grantor) : Except DescriptorError Unit :=
  if fdCount ≤ grantor.fdIndex then
    .error (.fdIndexOutOfRange slot grantor.fdIndex fdCount)
  else if maxOffset < grantor.offset + grantor.extent then
    .error (.invalidGrantor slot (.endOverflows grantor.offset grantor.extent))
  else .ok ()

def checkGrantors (fdCount : Nat) : Nat → List Grantor → Except DescriptorError Unit
  | _, [] => .ok ()
  | slot, grantor :: rest => do
    checkGrantor fdCount slot grantor
    checkGrantors fdCount (slot + 1) rest

/-- What `validate` asks of a counter's grantor: it holds a word and is aligned to one. -/
def checkCounter (slot : Nat) (grantor : Grantor) : Except DescriptorError Unit :=
  if grantor.extent < counterSize then
    .error (.invalidGrantor slot (.counterTooSmall grantor.extent))
  else if grantor.offset % counterSize ≠ 0 then
    .error (.invalidGrantor slot (.counterMisaligned grantor.offset))
  else .ok ()

def checkData (ringBytes : Nat) (grantor : Grantor) : Except DescriptorError Unit :=
  if grantor.extent < ringBytes then
    .error (.invalidGrantor dataSlot (.dataTooSmall grantor.extent ringBytes))
  else .ok ()

def checkRing (descriptor : RegionDescriptor) (expected : Nat) : Except DescriptorError Nat :=
  let size := descriptor.quantumSize
  let count := descriptor.quantumCount
  if size ≠ expected then .error (.quantumSizeMismatch expected size)
  else if size = 0 ∨ count = 0 then .error (.emptyRing size count)
  else match descriptor.ringBytes? with
    | some bytes => if bytes ≤ maxOffset then .ok bytes else .error (.sizeOverflow size count)
    | none => .error (.sizeOverflow size count)

/-- `validate`: check a descriptor against the size of the elements to transfer. -/
def validate (descriptor : RegionDescriptor) (expected : Nat) : Except DescriptorError Unit := do
  checkHandle descriptor.handle
  match descriptor.grantors with
  | read :: write :: data :: _ => do
    let ringBytes ← descriptor.checkRing expected
    checkGrantors descriptor.handle.fds.length 0 descriptor.grantors
    checkCounter readSlot read
    checkCounter writeSlot write
    checkData ringBytes data
  | grantors => .error (.tooFewGrantors grantors.length requiredSlots)

end RegionDescriptor

end SharedRing
