import SharedRing.Descriptor

/-!
# Layout of a queue in one backing object

The allocating side puts all three regions into one object: the read counter at 0, the write counter
at 64, on a cache line of its own, and the ring from 128 to the end.
-/

namespace SharedRing

/-- A queue's geometry, with the ring's size in bytes. -/
structure QueueLayout where
  quantumSize : Nat
  quantumCount : Nat
  ringBytes : Nat
deriving DecidableEq, Repr

namespace QueueLayout

def readCounterOffset : Nat := 0
def writeCounterOffset : Nat := 64
def dataOffset : Nat := 128

/-- The ring's size in bytes, if it is a word and the object's length is an offset. -/
def ringBytes? (quantumSize quantumCount : Nat) : Option Nat :=
  (multiplyWords quantumSize quantumCount).toOption.filter fun bytes =>
    (addWords bytes dataOffset).toOption.any (· ≤ maxOffset)

/-- `new` of `QueueLayout`. The ring must not be empty, and the object's length has to be an offset. -/
def ofGeometry (quantumSize quantumCount : Nat) : Except LayoutFault QueueLayout :=
  if quantumSize = 0 ∨ quantumCount = 0 then
    .error (.emptyRing quantumSize quantumCount)
  else match ringBytes? quantumSize quantumCount with
    | some ringBytes => .ok { quantumSize, quantumCount, ringBytes }
    | none => .error (.overflow quantumSize quantumCount)

/-- `total_size`, the length of the backing object. -/
def totalSize (layout : QueueLayout) : Nat := dataOffset + layout.ringBytes

def grantors (layout : QueueLayout) : List Grantor :=
  [⟨0, readCounterOffset, counterSize⟩, ⟨0, writeCounterOffset, counterSize⟩,
   ⟨0, dataOffset, layout.ringBytes⟩]

/-- The descriptor of an object laid out this way. -/
def descriptor (layout : QueueLayout) (fd : Int) : RegionDescriptor :=
  { handle := ⟨[fd]⟩
    grantors := layout.grantors
    quantumSize := layout.quantumSize
    quantumCount := layout.quantumCount }

end QueueLayout

end SharedRing
