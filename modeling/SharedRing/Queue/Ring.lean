import SharedRing.Access
import SharedRing.Transaction

/-!
# The ring

Two counters of bytes, one of the bytes ever written and one of the bytes ever read, and a row of
bytes in which a counter's remainder is the place to go on. The counters wrap at the word size, so the
bytes to read are their difference as words. The producer stores only the write counter and the
consumer only the read counter, each after the bytes have been copied.

A request is carried out in full or refused with nothing changed. Every access of the operations
stands in its own place here: both counters are loaded for the check, once more to begin, and the own
counter once more after copying.
-/

namespace SharedRing

/-- Where the three mapped regions of a queue start, and the ring's size: `MappedRing`. -/
structure Ring where
  readCounter : Address
  writeCounter : Address
  data : Address
  bytes : Nat
deriving DecidableEq, Repr

namespace Ring

open Access (loadWord storeWord putBytes takeBytes)

def availableToRead (ring : Ring) : Access Nat := do
  let written ← loadWord ring.writeCounter
  let read ← loadWord ring.readCounter
  return (written - read).toNat

/-- `available_to_write`: none if the counters are further apart than the ring is long. -/
def availableToWrite (ring : Ring) : Access Nat := do
  return ring.bytes - (← ring.availableToRead)

/-- `transaction`, with spans by their offsets in the data object. -/
def transaction (ring : Ring) (position : UInt64) (count : Nat) : Transaction :=
  .ofRing ring.data.offset ring.bytes position.toNat count

def place (ring : Ring) (span : Span) : Address := ⟨ring.data.object, span.address⟩

def copyIn (ring : Ring) : List Span → List UInt8 → Access Nat
  | [], _ => return 0
  | span :: spans, source => do
    putBytes (ring.place span) (source.take span.length)
    let rest ← copyIn ring spans (source.drop span.length)
    return span.length + rest

def copyOut (ring : Ring) : List Span → List UInt8 → Access (Nat × List UInt8)
  | [], buffer => return (0, buffer)
  | span :: spans, buffer => do
    let bytes ← takeBytes (ring.place span) span.length
    let (rest, tail) ← copyOut ring spans (buffer.drop span.length)
    return (span.length + rest, bytes ++ tail)

/-- `begin_write`: the spans to fill. The read counter is loaded first, so that the space is free before it is
filled again. -/
def beginWrite (ring : Ring) (count : Nat) : Access Transaction := do
  let _ ← loadWord ring.readCounter
  let position ← loadWord ring.writeCounter
  return ring.transaction position count

def commitWrite (ring : Ring) (count : Nat) : Access Unit := do
  let position ← loadWord ring.writeCounter
  storeWord ring.writeCounter (position + UInt64.ofNat count)

/-- `begin_read`: the spans to copy. The write counter is loaded first, so that the bytes are there before they are
copied. -/
def beginRead (ring : Ring) (count : Nat) : Access Transaction := do
  let _ ← loadWord ring.writeCounter
  let position ← loadWord ring.readCounter
  return ring.transaction position count

def commitRead (ring : Ring) (count : Nat) : Access Unit := do
  let position ← loadWord ring.readCounter
  storeWord ring.readCounter (position + UInt64.ofNat count)

/-- `write_bytes`: copy bytes into the ring and publish them. -/
def writeBytes (ring : Ring) (source : List UInt8) : Access Nat := do
  let transaction ← ring.beginWrite source.length
  let copied ← ring.copyIn transaction.spans source
  ring.commitWrite copied
  return copied

/-- `read_bytes`: copy bytes out of the ring and give back their space. -/
def readBytes (ring : Ring) (buffer : List UInt8) : Access (Nat × List UInt8) := do
  let transaction ← ring.beginRead buffer.length
  let (copied, filled) ← ring.copyOut transaction.spans buffer
  ring.commitRead copied
  return (copied, filled)

def write (ring : Ring) (source : List UInt8) : Access Bool := do
  if source.isEmpty then return true
  if (← ring.availableToWrite) < source.length then return false
  return (← ring.writeBytes source) == source.length

/-- The byte part of `read`: fill all of the buffer, or leave it as it is. Counters that are too far apart make no
request longer than the ring possible. -/
def read (ring : Ring) (buffer : List UInt8) : Access (Bool × List UInt8) := do
  if buffer.isEmpty then return (true, buffer)
  if ring.bytes < buffer.length then return (false, buffer)
  if (← ring.availableToRead) < buffer.length then return (false, buffer)
  let (copied, filled) ← ring.readBytes buffer
  return (copied == buffer.length, filled)

end Ring

end SharedRing
