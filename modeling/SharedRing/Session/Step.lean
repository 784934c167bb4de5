import SharedRing.Config
import SharedRing.Segment
import SharedRing.Transfer

/-!
# Steps of a session and their answers

What can be asked of a session, and what it answers.
-/

namespace SharedRing

/-- Where a file descriptor comes from: a segment of the session, or a number. -/
inductive DescriptorSource where
  | segment (id : String)
  | number (fd : Int)
deriving DecidableEq, Repr

inductive RegionSource where
  | segment (id : String)
  | custom (fds : List DescriptorSource) (grantors : List Grantor) (quantumSize quantumCount : Nat)
deriving DecidableEq, Repr

inductive Step where
  | create (seg : String) (named : Bool) (name : String) (quantumSize quantumCount : Nat)
  | openNamed (seg : String) (name : String) (quantumSize quantumCount : Nat)
  | createFrom (seg : String) (config : QueueConfig)
  | segment (seg : String)
  | counters (seg : String)
  | reset (seg : String)
  /-- An outsider sets the length of a segment's object. -/
  | truncate (seg : String) (size : Nat)
  | limit (size : Option Nat)
  /-- An outsider looks at bytes of a segment's object. -/
  | peek (seg : String) (offset count : Nat)
  /-- An outsider overwrites bytes of a segment's object. -/
  | poke (seg : String) (offset : Nat) (bytes : List UInt8)
  | drop (id : String)
  /-- Make a queue; a reported one has to be valid. -/
  | queue (q : String) (element : ElementType) (reported : Bool) (source : RegionSource)
  | info (q : String)
  | write (q : String) (elements : List Element)
  | writeOne (q : String) (element : Element)
  | read (q : String) (count : Nat)
  | readOne (q : String)
  | map (r : String) (fds : List DescriptorSource) (grantor : Grantor)
  | regionRead (r : String) (start count : Nat)
  | regionWrite (r : String) (start : Nat) (bytes : List UInt8)
  /-- Transfer words through two queues on a segment. -/
  | stream (seg : String) (first : UInt64) (total writeBatch readBatch : Nat)
deriving DecidableEq, Repr

structure CounterReading where
  read : Except CounterFault UInt64
  write : Except CounterFault UInt64
deriving Repr

structure SegmentReport where
  segment : QueueSegment
  objectSize : Nat
  counters : CounterReading
deriving Repr

structure QueueReport where
  queue : MessageQueue
  toRead : Nat
  toWrite : Nat
  debug : String
deriving Repr

structure Movement where
  moved : Bool
  toRead : Nat
  toWrite : Nat
  buffer : Option (List Element)
deriving Repr

inductive Answer where
  | done
  | dropped (found : Bool)
  | bytes (data : List UInt8)
  | segment (report : SegmentReport)
  | counters (reading : CounterReading)
  | queue (report : QueueReport)
  | moved (movement : Movement)
  /-- A region's length and the distance of its first byte from a page boundary. -/
  | region (length inPage : Nat)
  | transferred (tally : Tally) (counters : CounterReading)
  | unknownId
  | refused (error : SharedMemoryError)
  | failed (error : Error)
  | faulted (fault : Fault)
deriving Repr

end SharedRing
