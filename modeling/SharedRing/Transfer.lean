import SharedRing.Queue

/-!
# Transfers

A producer passes a run of words through a queue to a consumer, each in batches of its own and each
with a queue of its own on the same descriptor. Both poll: a call that is refused is made again. One
poll is one call, so the two sides may be interleaved call by call; `Transfer.run` lets them take turns.

The consumer keeps a tally of what arrives: how many words, and the first one that was not the one
expected. A strict consumer stops there.
-/

namespace SharedRing

/-- Word `index` of a run; words wrap. -/
def wordOfRun (first : UInt64) (index : Nat) : UInt64 := first + UInt64.ofNat index

def Element.ofWord (word : UInt64) : Element := .integer word.toNat

def Element.toWord : Element → UInt64
  | .integer value => UInt64.ofInt value
  | .bytes data => UInt64.ofNat (natOfBytes data)

def ElementType.word : ElementType := .unsigned 8

/-! ## The producer -/

structure Producer where
  queue : MessageQueue
  first : UInt64
  total : Nat
  batch : Nat
  sent : Nat
  /-- Calls refused because the ring was full. -/
  refused : Nat
deriving DecidableEq, Repr

namespace Producer

def isDone (producer : Producer) : Bool := producer.total ≤ producer.sent

def next (producer : Producer) : Nat := min producer.batch (producer.total - producer.sent)

def chunk (producer : Producer) : List Element :=
  (List.range producer.next).map fun i => .ofWord (wordOfRun producer.first (producer.sent + i))

/-- One turn of the loop in `produce`. -/
def poll (producer : Producer) : Access Producer := do
  if ← producer.queue.write producer.chunk then
    return { producer with sent := producer.sent + producer.next }
  else return { producer with refused := producer.refused + 1 }

end Producer

/-! ## The consumer -/

/-- A word that arrived in another's place. -/
structure Misplaced where
  expected : UInt64
  received : UInt64
deriving DecidableEq, Repr

structure Tally where
  received : Nat
  /-- The first word that was not the one expected. -/
  misplaced : Option Misplaced
deriving DecidableEq, Repr

namespace Tally

def empty : Tally := { received := 0, misplaced := none }

def add (tally : Tally) (first word : UInt64) : Tally :=
  let expected := wordOfRun first tally.received
  let misplaced := match tally.misplaced with
    | some earlier => some earlier
    | none => if word = expected then none else some ⟨expected, word⟩
  { received := tally.received + 1, misplaced }

end Tally

structure Consumer where
  queue : MessageQueue
  first : UInt64
  total : Nat
  batch : Nat
  /-- Whether a misplaced word ends the transfer. -/
  strict : Bool
  tally : Tally
  refused : Nat
deriving DecidableEq, Repr

namespace Consumer

def isDone (consumer : Consumer) : Bool :=
  consumer.total ≤ consumer.tally.received || consumer.strict && consumer.tally.misplaced.isSome

def next (consumer : Consumer) : Nat :=
  min consumer.batch (consumer.total - consumer.tally.received)

def take (consumer : Consumer) (elements : List Element) : Consumer :=
  { consumer with
    tally := elements.foldl (fun tally element => tally.add consumer.first element.toWord) consumer.tally }

/-- One turn of the loop in `consume`. -/
def poll (consumer : Consumer) : Access Consumer := do
  let (filled, elements) ← consumer.queue.read (consumer.queue.blank consumer.next)
  if filled then return consumer.take elements
  else return { consumer with refused := consumer.refused + 1 }

end Consumer

/-! ## Both together -/

structure Transfer where
  producer : Producer
  consumer : Consumer
deriving DecidableEq, Repr

namespace Transfer

def start (source sink : MessageQueue) (first : UInt64) (total writeBatch readBatch : Nat)
    (strict : Bool) : Transfer :=
  { producer := { queue := source, first, total, batch := writeBatch, sent := 0, refused := 0 }
    consumer :=
      { queue := sink, first, total, batch := readBatch, strict, tally := .empty, refused := 0 } }

/-- Open a queue of words for each side on one descriptor, the producer's first. -/
def openQueues (page : Nat) (request : Nat → MapRequest) (descriptor : RegionDescriptor) :
    Except (Stop Error) (MessageQueue × MessageQueue) := do
  let source ← MessageQueue.ofDescriptor? page request .word descriptor
  let sink ← MessageQueue.ofDescriptor? page request .word descriptor
  return (source, sink)

def isDone (transfer : Transfer) : Bool := transfer.producer.isDone && transfer.consumer.isDone

def pollProducer (transfer : Transfer) : Access Transfer := do
  if transfer.producer.isDone then return transfer
  return { transfer with producer := ← transfer.producer.poll }

def pollConsumer (transfer : Transfer) : Access Transfer := do
  if transfer.consumer.isDone then return transfer
  return { transfer with consumer := ← transfer.consumer.poll }

def round (transfer : Transfer) : Access Transfer := do
  (← transfer.pollProducer).pollConsumer

def rounds : Nat → Transfer → Access Transfer
  | 0, transfer => return transfer
  | n + 1, transfer => do
    if transfer.isDone then return transfer
    rounds n (← transfer.round)

/-- Let both sides take turns. As long as one of them gets on in every round, these are enough rounds to
pass all words in batches of one. -/
def run (transfer : Transfer) : Access Transfer :=
  rounds (transfer.producer.total + transfer.consumer.total) transfer

end Transfer

end SharedRing
