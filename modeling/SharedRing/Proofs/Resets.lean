import SharedRing.Proofs.Creations
import SharedRing.Proofs.Interference
import SharedRing.Proofs.Roles

/-!
# What zeroing the counters leaves, if the limit refuses it

A write that the limit cuts short has stored what lies below the limit (`System.memory_writeAt`), and zeroing the
counters stops at the first write that fails. So in each case it is the counters' bytes below the limit that have
become zero, and nothing else has changed (`QueueSegment.zeroed_resetCounters`). If all of them are below it, the
counters have been reset; if not, then they are as they were only if there was nothing to zero
(`reset_zeroes_below_limit`).
-/

namespace SharedRing

namespace Memory

/-- The bytes of a region have become zero, and no others have changed. -/
structure Zeroed (region : Address → Prop) (before after : Memory) : Prop where
  zero : ∀ place, region place → after.byte place = 0
  kept : ∀ place, ¬ region place → after.byte place = before.byte place

namespace Zeroed

variable {region other : Address → Prop} {before middle after : Memory}

theorem congr (h : Zeroed region before after) (same : ∀ place, region place ↔ other place) :
    Zeroed other before after := by
  rwa [← funext fun place => propext (same place)]

theorem trans (first : Zeroed region before middle) (second : Zeroed other middle after) :
    Zeroed (fun place => region place ∨ other place) before after := by
  constructor
  case zero =>
    intro place inside
    by_cases again : other place
    · exact second.zero place again
    · rw [second.kept place again]
      exact first.zero place (inside.resolve_right again)
  case kept =>
    intro place outside
    rw [not_or] at outside
    rw [second.kept place outside.2, first.kept place outside.1]

/-- Nothing has changed exactly if there was nothing to zero. -/
theorem byte_eq_iff (h : Zeroed region before after) :
    (∀ place, after.byte place = before.byte place) ↔ ∀ place, region place → before.byte place = 0 := by
  constructor
  · intro same place inside
    rw [← same, h.zero place inside]
  · intro nothing place
    by_cases inside : region place
    · rw [h.zero place inside, nothing place inside]
    · exact h.kept place inside

end Zeroed

theorem zeroed_setBytes (memory : Memory) (place : Address) {bytes : List UInt8} (zeros : ∀ byte ∈ bytes, byte = 0) :
    Zeroed (fun other => other.object = place.object ∧ place.offset ≤ other.offset ∧
      other.offset - place.offset < bytes.length) memory (memory.setBytes place bytes) := by
  constructor
  case zero =>
    rintro other ⟨object, starts, inside⟩
    rw [byte_setBytes, if_pos ⟨object, starts⟩, List.getElem?_eq_getElem inside]
    exact zeros _ (List.getElem_mem inside)
  case kept =>
    intro other outside
    rw [byte_setBytes]
    split
    · rename_i behind
      rw [List.getElem?_eq_none (Nat.not_lt.1 fun inside => outside ⟨behind.1, behind.2, inside⟩)]
      rfl
    · rfl

end Memory

theorem Memory.word_eq_zero {memory : Memory} {place : Address}
    (zero : ∀ i < counterSize, memory.byte (place.advance i) = 0) : memory.word place = 0 := by
  rw [← word_zero place]
  refine word_congr fun i below => ?_
  rw [zero i below, byte_zero]

/-- What an operation results in depends on the bytes alone. -/
theorem Access.run_congr {α : Type} (operation : Access α) {memory other : Memory}
    (same : ∀ place, memory.byte place = other.byte place) : (operation.run memory).1 = (operation.run other).1 := by
  have within : Within (Event.InRegion fun _ => True) operation := by
    intro events result trace event member
    cases event <;> exact fun _ _ => trivial
  exact (run_within within fun place _ => same place).1

namespace System

variable {system : System} {fd object offset : Nat} {bytes : List UInt8}

/-- A byte is let through if the limit allows it to be the last one. -/
theorem lt_length_admitted_iff {i : Nat} :
    i < (system.admitted offset bytes).length ↔ i < bytes.length ∧ system.allows (offset + i + 1) = true := by
  unfold admitted allows
  cases system.limit with
  | none => simp
  | some limit =>
    simp only [List.length_take, decide_eq_true_eq]
    omega

theorem admitted_isPrefix (system : System) (offset : Nat) (bytes : List UInt8) :
    system.admitted offset bytes <+: bytes := by
  unfold admitted
  cases system.limit with
  | none => exact List.prefix_rfl
  | some limit => exact List.take_prefix _ _

/-- Whether it succeeds or not, a write stores the bytes that lie below the limit. -/
theorem memory_writeAt (found : system.object? fd = some object) (offset : Nat) (bytes : List UInt8) :
    (system.writeAt fd offset bytes).1.memory = system.memory.setBytes ⟨object, offset⟩
      (system.admitted offset bytes) := by
  simp only [writeAt, found]
  split
  · rename_i whole
    rw [(system.admitted_isPrefix offset bytes).eq_of_length whole]
    rfl
  · split
    · rename_i none_let
      rw [List.isEmpty_iff.1 none_let]
      rfl
    · rfl

/-- What the limit does not allow an object to grow to is not written in full. -/
theorem writeAt_refused (found : system.object? fd = some object) (nonempty : bytes ≠ [])
    (refused : system.allows (offset + bytes.length) = false) :
    (system.writeAt fd offset bytes).2 = .error .tooLarge := by
  have length_pos := List.length_pos_iff.2 nonempty
  have cut : (system.admitted offset bytes).length ≠ bytes.length := by
    intro whole
    have last : bytes.length - 1 < (system.admitted offset bytes).length := by omega
    have allowed := (lt_length_admitted_iff.1 last).2
    rw [show offset + (bytes.length - 1) + 1 = offset + bytes.length by omega, refused] at allowed
    exact Bool.false_ne_true allowed
  simp only [writeAt, found, if_neg cut]
  split
  · rfl
  · rfl

theorem length_le_writeAt (system : System) (fd offset : Nat) (bytes : List UInt8) (other : Nat) :
    system.length other ≤ (system.writeAt fd offset bytes).1.length other := by
  obtain same | ⟨object, stored, -, same⟩ := system.writeAt_cases fd offset bytes
  · exact Nat.le_of_eq (congrArg (System.length · other) same).symm
  · rw [same]
    exact system.length_le_storeBytes object offset stored other

end System

/-- What is available to read is what lies between the counters. -/
theorem MessageQueue.run_availableToRead {queue : MessageQueue} {ring : Ring} (on_ring : queue.ring = some ring)
    (memory : Memory) : (queue.availableToRead.run memory).1 = ring.unread memory := by
  simp only [availableToRead, on_ring, Ring.run_availableToRead]

namespace QueueSegment

open QueueLayout (readCounterOffset writeCounterOffset)

def InCounter (object offset : Nat) (place : Address) : Prop :=
  place.object = object ∧ offset ≤ place.offset ∧ place.offset < offset + counterSize

def InCounters (object : Nat) (place : Address) : Prop :=
  InCounter object readCounterOffset place ∨ InCounter object writeCounterOffset place

def CountersKept (object : Nat) (before after : Memory) : Prop :=
  ∀ offset, offset = readCounterOffset ∨ offset = writeCounterOffset →
    after.word ⟨object, offset⟩ = before.word ⟨object, offset⟩

variable {system : System} {segment : QueueSegment} {object : Nat}

theorem counter_end_le {offset : Nat} (counter : offset = readCounterOffset ∨ offset = writeCounterOffset) :
    offset + counterSize ≤ writeCounterOffset + counterSize := by
  obtain rfl | rfl := counter
  · decide
  · exact Nat.le_refl _

theorem inCounter_advance (object offset : Nat) {i : Nat} (below : i < counterSize) :
    InCounter object offset ((⟨object, offset⟩ : Address).advance i) :=
  ⟨rfl, Nat.le_add_right _ _, Nat.add_lt_add_left below _⟩

theorem InCounter.exists_advance {offset : Nat} {place : Address} (inside : InCounter object offset place) :
    ∃ i < counterSize, (⟨object, offset⟩ : Address).advance i = place := by
  obtain ⟨rfl, starts, below⟩ := inside
  refine ⟨place.offset - offset, (Nat.sub_lt_iff_lt_add' starts).2 below, ?_⟩
  rw [Address.advance, Nat.add_sub_of_le starts]

/-- Of a change within the counters, that they are kept says that there is none. -/
theorem countersKept_iff {region : Address → Prop} {before after : Memory} (h : Memory.Zeroed region before after)
    (within : ∀ place, region place → InCounters object place) :
    CountersKept object before after ↔ ∀ place, after.byte place = before.byte place := by
  constructor
  · intro kept place
    by_cases inside : region place
    · obtain reading | writing := within place inside
      · obtain ⟨i, below, rfl⟩ := reading.exists_advance
        exact Memory.byte_eq_of_word_eq (kept _ (.inl rfl)) below
      · obtain ⟨i, below, rfl⟩ := writing.exists_advance
        exact Memory.byte_eq_of_word_eq (kept _ (.inr rfl)) below
    · exact h.kept place inside
  · intro same offset _
    exact Memory.word_congr fun i _ => same _

/-! ## One counter -/

theorem zeroCounter_refused (found : system.object? segment.fd = some object) {offset : Nat}
    (refused : system.allows (offset + counterSize) = false) :
    (segment.zeroCounter system offset).2 = .error (.zeroing offset .tooLarge) := by
  have cut := @System.writeAt_refused system segment.fd object offset (bytesOfNat counterSize 0) found (by decide)
    (by rw [length_bytesOfNat]; exact refused)
  simp only [zeroCounter, cut, mapError_error]

theorem zeroed_zeroCounter (found : system.object? segment.fd = some object) (offset : Nat) :
    Memory.Zeroed (fun place => InCounter object offset place ∧ system.allows (place.offset + 1) = true)
      system.memory (segment.zeroCounter system offset).1.memory := by
  have zeros : ∀ byte ∈ system.admitted offset (bytesOfNat counterSize 0), byte = 0 := by
    intro byte member
    have zeros_eq : bytesOfNat counterSize 0 = List.replicate counterSize 0 := by decide
    have among := (system.admitted_isPrefix offset _).subset member
    rw [zeros_eq] at among
    exact List.eq_of_mem_replicate among
  have zeroed := system.memory.zeroed_setBytes ⟨object, offset⟩ zeros
  rw [← System.memory_writeAt found] at zeroed
  refine zeroed.congr fun place => ?_
  rw [System.lt_length_admitted_iff, length_bytesOfNat]
  unfold InCounter
  constructor
  · rintro ⟨same, starts, inside, allowed⟩
    rw [Nat.add_sub_of_le starts] at allowed
    exact ⟨⟨same, starts, (Nat.sub_lt_iff_lt_add' starts).1 inside⟩, allowed⟩
  · rintro ⟨⟨same, starts, inside⟩, allowed⟩
    refine ⟨same, starts, Nat.sub_lt_left_of_lt_add starts inside, ?_⟩
    rwa [Nat.add_sub_of_le starts]

theorem object?_zeroCounter (system : System) (segment : QueueSegment) (offset fd : Nat) :
    (segment.zeroCounter system offset).1.object? fd = system.object? fd := by
  change (system.writeAt segment.fd offset (bytesOfNat counterSize 0)).1.object? fd = _
  obtain same | ⟨object, stored, -, same⟩ := system.writeAt_cases segment.fd offset (bytesOfNat counterSize 0)
  · rw [same]
  · rw [same, System.object?_storeBytes]

/-! ## Both counters -/

/-- What each write keeps, zeroing both counters keeps. -/
theorem resetCounters_preserves {P : System → Prop} (start : P system)
    (step : ∀ now offset, P now → P (segment.zeroCounter now offset).1) : P (segment.resetCounters system).1 := by
  have first := step system readCounterOffset start
  unfold resetCounters
  split
  · rename_i middle once
    rw [once] at first
    exact step middle writeCounterOffset first
  · exact first

theorem object?_resetCounters (system : System) (segment : QueueSegment) (fd : Nat) :
    (segment.resetCounters system).1.object? fd = system.object? fd :=
  resetCounters_preserves (P := fun now => now.object? fd = system.object? fd) rfl fun now offset same =>
    (object?_zeroCounter now segment offset fd).trans same

theorem length_le_resetCounters (system : System) (segment : QueueSegment) (other : Nat) :
    system.length other ≤ (segment.resetCounters system).1.length other :=
  resetCounters_preserves (P := fun now => system.length other ≤ now.length other) (Nat.le_refl _) fun now offset le =>
    Nat.le_trans le (now.length_le_writeAt segment.fd offset _ other)

theorem resetCounters_of_failed {fault : CounterFault}
    (failed : (segment.zeroCounter system readCounterOffset).2 = .error fault) :
    segment.resetCounters system = segment.zeroCounter system readCounterOffset := by
  rcases once : segment.zeroCounter system readCounterOffset with ⟨after, outcome⟩
  rw [once] at failed
  rw [resetCounters, once, show outcome = .error fault from failed]

/-- If the limit allows the first write, then the second decides, in a system that differs in the first's bytes. -/
theorem resetCounters_of_allows (found : system.object? segment.fd = some object)
    (allowed : system.allows (readCounterOffset + counterSize) = true) :
    ∃ middle, segment.zeroCounter system readCounterOffset = (middle, .ok ()) ∧
      middle.object? segment.fd = some object ∧ (∀ size, middle.allows size = system.allows size) ∧
      segment.resetCounters system = segment.zeroCounter middle writeCounterOffset := by
  have once := zeroCounter_eq_of_allows found allowed
  refine ⟨_, once, ?_, fun _ => System.allows_storeBytes _ _ _ _ _, by rw [resetCounters, once]⟩
  rw [System.object?_storeBytes, found]

/-- The read counter lies before the write counter, so a limit that stops the first write leaves nothing of the
second. -/
theorem not_allows_writeCounter (refused : system.allows (readCounterOffset + counterSize) = false) {place : Address}
    (inside : InCounter object writeCounterOffset place) : system.allows (place.offset + 1) = false := by
  have before : readCounterOffset + counterSize ≤ writeCounterOffset := by decide
  have le : readCounterOffset + counterSize ≤ place.offset + 1 := Nat.le_succ_of_le (Nat.le_trans before inside.2.1)
  exact Bool.eq_false_iff.2 fun allowed => Bool.eq_false_iff.1 refused (System.allows_of_le allowed le)

/-- **Zeroing the counters zeroes their bytes below the limit**, whether it succeeds or not. -/
theorem zeroed_resetCounters (found : system.object? segment.fd = some object) :
    Memory.Zeroed (fun place => InCounters object place ∧ system.allows (place.offset + 1) = true)
      system.memory (segment.resetCounters system).1.memory := by
  have first := zeroed_zeroCounter found readCounterOffset
  cases allowed : system.allows (readCounterOffset + counterSize) with
  | true =>
    obtain ⟨middle, once, held, same_limit, both⟩ := resetCounters_of_allows found allowed
    have second := zeroed_zeroCounter held writeCounterOffset
    rw [once] at first
    rw [both]
    refine (first.trans second).congr fun place => ?_
    rw [same_limit, InCounters, or_and_right]
  | false =>
    rw [resetCounters_of_failed (zeroCounter_refused found allowed)]
    refine first.congr fun place => ?_
    rw [InCounters, or_and_right]
    refine (or_iff_left ?_).symm
    rintro ⟨inside, below⟩
    rw [not_allows_writeCounter allowed inside] at below
    exact Bool.false_ne_true below

theorem resetCounters_eq_of_allows (found : system.object? segment.fd = some object)
    (allowed : system.allows (writeCounterOffset + counterSize) = true) :
    segment.resetCounters system =
      ((system.storeBytes object readCounterOffset (bytesOfNat counterSize 0)).storeBytes object writeCounterOffset
        (bytesOfNat counterSize 0), .ok ()) := by
  have first : readCounterOffset + counterSize ≤ writeCounterOffset + counterSize := by decide
  have once := zeroCounter_eq_of_allows found (System.allows_of_le allowed first)
  rw [resetCounters, once]
  refine zeroCounter_eq_of_allows ?_ ?_
  · rw [System.object?_storeBytes, found]
  · rw [System.allows_storeBytes, allowed]

/-- The counters are zeroed exactly if the limit allows an object that ends with them. -/
theorem resetCounters_isOk_iff (found : system.object? segment.fd = some object) :
    (segment.resetCounters system).2 = .ok () ↔ system.allows (writeCounterOffset + counterSize) = true := by
  cases allowed : system.allows (writeCounterOffset + counterSize) with
  | true => exact iff_of_true (by rw [resetCounters_eq_of_allows found allowed]) rfl
  | false =>
    refine iff_of_false (fun succeeded => ?_) Bool.false_ne_true
    cases first : system.allows (readCounterOffset + counterSize) with
    | false =>
      have failed := zeroCounter_refused found first
      rw [resetCounters_of_failed failed, failed] at succeeded
      cases succeeded
    | true =>
      obtain ⟨middle, -, held, same_limit, both⟩ := resetCounters_of_allows found first
      rw [both, zeroCounter_refused held ((same_limit _).trans allowed)] at succeeded
      cases succeeded

theorem length_resetCounters (found : system.object? segment.fd = some object) (known : object < system.lengths.length)
    (allowed : system.allows (writeCounterOffset + counterSize) = true) :
    (segment.resetCounters system).1.length object = max (system.length object) (writeCounterOffset + counterSize) := by
  rw [resetCounters_eq_of_allows found allowed]
  generalize zeroed : system.storeBytes object readCounterOffset (bytesOfNat counterSize 0) = middle
  have known' : object < middle.lengths.length := by
    rw [← zeroed]
    exact Nat.lt_of_lt_of_eq known (List.length_set ..).symm
  rw [System.length_storeBytes, if_pos ⟨rfl, known'⟩, ← zeroed, System.length_storeBytes, if_pos ⟨rfl, known⟩,
    length_bytesOfNat, Nat.max_assoc, Nat.max_eq_right (counter_end_le (.inl rfl))]

theorem word_resetCounters (found : system.object? segment.fd = some object)
    (allowed : system.allows (writeCounterOffset + counterSize) = true) {offset : Nat}
    (counter : offset = readCounterOffset ∨ offset = writeCounterOffset) :
    (segment.resetCounters system).1.memory.word ⟨object, offset⟩ = 0 := by
  refine Memory.word_eq_zero fun i below => (zeroed_resetCounters found).zero _ ?_
  have inside := inCounter_advance object offset below
  refine ⟨?_, System.allows_of_le allowed (Nat.le_trans inside.2.2 (counter_end_le counter))⟩
  obtain rfl | rfl := counter
  · exact .inl inside
  · exact .inr inside

/-- The counters have been reset. -/
structure CountersReset (segment : QueueSegment) (object : Nat) (before after : System) : Prop where
  readCounter_eq : segment.readCounter after = .ok 0
  writeCounter_eq : segment.writeCounter after = .ok 0
  /-- They are zero for all queues on the segment. -/
  queues : ∀ queue, MessageQueue.OpenedOn before.objects segment.descriptor queue → ∃ ring, queue.ring = some ring ∧
    after.memory.word ring.readCounter = 0 ∧ after.memory.word ring.writeCounter = 0
  kept : ∀ place, ¬ InCounters object place → after.memory.byte place = before.memory.byte place
  length_eq : after.length object = max (before.length object) (writeCounterOffset + counterSize)

/-- The counters have been zeroed as far as the limit allows it. -/
structure CountersCut (segment : QueueSegment) (object : Nat) (before after : System) : Prop where
  zeroed : Memory.Zeroed (fun place => InCounters object place ∧ before.allows (place.offset + 1) = true)
    before.memory after.memory
  /-- What the segment reads of a counter that lies in the object, before and after. -/
  readings : ∀ offset, offset + counterSize ≤ before.length object →
    segment.counter before offset = .ok (before.memory.word ⟨object, offset⟩) ∧
      segment.counter after offset = .ok (after.memory.word ⟨object, offset⟩)
  /-- The counters are as they were exactly if there was nothing to zero. -/
  kept_iff : CountersKept object before.memory after.memory ↔
    ∀ place, InCounters object place → before.allows (place.offset + 1) = true → before.memory.byte place = 0
  /-- Then no operation, of whichever queue, sees a difference. -/
  unseen : CountersKept object before.memory after.memory →
    ∀ (α : Type) (operation : Access α), (operation.run after.memory).1 = (operation.run before.memory).1

theorem countersReset_of_allows (found : system.object? segment.fd = some object) (known : object < system.lengths.length)
    (allowed : system.allows (writeCounterOffset + counterSize) = true) :
    CountersReset segment object system (segment.resetCounters system).1 := by
  have held := (object?_resetCounters system segment segment.fd).trans found
  have length_eq := length_resetCounters found known allowed
  have counters : ∀ offset, offset = readCounterOffset ∨ offset = writeCounterOffset →
      segment.counter (segment.resetCounters system).1 offset = .ok 0 := by
    intro offset counter
    have within : offset + counterSize ≤ (segment.resetCounters system).1.length object := by
      rw [length_eq]
      exact Nat.le_trans (counter_end_le counter) (Nat.le_max_right _ _)
    rw [counter_eq_word held within, word_resetCounters found allowed counter]
  constructor
  case readCounter_eq => exact counters _ (.inl rfl)
  case writeCounter_eq => exact counters _ (.inr rfl)
  case queues =>
    intro queue opened
    obtain ⟨-, ring_eq⟩ := opened.accepted_and_ring_eq
    rw [ringOf_descriptor found] at ring_eq
    exact ⟨_, ring_eq, word_resetCounters found allowed (.inl rfl), word_resetCounters found allowed (.inr rfl)⟩
  case kept => exact fun place outside => (zeroed_resetCounters found).kept place fun inside => outside inside.1
  case length_eq => exact length_eq

theorem countersCut (found : system.object? segment.fd = some object) :
    CountersCut segment object system (segment.resetCounters system).1 := by
  have zeroed := zeroed_resetCounters found
  have same_iff := countersKept_iff zeroed fun _ inside => inside.1
  constructor
  case zeroed => exact zeroed
  case readings =>
    intro offset within
    have held := (object?_resetCounters system segment segment.fd).trans found
    have longer := length_le_resetCounters system segment object
    exact ⟨counter_eq_word found within, counter_eq_word held (Nat.le_trans within longer)⟩
  case kept_iff =>
    rw [same_iff, zeroed.byte_eq_iff]
    exact forall_congr' fun place => and_imp
  case unseen => exact fun kept _ operation => operation.run_congr (same_iff.1 kept)

/-- **What zeroing the counters leaves.** It succeeds exactly if the limit allows an object that ends with the write
counter, and then the counters have been reset. If it fails, then their bytes below the limit are zero and all other
bytes are as they were, so that the counters have kept their values exactly if those bytes were zero before. -/
theorem reset_zeroes_below_limit {after : System} {outcome : Except CounterFault Unit}
    (found : system.object? segment.fd = some object) (known : object < system.lengths.length)
    (reset : segment.resetCounters system = (after, outcome)) :
    (outcome = .ok () ↔ system.allows (writeCounterOffset + counterSize) = true) ∧
      (outcome = .ok () → CountersReset segment object system after) ∧
      ∀ fault, outcome = .error fault → CountersCut segment object system after := by
  have isOk_iff := resetCounters_isOk_iff found
  have cut := countersCut found
  have whole := @countersReset_of_allows system segment object found known
  rw [reset] at isOk_iff cut whole
  exact ⟨isOk_iff, fun succeeded => whole (isOk_iff.1 succeeded), fun _ _ => cut⟩

/-- An anonymous segment for four words, whose counters stand at 4 and 8, in a system with a limit. -/
def halfReadSystem (limit : Option Nat) : System :=
  { memory := (Memory.zero.setWord ⟨0, readCounterOffset⟩ 4).setWord ⟨0, writeCounterOffset⟩ 8
    lengths := [144], names := [], descriptors := [(3, 0)], limit }

def halfReadSegment : QueueSegment :=
  { name := "words", fd := 3, layout := ⟨4, 4, 16⟩, named := false, owner := true }

/-- A limit at the counters' end lets both be zeroed. -/
theorem reset_up_to_counters_end :
    let after := (halfReadSegment.resetCounters (halfReadSystem (some 72))).1
    (halfReadSystem (some 72)).object? halfReadSegment.fd = some 0 ∧ 0 < (halfReadSystem (some 72)).lengths.length ∧
      halfReadSegment.readCounter after = .ok 0 ∧ halfReadSegment.writeCounter after = .ok 0 ∧
      after.length 0 = 144 := by
  intro after
  have found : (halfReadSystem (some 72)).object? halfReadSegment.fd = some 0 := rfl
  have known : 0 < (halfReadSystem (some 72)).lengths.length := by decide
  obtain ⟨isOk_iff, succeeds, -⟩ := reset_zeroes_below_limit found known rfl
  have done := succeeds (isOk_iff.2 rfl)
  exact ⟨found, known, done.readCounter_eq, done.writeCounter_eq, done.length_eq⟩

/-- A limit before the write counter lets the read counter alone be zeroed, which takes its value back: a queue that had
one word to read has two. -/
theorem refused_reset_moves_read_counter :
    let system := halfReadSystem (some 64)
    let after := (halfReadSegment.resetCounters system).1
    let queue : MessageQueue := ⟨.unsigned 4, halfReadSegment.descriptor, some (halfReadSegment.layout.ring 0)⟩
    MessageQueue.OpenedOn system.objects halfReadSegment.descriptor queue ∧
      (halfReadSegment.resetCounters system).2 = .error (.zeroing 64 .tooLarge) ∧
      halfReadSegment.readCounter system = .ok 4 ∧ halfReadSegment.readCounter after = .ok 0 ∧
      (queue.availableToRead.run system.memory).1 = 4 ∧ (queue.availableToRead.run after.memory).1 = 8 := by
  intro system after queue
  have found : system.object? halfReadSegment.fd = some 0 := rfl
  have within : readCounterOffset + counterSize ≤ system.length 0 := by decide
  have opened := @openedOn_ring halfReadSegment 0 system found (.unsigned 4) rfl (by decide)
  -- of the two writes, the second lies beyond the limit and stores nothing
  have reset : halfReadSegment.resetCounters system =
      (system.storeBytes 0 readCounterOffset (bytesOfNat counterSize 0), .error (.zeroing 64 .tooLarge)) := rfl
  have apart : Apart ⟨0, readCounterOffset⟩ 8 ⟨0, writeCounterOffset⟩ 8 := by decide
  have read : system.memory.word ⟨0, readCounterOffset⟩ = 4 :=
    (Memory.word_setWord_of_apart _ _ apart.symm).trans (Memory.word_setWord _ _ _)
  have write : system.memory.word ⟨0, writeCounterOffset⟩ = 8 := Memory.word_setWord _ _ _
  have read' : after.memory.word ⟨0, readCounterOffset⟩ = 0 := by
    rw [show after = _ from congrArg Prod.fst reset]
    exact Memory.word_setWord system.memory _ 0
  have write' : after.memory.word ⟨0, writeCounterOffset⟩ = 8 := by
    rw [show after = _ from congrArg Prod.fst reset]
    exact (Memory.word_setWord_of_apart system.memory 0 apart).trans write
  have on_ring : queue.ring = some (halfReadSegment.layout.ring 0) := rfl
  have available := MessageQueue.run_availableToRead on_ring
  rw [available, available]
  refine ⟨opened, congrArg Prod.snd reset, ?_, ?_, ?_, ?_⟩
  · rw [readCounter, counter_eq_word found within, read]
  · have held := (object?_resetCounters system halfReadSegment halfReadSegment.fd).trans found
    have longer := length_le_resetCounters system halfReadSegment 0
    rw [readCounter, counter_eq_word held (Nat.le_trans within longer), read']
  · rw [Ring.unread]
    change (system.memory.word ⟨0, writeCounterOffset⟩ - system.memory.word ⟨0, readCounterOffset⟩).toNat = 4
    rw [read, write]
    rfl
  · rw [Ring.unread]
    change (after.memory.word ⟨0, writeCounterOffset⟩ - after.memory.word ⟨0, readCounterOffset⟩).toNat = 8
    rw [read', write']
    rfl

end QueueSegment

end SharedRing
