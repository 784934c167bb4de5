import Mathlib.Data.List.SplitLengths
import Mathlib.Data.Nat.ModEq
import SharedRing.Proofs.Elements
import SharedRing.Proofs.Opening

/-!
# Counters that wrap

A counter wraps at the word limit and its position in the ring at the ring's end, and the two agree only
if the ring's length divides the word limit. If it does not, a position past the word limit is taken for
another cell, and what was written there is read from elsewhere.

So a request starts where the one before it ended unless a counter has wrapped in between
(`mod_wordLimit_mod_iff`), and a write whose reads pass the word limit is read back as it was written
exactly if no read begins there (`write_readAll_iff`).
-/

namespace SharedRing

/-! ## Two moduli -/

/-- A position past the word limit keeps its place in a ring exactly if the ring divides the limit. -/
theorem mod_wordLimit_mod_iff {position bytes : Nat} (once : position < 2 * wordLimit) :
    position % wordLimit % bytes = position % bytes ↔ position < wordLimit ∨ bytes ∣ wordLimit := by
  rcases Nat.lt_or_ge position wordLimit with below | past
  · simp [Nat.mod_eq_of_lt below, below]
  · have short : (position - wordLimit) % wordLimit = position - wordLimit := Nat.mod_eq_of_lt (by omega)
    rw [Nat.mod_eq_sub_mod past, short]
    have apart := Nat.modEq_iff_dvd' (n := bytes) (Nat.sub_le position wordLimit)
    rw [Nat.sub_sub_self past] at apart
    rw [show (position - wordLimit) % bytes = position % bytes ↔ bytes ∣ wordLimit from apart]
    simp [show ¬ position < wordLimit by omega]

def Transaction.stop (transaction : Transaction) : Nat :=
  let last := transaction.second.getD transaction.first
  last.address + last.length

namespace Ring

theorem stop_transaction {ring : Ring} (positive : 0 < ring.bytes) (position : UInt64) (count : Nat) :
    ∃ stop, (ring.transaction position count).stop = ring.data.offset + stop ∧
      stop % ring.bytes = (position.toNat + count) % ring.bytes := by
  have below := Nat.mod_lt position.toNat positive
  unfold transaction Transaction.ofRing Transaction.stop
  by_cases wraps : ring.bytes - position.toNat % ring.bytes < count
  · refine ⟨count - (ring.bytes - position.toNat % ring.bytes), by simp [wraps], ?_⟩
    rw [← Nat.mod_add_mod, ← Nat.add_mod_right]
    congr 1
    omega
  · exact ⟨position.toNat % ring.bytes + count, by simp [wraps, Nat.add_assoc], Nat.mod_add_mod _ _ _⟩

/-- **A request starts where the one before it ended** exactly if the counter has not wrapped, or the
ring divides the word limit. -/
theorem transaction_starts_at_stop_iff {ring : Ring} (positive : 0 < ring.bytes) (small : ring.bytes ≤ wordLimit)
    (position : UInt64) {count : Nat} (le : count ≤ ring.bytes) (next : Nat) :
    (ring.transaction (position + .ofNat count) next).first.address =
        ring.data.offset + ((ring.transaction position count).stop - ring.data.offset) % ring.bytes ↔
      position.toNat + count < wordLimit ∨ ring.bytes ∣ wordLimit := by
  have word : position.toNat < wordLimit := position.toNat_lt
  obtain ⟨stop, stop_eq, around⟩ := stop_transaction positive position count
  have starts : (ring.transaction (position + .ofNat count) next).first.address =
      ring.data.offset + (position.toNat + count) % wordLimit % ring.bytes := by
    unfold transaction Transaction.ofRing
    rw [toNat_add_ofNat]
    simp only
    split <;> rfl
  rw [starts, stop_eq, Nat.add_sub_cancel_left, around, Nat.add_left_cancel_iff]
  exact mod_wordLimit_mod_iff (by omega)

theorem contents_of_mod_eq {ring : Ring} (memory : Memory) {p q : Nat} (same : p % ring.bytes = q % ring.bytes)
    (n : Nat) : ring.contents memory p n = ring.contents memory q n :=
  List.map_congr_left fun i _ => by rw [cell, cell, Nat.ModEq.add_right i same]

end Ring

/-! ## A write and the reads after it -/

namespace MessageQueue

def readAll (queue : MessageQueue) : List (List Element) → Access (List (Bool × List Element))
  | [] => return []
  | buffer :: buffers => do
    let reply ← queue.read buffer
    let replies ← queue.readAll buffers
    return reply :: replies

def writeThenRead (queue : MessageQueue) (elements : List Element) (buffers : List (List Element)) :
    Access (Bool × List (Bool × List Element)) := do
  let wrote ← queue.write elements
  let replies ← queue.readAll buffers
  return (wrote, replies)

/-- Where chunks of these lengths start, from a position on, and their lengths. -/
def chunkStarts (size : Nat) : Nat → List Nat → List (Nat × Nat)
  | _, [] => []
  | position, length :: lengths => (position, length) :: chunkStarts size (position + length * size) lengths

/-- What there is at the chunks, each taken from the place where the function puts its position. -/
def chunksAt (ring : Ring) (memory : Memory) (type : ElementType) (place : Nat → Nat) (starts : List (Nat × Nat)) :
    List (List Element) :=
  starts.map fun start => type.decodeAll start.2 (ring.contents memory (place start.1) (start.2 * type.size))

theorem bounds_of_mem_chunkStarts {size : Nat} : ∀ {first : Nat} {lengths : List Nat} {start : Nat × Nat},
    start ∈ chunkStarts size first lengths →
      first ≤ start.1 ∧ start.1 + start.2 * size ≤ first + lengths.sum * size
  | _, [], _, member => by simp [chunkStarts] at member
  | first, length :: lengths, start, member => by
    rw [List.sum_cons, Nat.add_mul]
    rcases List.mem_cons.1 member with rfl | later
    · exact ⟨Nat.le_refl _, by simp only; omega⟩
    · obtain ⟨le, le'⟩ := bounds_of_mem_chunkStarts later
      exact ⟨by omega, by omega⟩

theorem chunksAt_congr {ring : Ring} {memory after : Memory}
    (kept : ∀ p n, ring.contents after p n = ring.contents memory p n) (type : ElementType) (place : Nat → Nat)
    (starts : List (Nat × Nat)) :
    chunksAt ring after type place starts = chunksAt ring memory type place starts := by
  simp only [chunksAt, kept]

/-- Reads in a row succeed, and return what is at the places that their wrapped positions stand for. -/
theorem run_readAll {queue : MessageQueue} {ring : Ring} (ring_eq : queue.ring = some ring) (sep : ring.Separate)
    (positive : 0 < ring.bytes) (small : ring.bytes < wordLimit) {buffers : List (List Element)} {position : Nat}
    {memory : Memory} (read_eq : memory.word ring.readCounter = .ofNat position)
    (write_eq : memory.word ring.writeCounter =
      .ofNat (position + (buffers.map List.length).sum * queue.element.size))
    (le : (buffers.map List.length).sum * queue.element.size ≤ ring.bytes) :
    ((queue.readAll buffers).run memory).1 =
      (chunksAt ring memory queue.element (· % wordLimit)
        (chunkStarts queue.element.size position (buffers.map List.length))).map (true, ·) := by
  induction buffers generalizing position memory with
  | nil => rfl
  | cons buffer buffers ih =>
    have length_eq := ElementType.length_encodeAll queue.element buffer
    rw [List.map_cons, List.sum_cons, Nat.add_mul, ← length_eq] at le write_eq
    have unread_eq : ring.unread memory = (queue.element.encodeAll buffer).length +
        (buffers.map List.length).sum * queue.element.size := by
      rw [Ring.unread, write_eq, read_eq, Ring.toNat_ofNat_add_sub position (by omega)]
    obtain ⟨after, ran, took⟩ := @Ring.run_read ring sep positive memory (queue.element.encodeAll buffer) (by omega)
      (by omega)
    have rest := @ih (position + (queue.element.encodeAll buffer).length) after
      (by rw [took.read_eq, read_eq, ← UInt64.ofNat_add]) (by rw [took.write_eq, write_eq, Nat.add_assoc]) (by omega)
    have wrapped : (memory.word ring.readCounter).toNat = position % wordLimit := by
      rw [read_eq, UInt64.toNat_ofNat']
      rfl
    rw [chunksAt_congr (took.contents_eq sep positive), length_eq] at rest
    simp only [readAll, MessageQueue.read, ring_eq, Access.run_bind, Access.run_pure, ran, rest, wrapped, length_eq]
    rfl

theorem chunksAt_eq_iff {ring : Ring} {memory : Memory} {type : ElementType} {place : Nat → Nat}
    {starts : List (Nat × Nat)} :
    chunksAt ring memory type place starts = chunksAt ring memory type id starts ↔
      ∀ start ∈ starts, ring.contents memory (place start.1) (start.2 * type.size) =
        ring.contents memory start.1 (start.2 * type.size) := by
  rw [chunksAt, chunksAt, List.map_inj_left]
  exact forall₂_congr fun start _ => ElementType.decodeAll_inj (by simp) (by simp)

theorem chunksAt_id {ring : Ring} {memory : Memory} {type : ElementType} {lengths : List Nat} {position : Nat}
    {elements : List Element} (length_eq : elements.length = lengths.sum)
    (holds : ∀ element ∈ elements, type.Holds element)
    (contents_eq : ring.contents memory position (lengths.sum * type.size) = type.encodeAll elements) :
    chunksAt ring memory type id (chunkStarts type.size position lengths) = lengths.splitLengths elements := by
  induction lengths generalizing position elements with
  | nil => rfl
  | cons length lengths ih =>
    rw [List.sum_cons] at length_eq contents_eq
    have front_eq : (elements.take length).length = length := by simp; omega
    have back_eq : (elements.drop length).length = lengths.sum := by simp; omega
    rw [Nat.add_mul, Ring.contents_add, ← List.take_append_drop length elements,
      ElementType.encodeAll_append] at contents_eq
    obtain ⟨front, back⟩ := List.append_inj contents_eq (by
      rw [Ring.length_contents, ElementType.length_encodeAll, front_eq])
    have rest := ih back_eq (fun element member => holds element (List.mem_of_mem_drop member)) back
    have holds' : ∀ element ∈ elements.take length, type.Holds element := fun element member =>
      holds element (List.mem_of_mem_take member)
    have first := ElementType.decodeAll_encodeAll holds'
    rw [front_eq, ← front] at first
    rw [List.splitLengths_cons, ← rest, ← first]
    rfl

/-- Among sources of a length there is one that leaves two given cells with different bytes. -/
theorem exists_differing {ring : Ring} (sep : ring.Separate) (positive : 0 < ring.bytes) (memory : Memory)
    {first other length offset : Nat} (position : (memory.word ring.writeCounter).toNat = first)
    (inside : offset < length) (differ : ring.cell other ≠ ring.cell (first + offset)) :
    ∃ source : List UInt8, source.length = length ∧ ∀ after, ring.Wrote memory after source →
      after.byte (ring.cell other) ≠ after.byte (ring.cell (first + offset)) := by
  -- a byte that is neither what stands at the other cell nor what is written around it
  obtain ⟨mark, nonzero, new⟩ : ∃ mark : UInt8, mark ≠ 0 ∧ mark ≠ memory.byte (ring.cell other) := by
    by_cases one : memory.byte (ring.cell other) = 1
    · exact ⟨2, by decide, by rw [one]; decide⟩
    · exact ⟨1, by decide, Ne.symm one⟩
  refine ⟨(List.replicate length 0).set offset mark, by simp, fun after wrote same => ?_⟩
  have put : ∀ i < length,
      after.byte (ring.cell (first + i)) = ((List.replicate length 0).set offset mark).getD i 0 := by
    intro i hi
    have row := congrArg (fun bytes => bytes.getD i 0) wrote.contents_eq
    simpa [position, Ring.contents, hi] using row
  have marked : after.byte (ring.cell (first + offset)) = mark := by simp [put offset inside, inside]
  rw [marked] at same
  by_cases hit : ∃ i < length, ring.cell other = ring.cell (first + i)
  · obtain ⟨i, i_lt, there⟩ := hit
    have elsewhere : offset ≠ i := fun here => differ (here ▸ there)
    rw [there, put i i_lt] at same
    simp [i_lt, elsewhere] at same
    exact nonzero same.symm
  · have kept := wrote.others (ring.cell other) (fun i hi => (sep.cell_ne_write positive hi other).symm)
      fun i hi there => hit ⟨i, by simpa using hi, by rw [there, position]⟩
    exact new (same.symm.trans kept)

/-- A write for which the ring has room and the reads of as much are carried out, and what they return is
at the places that their wrapped positions stand for. -/
theorem run_writeThenRead {queue : MessageQueue} {ring : Ring} (ring_eq : queue.ring = some ring)
    (sep : ring.Separate) (positive : 0 < ring.bytes) (small : ring.bytes < wordLimit) {memory : Memory} {c : UInt64}
    (read_eq : memory.word ring.readCounter = c) (write_eq : memory.word ring.writeCounter = c)
    {elements : List Element} {buffers : List (List Element)}
    (length_eq : elements.length = (buffers.map List.length).sum)
    (le : (buffers.map List.length).sum * queue.element.size ≤ ring.bytes) :
    ∃ after, ring.Wrote memory after (queue.element.encodeAll elements) ∧
      ((queue.writeThenRead elements buffers).run memory).1 =
        (true, (chunksAt ring after queue.element (· % wordLimit)
          (chunkStarts queue.element.size c.toNat (buffers.map List.length))).map (true, ·)) := by
  have empty : ring.unread memory = 0 := by rw [Ring.unread, read_eq, write_eq, UInt64.sub_self]; rfl
  have bytes_eq := ElementType.length_encodeAll queue.element elements
  rw [length_eq] at bytes_eq
  obtain ⟨after, ran, wrote⟩ := @Ring.run_write ring sep positive memory (queue.element.encodeAll elements) (by omega)
  have replies := @run_readAll queue ring ring_eq sep positive small buffers c.toNat after
    (by rw [wrote.read_eq, read_eq, UInt64.ofNat_toNat])
    (by rw [wrote.write_eq, write_eq, bytes_eq, UInt64.ofNat_add, UInt64.ofNat_toNat]) le
  refine ⟨after, wrote, ?_⟩
  simp only [writeThenRead, MessageQueue.write, ring_eq, Access.run_bind, Access.run_pure, ran, replies]

/-- The replies are the elements exactly if no chunk that is not empty is taken from another place. -/
theorem writeThenRead_eq_iff {queue : MessageQueue} {ring : Ring} {memory after : Memory} {c : UInt64}
    (write_eq : memory.word ring.writeCounter = c) {elements : List Element} {buffers : List (List Element)}
    (length_eq : elements.length = (buffers.map List.length).sum)
    (holds : ∀ element ∈ elements, queue.element.Holds element)
    (wrote : ring.Wrote memory after (queue.element.encodeAll elements))
    (ran : ((queue.writeThenRead elements buffers).run memory).1 =
      (true, (chunksAt ring after queue.element (· % wordLimit)
        (chunkStarts queue.element.size c.toNat (buffers.map List.length))).map (true, ·))) :
    ((queue.writeThenRead elements buffers).run memory).1 =
        (true, ((buffers.map List.length).splitLengths elements).map (true, ·)) ↔
      ∀ start ∈ chunkStarts queue.element.size c.toNat (buffers.map List.length),
        ring.contents after (start.1 % wordLimit) (start.2 * queue.element.size) =
          ring.contents after start.1 (start.2 * queue.element.size) := by
  have written := wrote.contents_eq
  rw [write_eq, ElementType.length_encodeAll, length_eq] at written
  have injective : ∀ chunks others : List (List Element),
      chunks.map (true, ·) = others.map (true, ·) ↔ chunks = others :=
    fun _ _ => List.map_inj_right fun _ _ same => (Prod.mk.inj same).2
  rw [ran, ← chunksAt_id length_eq holds written, Prod.mk.injEq, eq_self_iff_true, true_and, injective]
  exact chunksAt_eq_iff

section
variable {queue : MessageQueue} {ring : Ring} {memory : Memory} {c : UInt64} {buffers : List (List Element)}

theorem writeThenRead_of_before (ring_eq : queue.ring = some ring) (sep : ring.Separate) (positive : 0 < ring.bytes)
    (small : ring.bytes < wordLimit) (read_eq : memory.word ring.readCounter = c)
    (write_eq : memory.word ring.writeCounter = c)
    (le : (buffers.map List.length).sum * queue.element.size ≤ ring.bytes)
    (fine : ring.bytes ∣ wordLimit ∨
      ∀ start ∈ chunkStarts queue.element.size c.toNat (buffers.map List.length), 0 < start.2 → start.1 < wordLimit)
    {elements : List Element} (length_eq : elements.length = (buffers.map List.length).sum)
    (holds : ∀ element ∈ elements, queue.element.Holds element) :
    ((queue.writeThenRead elements buffers).run memory).1 =
      (true, ((buffers.map List.length).splitLengths elements).map (true, ·)) := by
  obtain ⟨after, wrote, replies⟩ := run_writeThenRead ring_eq sep positive small read_eq write_eq length_eq le
  refine (writeThenRead_eq_iff write_eq length_eq holds wrote replies).2 fun start member => ?_
  rcases Nat.eq_zero_or_pos start.2 with empty | nonempty
  · rw [empty, Nat.zero_mul]
    rfl
  · rcases fine with divides | before
    · exact Ring.contents_of_mod_eq after (Nat.mod_mod_of_dvd _ divides) _
    · rw [Nat.mod_eq_of_lt (before start member nonempty)]

theorem exists_writeThenRead_ne (ring_eq : queue.ring = some ring) (sep : ring.Separate) (positive : 0 < ring.bytes)
    (small : ring.bytes < wordLimit) (read_eq : memory.word ring.readCounter = c)
    (write_eq : memory.word ring.writeCounter = c) (size_pos : 0 < queue.element.size)
    (le : (buffers.map List.length).sum * queue.element.size ≤ ring.bytes) (divides : ¬ ring.bytes ∣ wordLimit)
    {start : Nat × Nat} (member : start ∈ chunkStarts queue.element.size c.toNat (buffers.map List.length))
    (nonempty : 0 < start.2) (past : wordLimit ≤ start.1) :
    ∃ elements : List Element, elements.length = (buffers.map List.length).sum ∧
      (∀ element ∈ elements, queue.element.Holds element) ∧
      ((queue.writeThenRead elements buffers).run memory).1 ≠
        (true, ((buffers.map List.length).splitLengths elements).map (true, ·)) := by
  have word : c.toNat < wordLimit := c.toNat_lt
  obtain ⟨first_le, last_le⟩ := bounds_of_mem_chunkStarts member
  have size_pos : 0 < start.2 * queue.element.size := Nat.mul_pos nonempty size_pos
  -- the read looks for its first byte in a cell other than the one it was put in
  have differ : ring.cell (start.1 % wordLimit) ≠ ring.cell (c.toNat + (start.1 - c.toNat)) := by
    intro same
    rw [Nat.add_sub_cancel' first_le] at same
    simp only [Ring.cell, Address.mk.injEq, true_and, Nat.add_left_cancel_iff] at same
    exact (mod_wordLimit_mod_iff (by omega)).1 same |>.elim (by omega) divides
  obtain ⟨source, source_eq, differing⟩ := @exists_differing ring sep positive memory c.toNat (start.1 % wordLimit)
    ((buffers.map List.length).sum * queue.element.size) (start.1 - c.toNat) (by rw [write_eq]) (by omega) differ
  have holds := ElementType.holds_decodeAll source_eq
  have length_eq := ElementType.length_decodeAll queue.element (buffers.map List.length).sum source
  obtain ⟨after, wrote, replies⟩ := run_writeThenRead ring_eq sep positive small read_eq write_eq length_eq le
  refine ⟨_, length_eq, holds, fun readBack => ?_⟩
  have same := (writeThenRead_eq_iff write_eq length_eq holds wrote replies).1 readBack start member
  have heads := congrArg (fun bytes => bytes.getD 0 0) same
  rw [ElementType.encodeAll_decodeAll source_eq] at wrote
  refine differing after wrote ?_
  simpa [Ring.contents, size_pos, Nat.add_sub_cancel' first_le] using heads

end

open RegionDescriptor in
/-- **Wrapped counters are read back exactly where the ring divides the word limit, or no read begins
past it.** With both counters at one position, a write of as many elements as the ring holds and the
reads of as many always succeed; whether the reads return the elements is what depends on it. -/
theorem write_readAll_iff {objects : Int → Nat} {descriptor : RegionDescriptor} {queue : MessageQueue}
    (opened : OpenedOn objects descriptor queue) (sep : (ringOf objects descriptor).Separate) {memory : Memory}
    {c : UInt64} (read_eq : memory.word (ringOf objects descriptor).readCounter = c)
    (write_eq : memory.word (ringOf objects descriptor).writeCounter = c) {buffers : List (List Element)}
    (le : (buffers.map List.length).sum ≤ descriptor.quantumCount) :
    let lengths := buffers.map List.length
    let ring := ringOf objects descriptor
    (∀ elements, elements.length = lengths.sum →
      ∃ chunks : List (List Element),
        ((queue.writeThenRead elements buffers).run memory).1 = (true, chunks.map (true, ·))) ∧
    ((∀ elements, elements.length = lengths.sum → (∀ element ∈ elements, queue.element.Holds element) →
        ((queue.writeThenRead elements buffers).run memory).1 =
          (true, (lengths.splitLengths elements).map (true, ·))) ↔
      descriptor.ringBytes ∣ wordLimit ∨
        ∀ start ∈ chunkStarts descriptor.quantumSize c.toNat lengths, 0 < start.2 → start.1 < wordLimit) ∧
    ∀ (position : UInt64) (count next : Nat), count ≤ descriptor.ringBytes →
      ((ring.transaction (position + .ofNat count) next).first.address =
          ring.data.offset + ((ring.transaction position count).stop - ring.data.offset) % descriptor.ringBytes ↔
        position.toNat + count < wordLimit ∨ descriptor.ringBytes ∣ wordLimit) := by
  intro lengths ring
  obtain ⟨accepted, ring_eq⟩ := opened.accepted_and_ring_eq
  have size_eq := accepted.size_eq
  have positive := (sized_ringOf accepted sep).bytes_pos
  have small : descriptor.ringBytes < wordLimit := Nat.lt_of_le_of_lt accepted.bytes_le (by decide)
  have bytes_le : lengths.sum * queue.element.size ≤ ring.bytes := by
    rw [← size_eq, Nat.mul_comm]
    exact Nat.mul_le_mul_left _ le
  refine ⟨fun elements length_eq => ?_, ⟨fun all => ?_, fun fine elements length_eq holds => ?_⟩, ?_⟩
  · obtain ⟨after, _, replies⟩ :=
      run_writeThenRead ring_eq sep positive small read_eq write_eq length_eq bytes_le
    exact ⟨_, replies⟩
  · by_contra! neither
    obtain ⟨divides, start, member, nonempty, past⟩ := neither
    rw [size_eq] at member
    obtain ⟨elements, length_eq, holds, differ⟩ := exists_writeThenRead_ne ring_eq sep positive small read_eq write_eq
      (size_eq ▸ accepted.size_pos) bytes_le divides member nonempty past
    exact differ (all elements length_eq holds)
  · rw [size_eq] at fine
    exact writeThenRead_of_before ring_eq sep positive small read_eq write_eq bytes_le fine length_eq holds
  · exact fun position count next le =>
      Ring.transaction_starts_at_stop_iff positive (Nat.le_of_lt small) position le next

/-- Three words of four bytes do not divide the word limit: with both counters one word below it, not all
pairs of words are read back. -/
theorem write_readAll_three_words :
    let layout : QueueLayout := { quantumSize := 4, quantumCount := 3, ringBytes := 12 }
    let ring := ringOf (fun _ => 0) (layout.descriptor 3)
    let queue : MessageQueue := { element := .unsigned 4, descriptor := layout.descriptor 3, ring := some ring }
    let memory := (Memory.zero.setWord ring.readCounter (-4)).setWord ring.writeCounter (-4)
    ¬ ∀ elements, elements.length = 2 → (∀ element ∈ elements, queue.element.Holds element) →
      ((queue.writeThenRead elements [[.integer 0], [.integer 0]]).run memory).1 =
        (true, ([1, 1].splitLengths elements).map (true, ·)) := by
  intro layout ring queue memory
  have opened : OpenedOn (fun _ => 0) (layout.descriptor 3) queue :=
    @openedOn_of_granted pageSize (by decide) _ _ (honest_const 0) _ _ rfl (by decide)
  have sep : ring.Separate := separate_layout _ layout 3
  have read_eq : memory.word ring.readCounter = -4 := by
    rw [Memory.word_setWord_of_apart _ _ sep.counters.symm, Memory.word_setWord]
  have write_eq : memory.word ring.writeCounter = -4 := Memory.word_setWord _ _ _
  have exact_iff := (write_readAll_iff opened sep read_eq write_eq
    (show ([[.integer 0], [.integer 0]].map List.length : List Nat).sum ≤ 3 by decide)).2.1
  exact fun all => absurd (exact_iff.1 all) (by decide)

/-- The second of two words comes back as the first. -/
theorem writeThenRead_repeats_word :
    let layout : QueueLayout := { quantumSize := 4, quantumCount := 3, ringBytes := 12 }
    let ring := ringOf (fun _ => 0) (layout.descriptor 3)
    let queue : MessageQueue := { element := .unsigned 4, descriptor := layout.descriptor 3, ring := some ring }
    let memory := (Memory.zero.setWord ring.readCounter (-4)).setWord ring.writeCounter (-4)
    ((queue.writeThenRead [.integer 1, .integer 2] [[.integer 0], [.integer 0]]).run memory).1 =
      (true, [(true, [.integer 1]), (true, [.integer 1])]) := by
  intro layout ring queue memory
  have sep : ring.Separate := separate_layout _ layout 3
  have read_eq : memory.word ring.readCounter = -4 := by
    rw [Memory.word_setWord_of_apart _ _ sep.counters.symm, Memory.word_setWord]
  have write_eq : memory.word ring.writeCounter = -4 := Memory.word_setWord _ _ _
  obtain ⟨after, wrote, replies⟩ := @run_writeThenRead queue ring rfl sep (by decide) (by decide) memory (-4) read_eq
    write_eq [.integer 1, .integer 2] [[.integer 0], [.integer 0]] rfl (by decide)
  -- both reads find the cell that the first word was put at
  have around : ring.contents after 0 4 = ring.contents after 18446744073709551612 4 :=
    Ring.contents_of_mod_eq after (by decide) 4
  have put : ring.contents after 18446744073709551612 (4 + 4) = [1, 0, 0, 0] ++ [2, 0, 0, 0] := by
    have written := wrote.contents_eq
    rw [write_eq] at written
    exact written
  rw [Ring.contents_add] at put
  have first := (List.append_inj put (by simp)).1
  have starts : chunkStarts queue.element.size (-4 : UInt64).toNat ([[.integer 0], [.integer 0]].map
      (List.length (α := Element))) = [(18446744073709551612, 1), (18446744073709551616, 1)] := by decide
  rw [replies, starts]
  change (true, [(true, queue.element.decodeAll 1 (ring.contents after 18446744073709551612 4)),
    (true, queue.element.decodeAll 1 (ring.contents after 0 4))]) = _
  rw [around, first]
  rfl

end MessageQueue

end SharedRing
