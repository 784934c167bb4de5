import SharedRing.Proofs.Batches

/-!
# Writes and reads commute

The cells that a write fills and those that a read takes from are different ones as long as the counters are in order
(`Ordered.cell_ne`). So a write and a read that are both possible can be carried out in either order, and give the same
elements and the same bytes (`run_write_then_read`, `run_read_then_write`).

Calls of one side do not take away what is possible for the other. Reads in a row only give room (`unread_le_of_reads`).
Writes in a row leave what is unread where it is and only add to it (`Kept`, `kept_of_writes`), unless the write counter
wraps. Some of the calls may be refused, and they may be those of any queues on the descriptor
(`write_and_read_commute`).
-/

namespace SharedRing

namespace Ring

variable {ring : Ring} {memory middle after : Memory}

/-! ## One write and one read -/

/-- A cell that is unread is not one that a write for which there is room fills. -/
theorem Ordered.cell_ne (ordered : ring.Ordered memory) {i j : Nat} (hi : i < ring.unread memory)
    (hj : j < ring.bytes - ring.unread memory) :
    ring.cell ((memory.word ring.readCounter).toNat + i) ≠
      ring.cell ((memory.word ring.writeCounter).toNat + j) := by
  have whole := ordered.unread_add
  exact ring.cell_ne (by omega) (by omega)

/-- What is unread stays where it is. -/
theorem Wrote.contents_unread (sep : ring.Separate) (positive : 0 < ring.bytes) (ordered : ring.Ordered memory)
    {source : List UInt8} (wrote : ring.Wrote memory after source)
    (fits : source.length ≤ ring.bytes - ring.unread memory) {count : Nat} (enough : count ≤ ring.unread memory) :
    ring.contents after (memory.word ring.readCounter).toNat count =
      ring.contents memory (memory.word ring.readCounter).toNat count :=
  contents_congr fun i hi => wrote.others _ (fun _ hj => (sep.cell_ne_write positive hj _).symm)
    fun j hj => ordered.cell_ne (by omega) (by omega)

section
variable (sep : ring.Separate) (positive : 0 < ring.bytes) (ordered : ring.Ordered memory) {source buffer : List UInt8}
  (fits : source.length ≤ ring.bytes - ring.unread memory) (enough : buffer.length ≤ ring.unread memory)
  (small : (memory.word ring.writeCounter).toNat + source.length < wordLimit)

include sep positive ordered fits enough small in
theorem run_write_then_read :
    let wrote := (ring.write source).run memory
    let took := (ring.read buffer).run wrote.2
    wrote.1 = true ∧
      took.1 = (true, ring.contents memory (memory.word ring.readCounter).toNat buffer.length) ∧
      ring.Moved memory took.2 source buffer.length := by
  have unread_le := ordered.unread_le
  have word : ring.unread memory < wordLimit := UInt64.toNat_lt _
  obtain ⟨middle, ran, wrote⟩ := run_write sep positive fits
  have unread_eq := wrote.unread_eq (by have := ordered.unread_add; omega)
  obtain ⟨after, ran', took⟩ := @run_read ring sep positive middle buffer (by omega) (by omega)
  have moved := wrote.moved.trans sep positive took.moved small (by simp; omega)
  rw [List.append_nil, Nat.zero_add] at moved
  simp only [ran, ran', wrote.read_eq, wrote.contents_unread sep positive ordered fits enough, true_and]
  exact moved

include sep positive ordered fits enough in
theorem run_read_then_write :
    let took := (ring.read buffer).run memory
    let wrote := (ring.write source).run took.2
    took.1 = (true, ring.contents memory (memory.word ring.readCounter).toNat buffer.length) ∧ wrote.1 = true ∧
      ring.Moved memory wrote.2 source buffer.length := by
  have unread_le := ordered.unread_le
  have word : (memory.word ring.writeCounter).toNat < wordLimit := UInt64.toNat_lt _
  obtain ⟨middle, ran, took⟩ := run_read sep positive (Nat.le_trans enough unread_le) enough
  have unread_eq := took.unread_eq enough
  obtain ⟨after, ran', wrote⟩ := @run_write ring sep positive middle source (by omega)
  have moved := took.moved.trans sep positive wrote.moved (by simpa using word) (by simp; omega)
  rw [List.nil_append, Nat.add_zero] at moved
  simp only [ran, ran', true_and]
  exact moved

end

/-! ## What writes leave to read -/

/-- What is unread has stayed where it was, and there may be more behind it. -/
structure Kept (ring : Ring) (memory after : Memory) : Prop where
  read_eq : after.word ring.readCounter = memory.word ring.readCounter
  unread_le : ring.unread memory ≤ ring.unread after
  contents_eq : ∀ count ≤ ring.unread memory,
    ring.contents after (memory.word ring.readCounter).toNat count =
      ring.contents memory (memory.word ring.readCounter).toNat count

theorem kept_refl (ring : Ring) (memory : Memory) : ring.Kept memory memory :=
  ⟨rfl, Nat.le_refl _, fun _ _ => rfl⟩

theorem Kept.trans (first : ring.Kept memory middle) (second : ring.Kept middle after) : ring.Kept memory after := by
  refine ⟨second.read_eq.trans first.read_eq, Nat.le_trans first.unread_le second.unread_le, ?_⟩
  intro count le
  have later := second.contents_eq count (Nat.le_trans le first.unread_le)
  rw [first.read_eq] at later
  exact later.trans (first.contents_eq count le)

/-- A write that does not make its counter wrap keeps what is unread. -/
theorem Wrote.kept (sep : ring.Separate) (positive : 0 < ring.bytes) (ordered : ring.Ordered memory)
    {source : List UInt8} (wrote : ring.Wrote memory after source)
    (fits : source.length ≤ ring.bytes - ring.unread memory)
    (small : (memory.word ring.writeCounter).toNat + source.length < wordLimit) : ring.Kept memory after := by
  have whole := ordered.unread_add
  have unread_eq := wrote.unread_eq (by omega)
  exact ⟨wrote.read_eq, by omega, fun count => wrote.contents_unread sep positive ordered fits⟩

/-- What could be read still can, and it is the same. -/
theorem Kept.run_read (sep : ring.Separate) (positive : 0 < ring.bytes) (kept : ring.Kept memory after)
    {buffer : List UInt8} (done : ((ring.read buffer).run memory).1.1 = true) :
    ((ring.read buffer).run after).1 = ((ring.read buffer).run memory).1 := by
  obtain ⟨le, enough⟩ := read_eq_true_iff.1 done
  obtain ⟨_, ran, -⟩ := Ring.run_read sep positive le enough
  obtain ⟨_, ran', -⟩ := Ring.run_read sep positive le (Nat.le_trans enough kept.unread_le)
  rw [ran, ran', kept.read_eq, kept.contents_eq _ enough]

end Ring

/-! ## Calls of one side, by any queues -/

namespace MessageQueue

/-- The valid ones among the queues that are called were opened on the descriptor. -/
def CallsOn (objects : Int → Nat) (descriptor : RegionDescriptor) (calls : List (MessageQueue × List Element)) : Prop :=
  ∀ call ∈ calls, call.1.isValid = true → OpenedOn objects descriptor call.1

def writeInTurn (writes : List (MessageQueue × List Element)) : Access (List Bool) :=
  writes.mapM fun call => call.1.write call.2

def readInTurn (reads : List (MessageQueue × List Element)) : Access (List (Bool × List Element)) :=
  reads.mapM fun call => call.1.read call.2

def bytesPut : List (MessageQueue × List Element) → List Bool → Nat
  | (queue, elements) :: writes, done :: replies =>
    (if done then elements.length * queue.element.size else 0) + bytesPut writes replies
  | _, _ => 0

theorem bytesPut_le (writes : List (MessageQueue × List Element)) (replies : List Bool) :
    bytesPut writes replies ≤ (writes.map fun call => call.2.length * call.1.element.size).sum := by
  induction writes generalizing replies with
  | nil => exact Nat.zero_le _
  | cons call writes ih =>
    cases replies with
    | nil => exact Nat.zero_le _
    | cons done replies =>
      rw [bytesPut, List.map_cons, List.sum_cons]
      refine Nat.add_le_add ?_ (ih replies)
      split
      · exact Nat.le_refl _
      · exact Nat.zero_le _

variable {objects : Int → Nat} {descriptor : RegionDescriptor}

theorem unread_le_of_reads (sep : (ringOf objects descriptor).Separate)
    {reads : List (MessageQueue × List Element)} (on : CallsOn objects descriptor reads) (memory : Memory) :
    (ringOf objects descriptor).unread ((readInTurn reads).run memory).2 ≤
      (ringOf objects descriptor).unread memory := by
  induction reads generalizing memory with
  | nil => exact Nat.le_refl _
  | cons call reads ih =>
    obtain ⟨first, others⟩ := List.forall_mem_cons.1 on
    simp only [readInTurn, List.mapM_cons, Access.run_bind, Access.run_pure] at ih ⊢
    refine Nat.le_trans (ih others _) ?_
    cases valid : call.1.ring with
    | none => simp [read, valid]
    | some ring =>
      have unread_eq := (read_accounts sep (first (by simp [isValid, valid])) memory call.2).unread_eq
      omega

/-- Writes leave what is unread, as long as the write counter does not wrap. -/
theorem kept_of_writes (sep : (ringOf objects descriptor).Separate)
    {writes : List (MessageQueue × List Element)} (on : CallsOn objects descriptor writes) {memory : Memory}
    (ordered : (ringOf objects descriptor).Ordered memory)
    (small : (memory.word (ringOf objects descriptor).writeCounter).toNat +
      bytesPut writes ((writeInTurn writes).run memory).1 < wordLimit) :
    (ringOf objects descriptor).Kept memory ((writeInTurn writes).run memory).2 := by
  induction writes generalizing memory with
  | nil => exact Ring.kept_refl _ memory
  | cons call writes ih =>
    obtain ⟨first, others⟩ := List.forall_mem_cons.1 on
    simp only [writeInTurn, List.mapM_cons, Access.run_bind, Access.run_pure, bytesPut] at ih small ⊢
    cases valid : call.1.ring with
    | none =>
      have refused : (call.1.write call.2).run memory = (false, memory) := by simp [write, valid]
      rw [refused] at small ⊢
      exact ih others ordered (by simpa using small)
    | some ring =>
      obtain ⟨accepted, ring_eq⟩ := (first (by simp [isValid, valid])).accepted_and_ring_eq
      have length_eq := ElementType.length_encodeAll call.1.element call.2
      rw [write_of_ring ring_eq] at small ⊢
      by_cases fits : (call.1.element.encodeAll call.2).length ≤
          (ringOf objects descriptor).bytes - (ringOf objects descriptor).unread memory
      · obtain ⟨middle, ran, wrote⟩ := Ring.run_write sep accepted.ringBytes_pos fits
        simp only [ran, ↓reduceIte] at small ⊢
        have kept := wrote.kept sep accepted.ringBytes_pos ordered fits (by omega)
        have ordered' := wrote.ordered ordered fits (by omega)
        have position := wrote.moved.position (by omega)
        exact kept.trans (ih others ordered' (by rw [position]; omega))
      · have empty : call.1.element.encodeAll call.2 ≠ [] := fun nothing => fits (by simp [nothing])
        rw [Ring.run_write_refused empty (Nat.lt_of_not_le fits)] at small ⊢
        exact ih others ordered (by simpa using small)

/-- **A write and a read that are both possible commute.** On regions that are apart and counters that are in order:
whichever of the two is carried out first, both succeed, the read returns the same elements and the same bytes are left,
as long as the write counter does not wrap. And neither side is in the way of the other: a write that is possible stays
so after any reads, and a read that is possible stays so, with the same reply, after any writes, carried out or
refused, as long as they do not make the write counter wrap. -/
theorem write_and_read_commute {producer consumer : MessageQueue} (produces : OpenedOn objects descriptor producer)
    (consumes : OpenedOn objects descriptor consumer) (sep : (ringOf objects descriptor).Separate) {memory : Memory}
    (ordered : (ringOf objects descriptor).Ordered memory) :
    let position := (memory.word (ringOf objects descriptor).writeCounter).toNat
    (∀ elements buffer, position + elements.length * descriptor.quantumSize < wordLimit →
      let wrote := (producer.write elements).run memory
      let took := (consumer.read buffer).run memory
      let tookAfter := (consumer.read buffer).run wrote.2
      let wroteAfter := (producer.write elements).run took.2
      wrote.1 = true → took.1.1 = true →
        wroteAfter.1 = true ∧ tookAfter.1 = took.1 ∧ ∀ place, tookAfter.2.byte place = wroteAfter.2.byte place) ∧
    (∀ elements reads, CallsOn objects descriptor reads →
      ((producer.write elements).run memory).1 = true →
        ((producer.write elements).run ((readInTurn reads).run memory).2).1 = true) ∧
    ∀ buffer writes, CallsOn objects descriptor writes →
      position + bytesPut writes ((writeInTurn writes).run memory).1 < wordLimit →
      ((consumer.read buffer).run memory).1.1 = true →
        ((consumer.read buffer).run ((writeInTurn writes).run memory).2).1 =
          ((consumer.read buffer).run memory).1 := by
  intro position
  obtain ⟨accepted, produced_eq⟩ := produces.accepted_and_ring_eq
  obtain ⟨_, consumed_eq⟩ := consumes.accepted_and_ring_eq
  have positive : 0 < (ringOf objects descriptor).bytes := accepted.ringBytes_pos
  simp only [write_of_ring produced_eq, run_read_of_ring consumed_eq]
  refine ⟨?_, ?_, ?_⟩
  · intro elements buffer small wrote took
    have fits := Ring.write_eq_true_iff.1 wrote
    obtain ⟨le, enough⟩ := Ring.read_eq_true_iff.1 took
    rw [accepted.size_eq, ← ElementType.length_encodeAll] at small
    obtain ⟨-, taken, moved⟩ := Ring.run_write_then_read sep positive ordered fits enough small
    obtain ⟨taken', written', moved'⟩ := Ring.run_read_then_write sep positive ordered fits enough
    rw [taken, taken']
    exact ⟨written', rfl, moved.byte_eq moved'⟩
  · intro elements reads on wrote
    have le := unread_le_of_reads sep on memory
    rw [Ring.write_eq_true_iff] at wrote ⊢
    omega
  · intro buffer writes on small took
    have kept := kept_of_writes sep on ordered small
    rw [kept.run_read sep positive took]

/-- A ring of three words of which the middle one is unread: two words are written around it, over the end, and it is
read. A row of two such writes, the second of which finds no room, leaves it to read, and reading it over and over
leaves the room. -/
theorem write_and_read_commute_around_end :
    let layout : QueueLayout := { quantumSize := 4, quantumCount := 3, ringBytes := 12 }
    let ring := ringOf (fun _ => 0) (layout.descriptor 3)
    let queue : MessageQueue := { element := .unsigned 4, descriptor := layout.descriptor 3, ring := some ring }
    let memory := (Memory.zero.setWord ring.readCounter 4).setWord ring.writeCounter 8
    let elements := [Element.integer 1, .integer 2]
    let buffer := [Element.integer 0]
    let wrote := (queue.write elements).run memory
    let took := (queue.read buffer).run memory
    let tookAfter := (queue.read buffer).run wrote.2
    let wroteAfter := (queue.write elements).run took.2
    let writes := (writeInTurn [(queue, elements), (queue, elements)]).run memory
    let reads := (readInTurn [(queue, buffer), (queue, buffer)]).run memory
    (wrote.1 = true ∧ took.1.1 = true) ∧
      (wroteAfter.1 = true ∧ tookAfter.1 = took.1 ∧ ∀ place, tookAfter.2.byte place = wroteAfter.2.byte place) ∧
      ((queue.write elements).run reads.2).1 = true ∧ ((queue.read buffer).run writes.2).1 = took.1 := by
  intro layout ring queue memory elements buffer
  have opened : OpenedOn (fun _ => 0) (layout.descriptor 3) queue :=
    @openedOn_of_granted pageSize (by decide) _ _ (honest_const 0) _ _ rfl (by decide)
  have sep : ring.Separate := separate_layout _ layout 3
  have on : ∀ calls : List (MessageQueue × List Element), (∀ call ∈ calls, call.1 = queue) →
      CallsOn (fun _ => 0) (layout.descriptor 3) calls := fun calls same call mem _ => same call mem ▸ opened
  have read_eq : memory.word ring.readCounter = 4 := by
    rw [Memory.word_setWord_of_apart _ _ sep.counters.symm, Memory.word_setWord]
  have write_eq : memory.word ring.writeCounter = 8 := Memory.word_setWord _ _ _
  have ordered : ring.Ordered memory := by
    refine ⟨?_, ?_⟩ <;> rw [read_eq, write_eq] <;> decide
  have wrote : ((queue.write elements).run memory).1 = true := by
    rw [@write_of_ring queue ring rfl, Ring.write_eq_true_iff, Ring.unread, read_eq, write_eq]
    decide
  have took : ((queue.read buffer).run memory).1.1 = true := by
    rw [@run_read_of_ring queue ring rfl, Ring.read_eq_true_iff, Ring.unread, read_eq, write_eq]
    decide
  have small : (memory.word ring.writeCounter).toNat + 2 * 4 < wordLimit := by
    rw [write_eq]
    decide
  have small' (replies : List Bool) : (memory.word ring.writeCounter).toNat +
      bytesPut [(queue, elements), (queue, elements)] replies < wordLimit := by
    have put_le : bytesPut [(queue, elements), (queue, elements)] replies ≤ 16 := bytesPut_le _ replies
    rw [write_eq]
    exact Nat.lt_of_le_of_lt (Nat.add_le_add_left put_le _) (by decide)
  obtain ⟨both, after_reads, after_writes⟩ := write_and_read_commute opened opened sep ordered
  exact ⟨⟨wrote, took⟩, both elements buffer small wrote took,
    after_reads elements [(queue, buffer), (queue, buffer)] (on _ (by simp)) wrote,
    after_writes buffer [(queue, elements), (queue, elements)] (on _ (by simp)) (small' _) took⟩

end MessageQueue

end SharedRing
