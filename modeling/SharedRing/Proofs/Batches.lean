import SharedRing.Proofs.Availability
import SharedRing.Proofs.Outcomes

/-!
# Batches and the calls that they stand for

Calls that succeed one after the other put their sources into the ring in a row and take their bytes out in a row.
`Moved` says what they have done to memory together. It composes (`Moved.trans`), and it says all that there is to be
seen: two memories that come from one by the same moves have the same bytes (`Moved.byte_eq`).

So it makes no difference how a row of elements is cut into calls. The calls all succeed exactly if there is room, or
enough, for the whole row (`run_mapM_write`, `run_mapM_read`), and what they leave and return depends on the row only
(`batch_eq_calls_in_turn`).
-/

namespace SharedRing

namespace Ring

/-- The counters are in order, and not further apart than the ring is long. -/
structure Ordered (ring : Ring) (memory : Memory) : Prop where
  le : (memory.word ring.readCounter).toNat ≤ (memory.word ring.writeCounter).toNat
  near : (memory.word ring.writeCounter).toNat ≤ (memory.word ring.readCounter).toNat + ring.bytes

variable {ring : Ring} {memory middle after other : Memory}

theorem Ordered.unread_add (h : ring.Ordered memory) :
    (memory.word ring.readCounter).toNat + ring.unread memory = (memory.word ring.writeCounter).toNat := by
  rw [unread, UInt64.toNat_sub_of_le _ _ (UInt64.le_iff_toNat_le.2 h.le), Nat.add_sub_cancel' h.le]

theorem Ordered.unread_le (h : ring.Ordered memory) : ring.unread memory ≤ ring.bytes := by
  have whole := h.unread_add
  have near := h.near
  omega

/-! ## What calls have done together -/

/-- A source has been put into the ring and so many bytes have been taken out of it. -/
structure Moved (ring : Ring) (memory after : Memory) (source : List UInt8) (count : Nat) : Prop where
  write_eq : after.word ring.writeCounter = memory.word ring.writeCounter + .ofNat source.length
  read_eq : after.word ring.readCounter = memory.word ring.readCounter + .ofNat count
  contents_eq : ring.contents after (memory.word ring.writeCounter).toNat source.length = source
  others : ∀ place, (∀ i < counterSize, place ≠ ring.readCounter.advance i) →
    (∀ i < counterSize, place ≠ ring.writeCounter.advance i) →
    (∀ i < source.length, place ≠ ring.cell ((memory.word ring.writeCounter).toNat + i)) →
    after.byte place = memory.byte place

theorem moved_refl (ring : Ring) (memory : Memory) : ring.Moved memory memory [] 0 :=
  ⟨(UInt64.add_zero _).symm, (UInt64.add_zero _).symm, rfl, fun _ _ _ _ => rfl⟩

theorem Wrote.moved {source : List UInt8} (h : ring.Wrote memory after source) : ring.Moved memory after source 0 :=
  ⟨h.write_eq, h.read_eq.trans (UInt64.add_zero _).symm, h.contents_eq, fun place _ away => h.others place away⟩

theorem Took.moved {count : Nat} (h : ring.Took memory after count) : ring.Moved memory after [] count :=
  ⟨h.write_eq.trans (UInt64.add_zero _).symm, h.read_eq, rfl, fun place away _ _ => h.others place away⟩

/-- **The moves determine all bytes.** -/
theorem Moved.byte_eq {source : List UInt8} {count : Nat} (h : ring.Moved memory after source count)
    (h' : ring.Moved memory other source count) (place : Address) : after.byte place = other.byte place := by
  by_cases in_read : ∃ i < counterSize, place = ring.readCounter.advance i
  · obtain ⟨i, hi, rfl⟩ := in_read
    exact Memory.byte_eq_of_word_eq (h.read_eq.trans h'.read_eq.symm) hi
  by_cases in_write : ∃ i < counterSize, place = ring.writeCounter.advance i
  · obtain ⟨i, hi, rfl⟩ := in_write
    exact Memory.byte_eq_of_word_eq (h.write_eq.trans h'.write_eq.symm) hi
  by_cases in_cells : ∃ i < source.length, place = ring.cell ((memory.word ring.writeCounter).toNat + i)
  · obtain ⟨i, hi, rfl⟩ := in_cells
    have row := congrArg (·[i]?) (h.contents_eq.trans h'.contents_eq.symm)
    simpa [contents, hi] using row
  · push Not at in_read in_write in_cells
    rw [h.others place in_read in_write in_cells, h'.others place in_read in_write in_cells]

/-- Where the next source goes. -/
theorem Moved.position {source : List UInt8} {count : Nat} (h : ring.Moved memory after source count)
    (small : (memory.word ring.writeCounter).toNat + source.length < wordLimit) :
    (after.word ring.writeCounter).toNat = (memory.word ring.writeCounter).toNat + source.length := by
  rw [h.write_eq, toNat_add_ofNat, Nat.mod_eq_of_lt small]

/-- A write for which there is room keeps the counters in order, unless its counter wraps. -/
theorem Wrote.ordered {source : List UInt8} (wrote : ring.Wrote memory after source) (ordered : ring.Ordered memory)
    (fits : source.length ≤ ring.bytes - ring.unread memory)
    (small : (memory.word ring.writeCounter).toNat + source.length < wordLimit) : ring.Ordered after := by
  have whole := ordered.unread_add
  have unread_le := ordered.unread_le
  have position := wrote.moved.position small
  refine ⟨?_, ?_⟩ <;> rw [wrote.read_eq, position] <;> omega

/-- Where the next read starts. -/
theorem Took.position {count : Nat} (took : ring.Took memory after count) (ordered : ring.Ordered memory)
    (enough : count ≤ ring.unread memory) :
    (after.word ring.readCounter).toNat = (memory.word ring.readCounter).toNat + count := by
  have whole := ordered.unread_add
  have word : (memory.word ring.writeCounter).toNat < wordLimit := UInt64.toNat_lt _
  rw [took.read_eq, toNat_add_ofNat, Nat.mod_eq_of_lt (by omega)]

/-- A read for which there is enough keeps the counters in order. -/
theorem Took.ordered {count : Nat} (took : ring.Took memory after count) (ordered : ring.Ordered memory)
    (enough : count ≤ ring.unread memory) : ring.Ordered after := by
  have whole := ordered.unread_add
  have near := ordered.near
  have position := took.position ordered enough
  refine ⟨?_, ?_⟩ <;> rw [took.write_eq, position] <;> omega

/-- **Moves compose**, as long as the sources have room side by side. -/
theorem Moved.trans (sep : ring.Separate) (positive : 0 < ring.bytes) {front back : List UInt8} {m n : Nat}
    (first : ring.Moved memory middle front m) (second : ring.Moved middle after back n)
    (small : (memory.word ring.writeCounter).toNat + front.length < wordLimit)
    (le : front.length + back.length ≤ ring.bytes) : ring.Moved memory after (front ++ back) (m + n) := by
  have position := first.position small
  refine ⟨?_, ?_, ?_, fun place away away' outside => ?_⟩
  · rw [second.write_eq, first.write_eq, List.length_append, UInt64.ofNat_add, UInt64.add_assoc]
  · rw [second.read_eq, first.read_eq, UInt64.ofNat_add, UInt64.add_assoc]
  · -- what was put in first has stayed where it was
    have kept : ring.contents after (memory.word ring.writeCounter).toNat front.length =
        ring.contents middle (memory.word ring.writeCounter).toNat front.length :=
      contents_congr fun i hi => second.others _ (fun _ hj => (sep.cell_ne_read positive hj _).symm)
        (fun _ hj => (sep.cell_ne_write positive hj _).symm)
        fun j hj => by rw [position]; exact ring.cell_ne (by omega) (by omega)
    have put := second.contents_eq
    rw [position] at put
    rw [List.length_append, contents_add, kept, first.contents_eq, put]
  · rw [second.others place away away' ?_, first.others place away away' ?_]
    · intro i hi
      exact outside i (by rw [List.length_append]; omega)
    · intro i hi
      rw [position, Nat.add_assoc]
      exact outside (front.length + i) (by rw [List.length_append]; omega)

end Ring

/-! ## Rows of calls -/

namespace MessageQueue

open SharedRing.Ring

variable {queue : MessageQueue} {ring : Ring}

/-- **Writes in turn are one write of the whole row.** They all succeed exactly if there is room for it. -/
theorem run_mapM_write (ring_eq : queue.ring = some ring) (sep : ring.Separate) (positive : 0 < ring.bytes)
    (bytes_lt : ring.bytes < wordLimit) {rows : List (List Element)} {memory : Memory}
    (small : (memory.word ring.writeCounter).toNat + rows.flatten.length * queue.element.size < wordLimit) :
    let calls := (rows.mapM queue.write).run memory
    ((∀ done ∈ calls.1, done = true) ↔
        rows.flatten.length * queue.element.size ≤ ring.bytes - ring.unread memory) ∧
      (rows.flatten.length * queue.element.size ≤ ring.bytes - ring.unread memory →
        ring.Moved memory calls.2 (queue.element.encodeAll rows.flatten) 0) := by
  induction rows generalizing memory with
  | nil => simpa using ring.moved_refl memory
  | cons row rows ih =>
    have length_eq := ElementType.length_encodeAll queue.element row
    rw [List.flatten_cons, List.length_append, Nat.add_mul, ← length_eq] at small ⊢
    simp only [List.mapM_cons, Access.run_bind, Access.run_pure, write_of_ring ring_eq]
    by_cases fits : (queue.element.encodeAll row).length ≤ ring.bytes - ring.unread memory
    · obtain ⟨middle, ran, wrote⟩ := run_write sep positive fits
      have word : ring.unread memory < wordLimit := UInt64.toNat_lt _
      have unread_eq := wrote.unread_eq (by omega)
      have position := wrote.moved.position (by omega)
      obtain ⟨all_iff, moved⟩ := @ih middle (by omega)
      simp only [ran, List.forall_mem_cons, true_and, all_iff]
      refine ⟨by omega, fun room => ?_⟩
      have rest_eq := ElementType.length_encodeAll queue.element rows.flatten
      rw [ElementType.encodeAll_append]
      exact wrote.moved.trans sep positive (moved (by omega)) (by omega) (by omega)
    · have empty : queue.element.encodeAll row ≠ [] := fun nothing => fits (by simp [nothing])
      simp only [run_write_refused empty (Nat.lt_of_not_le fits), List.forall_mem_cons, Bool.false_eq_true, false_and,
        false_iff]
      exact ⟨by omega, fun room => absurd room (by omega)⟩

/-- **Reads in turn are one read of the whole row.** They all succeed exactly if there is enough for it. -/
theorem run_mapM_read (ring_eq : queue.ring = some ring) (sep : ring.Separate) (positive : 0 < ring.bytes)
    {rows : List (List Element)} {memory : Memory} (ordered : ring.Ordered memory) :
    let calls := (rows.mapM queue.read).run memory
    ((∀ reply ∈ calls.1, reply.1 = true) ↔ rows.flatten.length * queue.element.size ≤ ring.unread memory) ∧
      (rows.flatten.length * queue.element.size ≤ ring.unread memory →
        (calls.1.map (·.2)).flatten = queue.element.decodeAll rows.flatten.length
            (ring.contents memory (memory.word ring.readCounter).toNat
              (rows.flatten.length * queue.element.size)) ∧
          ring.Moved memory calls.2 [] (rows.flatten.length * queue.element.size)) := by
  induction rows generalizing memory with
  | nil => simpa [ElementType.decodeAll] using ring.moved_refl memory
  | cons row rows ih =>
    have length_eq := ElementType.length_encodeAll queue.element row
    rw [List.flatten_cons, List.length_append, Nat.add_mul, ← length_eq]
    simp only [List.mapM_cons, Access.run_bind, Access.run_pure, run_read_of_ring ring_eq]
    have unread_le := ordered.unread_le
    have word : (memory.word ring.writeCounter).toNat < wordLimit := UInt64.toNat_lt _
    by_cases enough : (queue.element.encodeAll row).length ≤ ring.unread memory
    · obtain ⟨middle, ran, took⟩ := run_read sep positive (Nat.le_trans enough unread_le) enough
      have unread_eq := took.unread_eq enough
      have position := took.position ordered enough
      obtain ⟨all_iff, moved⟩ := ih (took.ordered ordered enough)
      simp only [ran, List.forall_mem_cons, true_and, all_iff]
      refine ⟨by omega, fun rest => ?_⟩
      obtain ⟨returned, moved⟩ := moved (by omega)
      refine ⟨?_, took.moved.trans sep positive moved (by simpa using word) (by simp)⟩
      rw [List.map_cons, List.flatten_cons, returned, contents_add,
        ElementType.decodeAll_append (by rw [length_contents, length_eq]), position, took.contents_eq sep positive]
    · have empty : queue.element.encodeAll row ≠ [] := fun nothing => enough (by simp [nothing])
      simp only [run_read_refused empty (.inr (Nat.lt_of_not_le enough)), List.forall_mem_cons, Bool.false_eq_true,
        false_and, false_iff]
      exact ⟨by omega, fun rest => absurd rest (by omega)⟩

/-! ## The same row, cut in another way -/

theorem flatten_singletons (elements : List Element) : (elements.map ([·])).flatten = elements := by
  rw [← List.flatMap_def, List.flatMap_singleton']

theorem mapM_writeOne (queue : MessageQueue) (elements : List Element) :
    elements.mapM queue.writeOne = (elements.map ([·])).mapM queue.write := by
  rw [List.mapM_map]
  rfl

theorem mapM_readOne (queue : MessageQueue) (buffer : List Element) :
    buffer.mapM queue.readOne = (buffer.map ([·])).mapM queue.read := by
  rw [List.mapM_map]
  rfl

variable {rows others : List (List Element)} {memory : Memory}

theorem writes_cut_alike (ring_eq : queue.ring = some ring) (sep : ring.Separate) (positive : 0 < ring.bytes)
    (bytes_lt : ring.bytes < wordLimit) (same : rows.flatten = others.flatten)
    (small : (memory.word ring.writeCounter).toNat + rows.flatten.length * queue.element.size < wordLimit) :
    let calls := (rows.mapM queue.write).run memory
    let calls' := (others.mapM queue.write).run memory
    ((∀ done ∈ calls.1, done = true) ↔ ∀ done ∈ calls'.1, done = true) ∧
      ((∀ done ∈ calls.1, done = true) → ∀ place, calls'.2.byte place = calls.2.byte place) := by
  intro calls calls'
  obtain ⟨all_iff, moved⟩ := run_mapM_write ring_eq sep positive bytes_lt small
  rw [same] at all_iff moved small
  obtain ⟨all_iff', moved'⟩ := run_mapM_write ring_eq sep positive bytes_lt small
  refine ⟨all_iff.trans all_iff'.symm, fun all => ?_⟩
  have fits := all_iff.1 all
  exact (moved' fits).byte_eq (moved fits)

theorem reads_cut_alike (ring_eq : queue.ring = some ring) (sep : ring.Separate) (positive : 0 < ring.bytes)
    (ordered : ring.Ordered memory) (same : rows.flatten = others.flatten) :
    let calls := (rows.mapM queue.read).run memory
    let calls' := (others.mapM queue.read).run memory
    ((∀ reply ∈ calls.1, reply.1 = true) ↔ ∀ reply ∈ calls'.1, reply.1 = true) ∧
      ((∀ reply ∈ calls.1, reply.1 = true) →
        (calls.1.map (·.2)).flatten = (calls'.1.map (·.2)).flatten ∧
          ∀ place, calls'.2.byte place = calls.2.byte place) := by
  intro calls calls'
  obtain ⟨all_iff, moved⟩ := @run_mapM_read queue ring ring_eq sep positive rows memory ordered
  obtain ⟨all_iff', moved'⟩ := @run_mapM_read queue ring ring_eq sep positive others memory ordered
  rw [same] at all_iff moved
  refine ⟨all_iff.trans all_iff'.symm, fun all => ?_⟩
  have enough := all_iff.1 all
  obtain ⟨returned, moved⟩ := moved enough
  obtain ⟨returned', moved'⟩ := moved' enough
  exact ⟨returned.trans returned'.symm, moved'.byte_eq moved⟩

open RegionDescriptor in
/-- **A batch is the calls that it stands for.** On regions that are apart and counters that are in order: a write of
two rows of elements succeeds exactly if the one and then the other can be written, and one of many elements exactly
if they can be written one by one, and it leaves the same bytes, as long as the write counter does not wrap. A read of
as many as two reads, or of as many as single elements, succeeds exactly if those do, and it returns what they return
and leaves the same bytes. -/
theorem batch_eq_calls_in_turn {objects : Int → Nat} {descriptor : RegionDescriptor} {queue : MessageQueue}
    (opened : OpenedOn objects descriptor queue) (sep : (ringOf objects descriptor).Separate) {memory : Memory}
    (ordered : (ringOf objects descriptor).Ordered memory) :
    let position := (memory.word (ringOf objects descriptor).writeCounter).toNat
    (∀ front back, position + (front ++ back).length * descriptor.quantumSize < wordLimit →
      let whole := (queue.write (front ++ back)).run memory
      let first := (queue.write front).run memory
      let second := (queue.write back).run first.2
      (whole.1 = true ↔ first.1 = true ∧ second.1 = true) ∧
        (whole.1 = true → ∀ place, second.2.byte place = whole.2.byte place)) ∧
    (∀ elements, position + elements.length * descriptor.quantumSize < wordLimit →
      let whole := (queue.write elements).run memory
      let each := (elements.mapM queue.writeOne).run memory
      (whole.1 = true ↔ ∀ done ∈ each.1, done = true) ∧
        (whole.1 = true → ∀ place, each.2.byte place = whole.2.byte place)) ∧
    (∀ front back,
      let whole := (queue.read (front ++ back)).run memory
      let first := (queue.read front).run memory
      let second := (queue.read back).run first.2
      (whole.1.1 = true ↔ first.1.1 = true ∧ second.1.1 = true) ∧
        (whole.1.1 = true → whole.1.2 = first.1.2 ++ second.1.2 ∧
          ∀ place, second.2.byte place = whole.2.byte place)) ∧
    ∀ buffer,
      let whole := (queue.read buffer).run memory
      let each := (buffer.mapM queue.readOne).run memory
      (whole.1.1 = true ↔ ∀ reply ∈ each.1, reply.1 = true) ∧
        (whole.1.1 = true → whole.1.2 = (each.1.map (·.2)).flatten ∧
          ∀ place, each.2.byte place = whole.2.byte place) := by
  intro position
  obtain ⟨accepted, ring_eq⟩ := opened.accepted_and_ring_eq
  have positive : 0 < (ringOf objects descriptor).bytes := accepted.ringBytes_pos
  have bytes_lt : (ringOf objects descriptor).bytes < wordLimit := Nat.lt_of_le_of_lt accepted.bytes_le (by decide)
  rw [accepted.size_eq]
  refine ⟨?_, ?_, ?_, ?_⟩
  · intro front back small
    have alike := @writes_cut_alike queue _ [front ++ back] [front, back] memory ring_eq sep positive bytes_lt
      (by simp) (by simpa using small)
    simpa using alike
  · intro elements small
    have alike := @writes_cut_alike queue _ [elements] (elements.map ([·])) memory ring_eq sep positive bytes_lt
      (by simp [flatten_singletons]) (by simpa using small)
    rw [← mapM_writeOne] at alike
    simpa using alike
  · intro front back
    have alike := @reads_cut_alike queue _ [front ++ back] [front, back] memory ring_eq sep positive ordered (by simp)
    simpa using alike
  · intro buffer
    have alike := @reads_cut_alike queue _ [buffer] (buffer.map ([·])) memory ring_eq sep positive ordered
      (by simp [flatten_singletons])
    rw [← mapM_readOne] at alike
    simpa using alike

/-- A ring of three words with both counters at the last of them: two words are written, and read, over its end. -/
theorem batch_eq_calls_in_turn_around_end :
    let layout : QueueLayout := { quantumSize := 4, quantumCount := 3, ringBytes := 12 }
    let ring := ringOf (fun _ => 0) (layout.descriptor 3)
    let queue : MessageQueue := { element := .unsigned 4, descriptor := layout.descriptor 3, ring := some ring }
    let memory := (Memory.zero.setWord ring.readCounter 8).setWord ring.writeCounter 8
    let whole := (queue.write [.integer 1, .integer 2]).run memory
    let each := ([Element.integer 1, .integer 2].mapM queue.writeOne).run memory
    whole.1 = true ∧ (∀ done ∈ each.1, done = true) ∧ ∀ place, each.2.byte place = whole.2.byte place := by
  intro layout ring queue memory whole each
  have opened : OpenedOn (fun _ => 0) (layout.descriptor 3) queue :=
    @openedOn_of_granted pageSize (by decide) _ _ (honest_const 0) _ _ rfl (by decide)
  have sep : ring.Separate := separate_layout _ layout 3
  have read_eq : memory.word ring.readCounter = 8 := by
    rw [Memory.word_setWord_of_apart _ _ sep.counters.symm, Memory.word_setWord]
  have write_eq : memory.word ring.writeCounter = 8 := Memory.word_setWord _ _ _
  have ordered : ring.Ordered memory := by
    refine ⟨?_, ?_⟩ <;> simp [read_eq, write_eq]
  have small : (memory.word ring.writeCounter).toNat + 2 * 4 < wordLimit := by
    rw [write_eq]
    decide
  have done : whole.1 = true := by
    refine Ring.write_eq_true_iff.2 ?_
    rw [Ring.unread, read_eq, write_eq]
    decide
  obtain ⟨all_iff, same⟩ := (batch_eq_calls_in_turn opened sep ordered).2.1 [.integer 1, .integer 2] small
  exact ⟨done, all_iff.1 done, same done⟩

end MessageQueue

end SharedRing
