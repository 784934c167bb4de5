import SharedRing.Proofs.Construction
import SharedRing.Proofs.Elements

/-!
# Regions that overlap

Validation looks at each grantor by itself. The regions of a descriptor that it accepts may have bytes in common,
and then a call of one side can reach what belongs to the other. `KeepsRoles` says that no call does: a write moves
the write counter on by what it has written and leaves the read counter, and a read moves the read counter on by what
it has read and leaves the write counter and the ring.

The roles are kept exactly on the descriptors whose regions are apart (`roles_kept_iff_regions_apart`). If they are
not, some write of one element goes astray: a counter that both sides share is moved for both, and bytes of a counter
that are cells of the ring are overwritten (`exists_astray`). Reads are safer, as nothing but the read counter is
stored: counters are aligned, so they are apart or the same, and in the second case there is never anything to read.
-/

namespace SharedRing

namespace Memory

/-- The bytes of a word are those of its value. -/
theorem bytes_eq_bytesOfNat_word (memory : Memory) (place : Address) :
    memory.bytes place 8 = bytesOfNat 8 (memory.word place).toNat := by
  have small := natOfBytes_lt (memory.bytes place 8)
  have whole := bytesOfNat_natOfBytes (memory.bytes place 8)
  rw [length_bytes] at small whole
  rw [word, UInt64.toNat_ofNat_of_lt' small, whole]

theorem byte_eq_of_word_eq {memory after : Memory} {place : Address} (same : after.word place = memory.word place)
    {i : Nat} (hi : i < 8) : after.byte (place.advance i) = memory.byte (place.advance i) := by
  have rows : after.bytes place 8 = memory.bytes place 8 := by
    rw [bytes_eq_bytesOfNat_word, same, ← bytes_eq_bytesOfNat_word]
  have cell : (after.bytes place 8)[i]? = (memory.bytes place 8)[i]? := by rw [rows]
  rw [getElem?_bytes, getElem?_bytes, if_pos hi, if_pos hi] at cell
  exact Option.some.inj cell

end Memory

theorem apart_or_eq_of_aligned {place other : Address} (h : place.offset % counterSize = 0)
    (h' : other.offset % counterSize = 0) : Apart place counterSize other counterSize ∨ place = other := by
  by_cases same : place = other
  · exact .inr same
  · left
    cases place
    cases other
    simp only [Address.mk.injEq, not_and, counterSize, Apart] at *
    omega

/-- Ranges that are not apart have a byte in common. -/
theorem exists_common_of_not_apart {place other : Address} {m n : Nat} (overlap : ¬ Apart place m other n)
    (hm : 0 < m) (hn : 0 < n) : ∃ i < m, ∃ j < n, place.advance i = other.advance j := by
  obtain ⟨object, offset⟩ := place
  obtain ⟨object', offset'⟩ := other
  simp only [Apart, Address.advance, Address.mk.injEq] at *
  rcases Nat.le_total offset offset' with le | le
  · exact ⟨offset' - offset, by omega, 0, hn, by omega, by omega⟩
  · exact ⟨0, hm, offset - offset', by omega, by omega, by omega⟩

namespace Ring

/-! ## What each side may do -/

/-- What a write of so many bytes has done to the counters, if it has kept to its role. -/
structure Produced (ring : Ring) (memory after : Memory) (count : Nat) : Prop where
  write_eq : after.word ring.writeCounter = memory.word ring.writeCounter + .ofNat count
  read_eq : after.word ring.readCounter = memory.word ring.readCounter

/-- What a read of so many bytes has done to the counters and the ring, if it has kept to its role. -/
structure Consumed (ring : Ring) (memory after : Memory) (count : Nat) : Prop where
  read_eq : after.word ring.readCounter = memory.word ring.readCounter + .ofNat count
  write_eq : after.word ring.writeCounter = memory.word ring.writeCounter
  data_eq : ∀ i < ring.bytes, after.byte (ring.data.advance i) = memory.byte (ring.data.advance i)

variable {ring : Ring}

theorem Wrote.produced {memory after : Memory} {source : List UInt8} (h : ring.Wrote memory after source) :
    ring.Produced memory after source.length :=
  ⟨h.write_eq, h.read_eq⟩

theorem Took.consumed (sep : ring.Separate) {memory after : Memory} {count : Nat} (h : ring.Took memory after count) :
    ring.Consumed memory after count := by
  refine ⟨h.read_eq, h.write_eq, ?_⟩
  intro i hi
  apply h.others
  intro j hj same
  exact sep.read_data.advance_ne hj hi same.symm

/-- A call that succeeds has had room, or enough. -/
theorem write_fits {memory after : Memory} {source : List UInt8} (nonempty : source ≠ [])
    (ran : (ring.write source).run memory = (true, after)) : source.length ≤ ring.bytes - ring.unread memory := by
  apply Nat.le_of_not_lt
  intro full
  rw [run_write_refused nonempty full] at ran
  cases ran

theorem read_enough {memory after : Memory} {buffer filled : List UInt8} (nonempty : buffer ≠ [])
    (ran : (ring.read buffer).run memory = ((true, filled), after)) :
    buffer.length ≤ ring.bytes ∧ buffer.length ≤ ring.unread memory := by
  by_cases enough : buffer.length ≤ ring.bytes ∧ buffer.length ≤ ring.unread memory
  · exact enough
  · rw [run_read_refused nonempty (by omega)] at ran
    cases ran

/-- **A read keeps to its own counter**, on any two aligned counters. -/
theorem counters_of_read (positive : 0 < ring.bytes)
    (aligned : Apart ring.readCounter counterSize ring.writeCounter counterSize ∨ ring.readCounter = ring.writeCounter)
    {memory after : Memory} {buffer filled : List UInt8} (nonempty : buffer ≠ [])
    (ran : (ring.read buffer).run memory = ((true, filled), after)) :
    after.word ring.readCounter = memory.word ring.readCounter + .ofNat buffer.length ∧
      after.word ring.writeCounter = memory.word ring.writeCounter := by
  obtain ⟨le, enough⟩ := read_enough nonempty ran
  rw [run_read_stored positive nonempty le enough] at ran
  obtain ⟨-, rfl⟩ := Prod.mk.inj ran
  refine ⟨Memory.word_setWord _ _ _, ?_⟩
  rcases aligned with apart | same
  · exact Memory.word_setWord_of_apart _ _ apart
  · -- there is nothing between a counter and itself
    have nothing : ring.unread memory = 0 := by
      rw [unread, same, UInt64.sub_self]
      rfl
    have some_bytes := List.length_pos_iff.2 nonempty
    omega

/-! ## Writes that go astray -/

theorem exists_counters_at (apart : Apart ring.readCounter counterSize ring.writeCounter counterSize)
    (position : UInt64) : ∃ memory : Memory, memory.word ring.readCounter = position ∧
      memory.word ring.writeCounter = position ∧ ring.unread memory = 0 := by
  let memory := (Memory.zero.setWord ring.readCounter position).setWord ring.writeCounter position
  have read_eq : memory.word ring.readCounter = position := by
    rw [Memory.word_setWord_of_apart _ _ apart.symm, Memory.word_setWord]
  have write_eq : memory.word ring.writeCounter = position := Memory.word_setWord _ _ _
  refine ⟨memory, read_eq, write_eq, ?_⟩
  rw [unread, read_eq, write_eq, UInt64.sub_self]
  rfl

/-- **A word that reaches into the ring can be overwritten**: from counters that are at the common byte, a source of
any length changes it. -/
theorem exists_overwriting (apart : Apart ring.readCounter counterSize ring.writeCounter counterSize)
    (small : ring.bytes < wordLimit) {place : Address} (overlap : ¬ Apart place counterSize ring.data ring.bytes)
    {length : Nat} (length_pos : 0 < length) (le : length ≤ ring.bytes) :
    ∃ (memory : Memory) (source : List UInt8), ring.unread memory = 0 ∧ source.length = length ∧
      ∀ copied, ring.contents copied (memory.word ring.writeCounter).toNat source.length = source →
        copied.word place ≠ memory.word place := by
  obtain ⟨i, hi, j, hj, common⟩ := exists_common_of_not_apart overlap (by decide) (by omega)
  obtain ⟨memory, -, write_eq, nothing⟩ := exists_counters_at apart (.ofNat j)
  have first : ring.cell j = place.advance i := by rw [common, cell, Nat.mod_eq_of_lt hj]; rfl
  refine ⟨memory, List.replicate length (memory.byte (place.advance i) + 1), nothing, by simp, ?_⟩
  intro copied put same
  rw [write_eq, toNat_ofNat_of_small (by omega), List.length_replicate] at put
  have front := congrArg (·[0]?) put
  simp [contents, length_pos, first, Memory.byte_eq_of_word_eq same hi] at front

/-- **On regions that are not apart, some write of a given length goes astray.** -/
theorem exists_astray
    (aligned : Apart ring.readCounter counterSize ring.writeCounter counterSize ∨ ring.readCounter = ring.writeCounter)
    (small : ring.bytes < wordLimit) (overlap : ¬ ring.Separate) {length : Nat} (length_pos : 0 < length)
    (le : length ≤ ring.bytes) : ∃ (memory : Memory) (source : List UInt8) (after : Memory), ring.unread memory = 0 ∧
      source.length = length ∧ (ring.write source).run memory = (true, after) ∧
      ¬ ring.Produced memory after length := by
  have carried : ∀ (memory : Memory) (source : List UInt8), ring.unread memory = 0 → source.length = length →
      ∃ copied, (ring.write source).run memory =
          (true, copied.setWord ring.writeCounter (copied.word ring.writeCounter + .ofNat source.length)) ∧
        ring.contents copied (memory.word ring.writeCounter).toNat source.length = source := by
    intro memory source nothing length_eq
    have nonempty : source ≠ [] := List.length_pos_iff.1 (by omega)
    have fits : source.length ≤ ring.bytes - ring.unread memory := by omega
    obtain ⟨copied, ran, put, -⟩ := run_write_copied (by omega) nonempty fits
    exact ⟨copied, ran, put⟩
  rcases aligned with apart | same
  · by_cases read_data : Apart ring.readCounter counterSize ring.data ring.bytes
    · have write_data : ¬ Apart ring.writeCounter counterSize ring.data ring.bytes :=
        fun write_data => overlap ⟨apart, read_data, write_data⟩
      obtain ⟨memory, source, nothing, length_eq, changed⟩ := exists_overwriting apart small write_data length_pos le
      obtain ⟨copied, ran, put⟩ := carried memory source nothing length_eq
      refine ⟨memory, source, _, nothing, length_eq, ran, ?_⟩
      intro produced
      have write_eq := produced.write_eq
      rw [Memory.word_setWord, length_eq] at write_eq
      exact changed copied put ((UInt64.add_left_inj _).1 write_eq)
    · obtain ⟨memory, source, nothing, length_eq, changed⟩ := exists_overwriting apart small read_data length_pos le
      obtain ⟨copied, ran, put⟩ := carried memory source nothing length_eq
      refine ⟨memory, source, _, nothing, length_eq, ran, ?_⟩
      intro produced
      have read_eq := produced.read_eq
      rw [Memory.word_setWord_of_apart _ _ apart.symm] at read_eq
      exact changed copied put read_eq
  · -- what moves the one counter moves the other
    have nothing : ring.unread .zero = 0 := by
      rw [unread, same, UInt64.sub_self]
      rfl
    obtain ⟨copied, ran, -⟩ := carried .zero (List.replicate length 0) nothing (by simp)
    refine ⟨.zero, _, _, nothing, by simp, ran, ?_⟩
    intro produced
    have moved := produced.write_eq
    have stayed := produced.read_eq
    rw [same, moved, Memory.word_zero, UInt64.zero_add] at stayed
    have value := congrArg UInt64.toNat stayed
    rw [toNat_ofNat_of_small (by omega)] at value
    exact absurd value (by simpa using Nat.ne_of_gt length_pos)

end Ring

/-! ## Queues -/

namespace MessageQueue

open RegionDescriptor

variable {objects : Int → Nat} {descriptor : RegionDescriptor} {queue : MessageQueue}

/-- Whatever the counters, as long as they are not further apart than the ring is long, a call that moves something
keeps to its side's role. -/
def KeepsRoles (queue : MessageQueue) (ring : Ring) : Prop :=
  ∀ memory, ring.unread memory ≤ ring.bytes →
    (∀ elements after, elements ≠ [] → (queue.write elements).run memory = (true, after) →
      ring.Produced memory after (elements.length * queue.element.size)) ∧
    ∀ buffer filled after, buffer ≠ [] → (queue.read buffer).run memory = ((true, filled), after) →
      ring.Consumed memory after (buffer.length * queue.element.size)

/-- The counters of an accepted descriptor are apart, or they are one. -/
theorem counters_apart_or_eq {size : Nat} (accepted : Accepted descriptor size) (objects : Int → Nat) :
    let ring := ringOf objects descriptor
    Apart ring.readCounter counterSize ring.writeCounter counterSize ∨ ring.readCounter = ring.writeCounter := by
  obtain ⟨read, write, _, at0, at1, _, ⟨_, aligned0⟩, ⟨_, aligned1⟩, _⟩ := accepted.slots
  apply apart_or_eq_of_aligned
  · simp only [ringOf, slotStart, at0]
    exact aligned0
  · simp only [ringOf, slotStart, at1]
    exact aligned1

theorem exists_openedOn {element : ElementType} (validated : descriptor.validate element.size = .ok ())
    (objects : Int → Nat) : ∃ queue, OpenedOn objects descriptor queue ∧ queue.element = element := by
  have accepted := (validate_eq_ok_iff _ _).1 validated
  have aligned : counterSize ∣ pageSize := by decide
  let request : Nat → MapRequest := fun _ fd _ => .ok (objects fd)
  have honest : Honest objects request := by
    intro slot fd window object answer
    exact (Except.ok.inj answer).symm
  have granted : Granted pageSize request descriptor := by
    intro slot below
    rw [(unobstructed_of_accepted aligned (by decide) request accepted).mapped slot below]
    exact ⟨_, rfl⟩
  exact ⟨_, openedOn_of_granted aligned honest validated granted, rfl⟩

theorem read_eq_ok {ring : Ring} (ring_eq : queue.ring = some ring) {memory after : Memory}
    {buffer filled : List Element} (ran : (queue.read buffer).run memory = ((true, filled), after)) :
    ∃ bytes, (ring.read (queue.element.encodeAll buffer)).run memory = ((true, bytes), after) := by
  simp only [read, ring_eq, Access.run_bind, Access.run_pure, Prod.mk.injEq] at ran
  obtain ⟨⟨done, -⟩, same⟩ := ran
  exact ⟨_, Prod.ext (Prod.ext done rfl) same⟩

theorem keepsRoles_of_separate (opened : OpenedOn objects descriptor queue)
    (sep : (ringOf objects descriptor).Separate) : queue.KeepsRoles (ringOf objects descriptor) := by
  obtain ⟨accepted, ring_eq⟩ := opened.accepted_and_ring_eq
  have positive : 0 < (ringOf objects descriptor).bytes := accepted.ringBytes_pos
  have size_pos : 0 < queue.element.size := accepted.size_eq ▸ accepted.size_pos
  intro memory _
  constructor
  · intro elements after nonempty ran
    simp only [write, ring_eq] at ran
    have fits := Ring.write_fits (by simpa [ElementType.encodeAll_eq_nil_iff size_pos] using nonempty) ran
    obtain ⟨written, ran', wrote⟩ := Ring.run_write sep positive fits
    rw [ran] at ran'
    obtain ⟨-, rfl⟩ := Prod.mk.inj ran'
    rw [← ElementType.length_encodeAll]
    exact wrote.produced
  · intro buffer filled after nonempty ran
    obtain ⟨bytes, ran⟩ := read_eq_ok ring_eq ran
    obtain ⟨le, enough⟩ :=
      Ring.read_enough (by simpa [ElementType.encodeAll_eq_nil_iff size_pos] using nonempty) ran
    obtain ⟨taken, ran', took⟩ := Ring.run_read sep positive le enough
    rw [ran] at ran'
    obtain ⟨-, rfl⟩ := Prod.mk.inj ran'
    rw [← ElementType.length_encodeAll]
    exact took.consumed sep

theorem separate_of_keepsRoles (opened : OpenedOn objects descriptor queue)
    (keeps : queue.KeepsRoles (ringOf objects descriptor)) : (ringOf objects descriptor).Separate := by
  obtain ⟨accepted, ring_eq⟩ := opened.accepted_and_ring_eq
  have size_pos : 0 < queue.element.size := accepted.size_eq ▸ accepted.size_pos
  have bytes_lt : (ringOf objects descriptor).bytes < wordLimit :=
    Nat.lt_of_le_of_lt accepted.bytes_le (by decide)
  have size_le : queue.element.size ≤ (ringOf objects descriptor).bytes := by
    rw [← accepted.size_eq]
    exact Nat.le_mul_of_pos_right _ accepted.count_pos
  by_cases overlap : (ringOf objects descriptor).Separate
  · exact overlap
  exfalso
  obtain ⟨memory, source, after, nothing, length_eq, ran, astray⟩ :=
    Ring.exists_astray (counters_apart_or_eq accepted objects) bytes_lt overlap size_pos size_le
  -- the source is that of one element
  have encoded : queue.element.encodeAll (queue.element.decodeAll 1 source) = source :=
    ElementType.encodeAll_decodeAll (by rw [length_eq, Nat.one_mul])
  have wrote : (queue.write (queue.element.decodeAll 1 source)).run memory = (true, after) := by
    simp only [write, ring_eq, encoded, ran]
  have produced := (keeps memory (by omega)).1 _ _ (by simp [ElementType.decodeAll]) wrote
  rw [ElementType.length_decodeAll, Nat.one_mul] at produced
  exact astray produced

/-- **The roles are kept exactly if the regions are apart.** Validation does not ask for it: there is a queue on
every descriptor that it accepts. A read keeps to its own counter on all of them. -/
theorem roles_kept_iff_regions_apart {element : ElementType} (validated : descriptor.validate element.size = .ok ())
    (objects : Int → Nat) :
    (∃ queue, OpenedOn objects descriptor queue ∧ queue.element = element) ∧
    ∀ queue, OpenedOn objects descriptor queue →
      let ring := ringOf objects descriptor
      (queue.KeepsRoles ring ↔ ring.Separate) ∧
      ∀ memory buffer filled after, buffer ≠ [] → (queue.read buffer).run memory = ((true, filled), after) →
        after.word ring.readCounter = memory.word ring.readCounter + .ofNat (buffer.length * queue.element.size) ∧
          after.word ring.writeCounter = memory.word ring.writeCounter := by
  refine ⟨exists_openedOn validated objects, ?_⟩
  intro queue opened ring
  refine ⟨⟨separate_of_keepsRoles opened, keepsRoles_of_separate opened⟩, ?_⟩
  intro memory buffer filled after nonempty ran
  obtain ⟨accepted, ring_eq⟩ := opened.accepted_and_ring_eq
  have size_pos : 0 < queue.element.size := accepted.size_eq ▸ accepted.size_pos
  obtain ⟨bytes, ran⟩ := read_eq_ok ring_eq ran
  rw [← ElementType.length_encodeAll]
  apply Ring.counters_of_read accepted.ringBytes_pos (counters_apart_or_eq accepted objects) _ ran
  simpa [ElementType.encodeAll_eq_nil_iff size_pos] using nonempty

/-- The descriptor of a layout: two words side by side, with the ring behind them. -/
theorem roles_kept_four_words :
    let descriptor : RegionDescriptor := ⟨⟨[3]⟩, [⟨0, 0, 8⟩, ⟨0, 64, 8⟩, ⟨0, 128, 16⟩], 4, 4⟩
    descriptor.validate 4 = .ok () ∧
      ∃ queue, OpenedOn (fun _ => 0) descriptor queue ∧ queue.KeepsRoles (ringOf (fun _ => 0) descriptor) := by
  intro descriptor
  have kept := @roles_kept_iff_regions_apart descriptor (.unsigned 4) rfl (fun _ => 0)
  obtain ⟨⟨queue, opened, -⟩, all⟩ := kept
  have apart : (ringOf (fun _ => 0) descriptor).Separate :=
    ⟨.inr (by decide), .inr (by decide), .inr (by decide)⟩
  exact ⟨rfl, queue, opened, (all queue opened).1.2 apart⟩

/-- Validation accepts one word as both counters, and a write of two elements moves both. -/
theorem write_moves_shared_counter :
    let descriptor : RegionDescriptor := ⟨⟨[3]⟩, [⟨0, 0, 8⟩, ⟨0, 0, 8⟩, ⟨0, 128, 16⟩], 4, 4⟩
    let ring := ringOf (fun _ => 0) descriptor
    let queue : MessageQueue := ⟨.unsigned 4, descriptor, some ring⟩
    descriptor.validate 4 = .ok () ∧ OpenedOn (fun _ => 0) descriptor queue ∧ ring.unread .zero = 0 ∧
      ∃ after, (queue.write [.integer 1, .integer 2]).run .zero = (true, after) ∧
        after.word ring.readCounter = 8 ∧ ¬ ring.Produced .zero after 8 := by
  intro descriptor ring queue
  have opened : OpenedOn (fun _ => 0) descriptor queue :=
    @openedOn_of_granted pageSize (by decide) _ _ (honest_const 0) _ _ rfl (by decide)
  have nothing : ring.unread .zero = 0 := by
    rw [Ring.unread, Memory.word_zero, Memory.word_zero]
    rfl
  let source : List UInt8 := [1, 0, 0, 0, 2, 0, 0, 0]
  obtain ⟨copied, ran, -, others⟩ := @Ring.run_write_copied ring (by decide) .zero source (by decide)
    (by rw [nothing]; decide)
  -- the ring lies behind the counter
  have zero : copied.word ring.writeCounter = 0 := by
    rw [← Memory.word_zero ring.writeCounter]
    apply Memory.word_congr
    intro i hi
    apply others
    intro j _ same
    have offsets := congrArg Address.offset same
    change 0 + i = 128 + ((Memory.zero.word ring.writeCounter).toNat + j) % 16 at offsets
    omega
  have moved : (copied.setWord ring.writeCounter (copied.word ring.writeCounter + 8)).word ring.readCounter = 8 := by
    rw [zero]
    exact Memory.word_setWord _ _ _
  refine ⟨rfl, opened, nothing, _, ran, moved, ?_⟩
  intro produced
  have stayed := moved.symm.trans produced.read_eq
  rw [Memory.word_zero] at stayed
  exact absurd stayed (by decide)

end MessageQueue

end SharedRing
