import SharedRing.Proofs.Cells

/-!
# What one call does

A write that is carried out puts its source at the write counter's position and moves that counter on;
a read returns what is at the read counter's position and moves that one on (`run_write`, `run_read`,
for any two counters). `Streams` relates a memory to the bytes that are written and not yet read: each
call takes it to what the same call does to the list (`Streams.write`, `Streams.read`), as long as the
counters have not wrapped.
-/

namespace SharedRing

namespace Ring

/-- The counters and the ring have no byte in common. -/
structure Separate (ring : Ring) : Prop where
  counters : Apart ring.readCounter counterSize ring.writeCounter counterSize
  read_data : Apart ring.readCounter counterSize ring.data ring.bytes
  write_data : Apart ring.writeCounter counterSize ring.data ring.bytes

/-- A ring of `count` quanta that have `size` bytes each. -/
structure Sized (ring : Ring) (size count : Nat) : Prop where
  separate : ring.Separate
  size_pos : 0 < size
  count_pos : 0 < count
  bytes_eq : ring.bytes = size * count

theorem Sized.bytes_pos {ring : Ring} {size count : Nat} (h : ring.Sized size count) : 0 < ring.bytes := by
  rw [h.bytes_eq]
  exact Nat.mul_pos h.size_pos h.count_pos

/-- The bytes between the counters, whatever these are. -/
def unread (ring : Ring) (memory : Memory) : Nat :=
  (memory.word ring.writeCounter - memory.word ring.readCounter).toNat

@[simp] theorem run_availableToRead (ring : Ring) (memory : Memory) :
    ring.availableToRead.run memory = (ring.unread memory, memory) := by
  simp [availableToRead, unread]

@[simp] theorem run_availableToWrite (ring : Ring) (memory : Memory) :
    ring.availableToWrite.run memory = (ring.bytes - ring.unread memory, memory) := by
  simp [availableToWrite]

/-! ## Counters and cells -/

theorem Separate.cell_ne_read {ring : Ring} (sep : ring.Separate) (positive : 0 < ring.bytes) {i : Nat}
    (hi : i < counterSize) (p : Nat) : ring.readCounter.advance i ≠ ring.cell p := by
  obtain ⟨j, hj, same⟩ := ring.cell_eq_advance positive p
  rw [same]
  exact sep.read_data.advance_ne hi hj

theorem Separate.cell_ne_write {ring : Ring} (sep : ring.Separate) (positive : 0 < ring.bytes) {i : Nat}
    (hi : i < counterSize) (p : Nat) : ring.writeCounter.advance i ≠ ring.cell p := by
  obtain ⟨j, hj, same⟩ := ring.cell_eq_advance positive p
  rw [same]
  exact sep.write_data.advance_ne hi hj

theorem Separate.contents_setWord_read {ring : Ring} (sep : ring.Separate) (positive : 0 < ring.bytes)
    (memory : Memory) (value : UInt64) (p n : Nat) :
    ring.contents (memory.setWord ring.readCounter value) p n = ring.contents memory p n :=
  contents_congr fun _ _ => Memory.byte_setWord_of_ne memory value fun _ hi =>
    (sep.cell_ne_read positive hi _).symm

theorem Separate.contents_setWord_write {ring : Ring} (sep : ring.Separate) (positive : 0 < ring.bytes)
    (memory : Memory) (value : UInt64) (p n : Nat) :
    ring.contents (memory.setWord ring.writeCounter value) p n = ring.contents memory p n :=
  contents_congr fun _ _ => Memory.byte_setWord_of_ne memory value fun _ hi =>
    (sep.cell_ne_write positive hi _).symm

/-- A memory that differs in cells only has the same counters. -/
theorem Separate.words_of_cells {ring : Ring} (sep : ring.Separate) (positive : 0 < ring.bytes)
    {memory after : Memory} {p n : Nat}
    (others : ∀ other, (∀ i < n, other ≠ ring.cell (p + i)) → after.byte other = memory.byte other) :
    after.word ring.readCounter = memory.word ring.readCounter ∧
      after.word ring.writeCounter = memory.word ring.writeCounter :=
  ⟨Memory.word_congr fun _ hi => others _ fun _ _ => sep.cell_ne_read positive hi _,
   Memory.word_congr fun _ hi => others _ fun _ _ => sep.cell_ne_write positive hi _⟩

/-! ## A write -/

/-- What a write that is carried out does to memory. -/
structure Wrote (ring : Ring) (memory after : Memory) (source : List UInt8) : Prop where
  write_eq : after.word ring.writeCounter = memory.word ring.writeCounter + UInt64.ofNat source.length
  read_eq : after.word ring.readCounter = memory.word ring.readCounter
  contents_eq : ring.contents after (memory.word ring.writeCounter).toNat source.length = source
  others : ∀ other, (∀ i < counterSize, other ≠ ring.writeCounter.advance i) →
    (∀ i < source.length, other ≠ ring.cell ((memory.word ring.writeCounter).toNat + i)) →
    after.byte other = memory.byte other

theorem run_write_refused {ring : Ring} {memory : Memory} {source : List UInt8} (nonempty : source ≠ [])
    (full : ring.bytes - ring.unread memory < source.length) :
    (ring.write source).run memory = (false, memory) := by
  simp [write, nonempty, full]

/-- A write for which there is room copies its source and then moves the write counter on, as it is loaded after
the copy. The regions may overlap. -/
theorem run_write_copied {ring : Ring} (positive : 0 < ring.bytes) {memory : Memory} {source : List UInt8}
    (nonempty : source ≠ []) (fits : source.length ≤ ring.bytes - ring.unread memory) :
    ∃ copied, (ring.write source).run memory =
        (true, copied.setWord ring.writeCounter (copied.word ring.writeCounter + .ofNat source.length)) ∧
      ring.contents copied (memory.word ring.writeCounter).toNat source.length = source ∧
      ∀ other, (∀ i < source.length, other ≠ ring.cell ((memory.word ring.writeCounter).toNat + i)) →
        copied.byte other = memory.byte other := by
  have covers := ring.covers_transaction (memory.word ring.writeCounter) positive
    (show source.length ≤ ring.bytes by omega)
  obtain ⟨copied, ran, put, others⟩ := run_copyIn covers memory rfl (by omega)
  refine ⟨copied, ?_, put, others⟩
  simp [write, nonempty, show ¬ ring.bytes - ring.unread memory < source.length by omega, writeBytes, beginWrite,
    ran, commitWrite]

/-- **A write for which there is room is carried out.** -/
theorem run_write {ring : Ring} (sep : ring.Separate) (positive : 0 < ring.bytes) {memory : Memory}
    {source : List UInt8} (fits : source.length ≤ ring.bytes - ring.unread memory) :
    ∃ after, (ring.write source).run memory = (true, after) ∧ ring.Wrote memory after source := by
  by_cases empty : source = []
  · subst empty
    exact ⟨memory, by simp [write], by simp, rfl, contents_zero ring memory _, fun _ _ _ => rfl⟩
  · obtain ⟨copied, ran, put, others⟩ := run_write_copied positive empty fits
    obtain ⟨read_eq, write_eq⟩ := sep.words_of_cells positive others
    rw [write_eq] at ran
    refine ⟨_, ran, Memory.word_setWord _ _ _, ?_, ?_, fun other away outside => ?_⟩
    · rw [Memory.word_setWord_of_apart _ _ sep.counters.symm, read_eq]
    · rw [sep.contents_setWord_write positive, put]
    · rw [Memory.byte_setWord_of_ne _ _ away, others other outside]

/-! ## A read -/

/-- What a read that is carried out does to memory. -/
structure Took (ring : Ring) (memory after : Memory) (count : Nat) : Prop where
  read_eq : after.word ring.readCounter = memory.word ring.readCounter + UInt64.ofNat count
  write_eq : after.word ring.writeCounter = memory.word ring.writeCounter
  others : ∀ other, (∀ i < counterSize, other ≠ ring.readCounter.advance i) → after.byte other = memory.byte other

theorem run_read_refused {ring : Ring} {memory : Memory} {buffer : List UInt8} (nonempty : buffer ≠ [])
    (short : ring.bytes < buffer.length ∨ ring.unread memory < buffer.length) :
    (ring.read buffer).run memory = ((false, buffer), memory) := by
  by_cases long : ring.bytes < buffer.length
  · simp [read, nonempty, long]
  · simp [read, nonempty, long, short.resolve_left long]

/-- A read for which there is enough stores the read counter and nothing else. The regions may overlap. -/
theorem run_read_stored {ring : Ring} (positive : 0 < ring.bytes) {memory : Memory} {buffer : List UInt8}
    (nonempty : buffer ≠ []) (le : buffer.length ≤ ring.bytes) (enough : buffer.length ≤ ring.unread memory) :
    (ring.read buffer).run memory =
      ((true, ring.contents memory (memory.word ring.readCounter).toNat buffer.length),
        memory.setWord ring.readCounter (memory.word ring.readCounter + .ofNat buffer.length)) := by
  have covers := ring.covers_transaction (memory.word ring.readCounter) positive le
  have ran := @run_copyOut _ _ _ _ covers memory buffer rfl
  simp [read, nonempty, show ¬ ring.bytes < buffer.length by omega,
    show ¬ ring.unread memory < buffer.length by omega, readBytes, beginRead, ran, commitRead]

/-- **A read for which there is enough is carried out.** -/
theorem run_read {ring : Ring} (sep : ring.Separate) (positive : 0 < ring.bytes) {memory : Memory}
    {buffer : List UInt8} (le : buffer.length ≤ ring.bytes) (enough : buffer.length ≤ ring.unread memory) :
    ∃ after, (ring.read buffer).run memory =
        ((true, ring.contents memory (memory.word ring.readCounter).toNat buffer.length), after) ∧
      ring.Took memory after buffer.length := by
  by_cases empty : buffer = []
  · subst empty
    exact ⟨memory, by simp [read, contents_zero], by simp, rfl, fun _ _ => rfl⟩
  · refine ⟨_, run_read_stored positive empty le enough, Memory.word_setWord _ _ _, ?_, fun other away => ?_⟩
    · rw [Memory.word_setWord_of_apart _ _ sep.counters]
    · exact Memory.byte_setWord_of_ne _ _ away

theorem Took.contents_eq {ring : Ring} {memory after : Memory} {count : Nat} (h : ring.Took memory after count)
    (sep : ring.Separate) (positive : 0 < ring.bytes) (p n : Nat) :
    ring.contents after p n = ring.contents memory p n :=
  contents_congr fun _ _ => h.others _ fun _ hi => (sep.cell_ne_read positive hi _).symm

/-! ## The ring as a list of bytes -/

/-- The ring holds these bytes from the read counter's position on, and no counter has wrapped. -/
structure Streams (ring : Ring) (memory : Memory) (start : Nat) (bytes : List UInt8) : Prop where
  read_eq : memory.word ring.readCounter = UInt64.ofNat start
  write_eq : memory.word ring.writeCounter = UInt64.ofNat (start + bytes.length)
  small : start + bytes.length < wordLimit
  le : bytes.length ≤ ring.bytes
  contents_eq : ring.contents memory start bytes.length = bytes

theorem toNat_ofNat_of_small {n : Nat} (h : n < wordLimit) : (UInt64.ofNat n).toNat = n :=
  UInt64.toNat_ofNat_of_lt h

theorem toNat_add_ofNat (position : UInt64) (count : Nat) :
    (position + UInt64.ofNat count).toNat = (position.toNat + count) % wordLimit := by
  rw [UInt64.toNat_add, UInt64.toNat_ofNat']
  exact Nat.add_mod_mod _ _ _

/-- The distance of two counters, also if one of them has wrapped. -/
theorem toNat_ofNat_add_sub (start : Nat) {count : Nat} (small : count < wordLimit) :
    (UInt64.ofNat (start + count) - UInt64.ofNat start).toNat = count := by
  rw [UInt64.ofNat_add, UInt64.add_comm, UInt64.add_sub_cancel, toNat_ofNat_of_small small]

theorem toNat_sub_ofNat {read written : Nat} (le : read ≤ written) (small : written < wordLimit) :
    (UInt64.ofNat written - UInt64.ofNat read).toNat = written - read := by
  obtain ⟨distance, rfl⟩ := Nat.exists_eq_add_of_le le
  rw [toNat_ofNat_add_sub read (by omega), Nat.add_sub_cancel_left]

theorem Streams.unread_eq {ring : Ring} {memory : Memory} {start : Nat} {bytes : List UInt8}
    (h : ring.Streams memory start bytes) : ring.unread memory = bytes.length := by
  rw [unread, h.write_eq, h.read_eq, toNat_ofNat_add_sub start (Nat.lt_of_le_of_lt (Nat.le_add_left _ _) h.small)]

section
variable {ring : Ring} {memory : Memory} {start : Nat} {bytes : List UInt8}

theorem streams_nil (h : memory.word ring.readCounter = 0) (h' : memory.word ring.writeCounter = 0) :
    ring.Streams memory 0 [] :=
  ⟨h, h', by decide, Nat.zero_le _, rfl⟩

/-- A memory that has a source behind the stream and the write counter behind the source streams both. -/
theorem Streams.append (h : ring.Streams memory start bytes) {after : Memory} {source : List UInt8}
    (read_eq : after.word ring.readCounter = memory.word ring.readCounter)
    (write_eq : after.word ring.writeCounter = .ofNat (start + bytes.length + source.length))
    (kept : ring.contents after start bytes.length = ring.contents memory start bytes.length)
    (put : ring.contents after (start + bytes.length) source.length = source)
    (room : bytes.length + source.length ≤ ring.bytes)
    (small : start + (bytes.length + source.length) < wordLimit) : ring.Streams after start (bytes ++ source) := by
  refine ⟨read_eq.trans h.read_eq, ?_, by simpa using small, by simpa using room, ?_⟩
  · rw [write_eq, List.length_append, Nat.add_assoc]
  · rw [List.length_append, contents_add, kept, h.contents_eq, put]

/-- A memory that has the read counter further on streams what comes after. -/
theorem Streams.drop (h : ring.Streams memory start bytes) {after : Memory} {count : Nat}
    (read_eq : after.word ring.readCounter = .ofNat (start + count))
    (write_eq : after.word ring.writeCounter = memory.word ring.writeCounter)
    (kept : ∀ p n, ring.contents after p n = ring.contents memory p n) (enough : count ≤ bytes.length) :
    ring.Streams after (start + count) (bytes.drop count) := by
  have le := h.le
  have small := h.small
  have halves := h.contents_eq
  rw [show bytes.length = count + (bytes.length - count) by omega, contents_add] at halves
  have back := congrArg (List.drop count) halves
  rw [List.drop_left' (by simp)] at back
  refine ⟨read_eq, ?_, by simp; omega, by simp; omega, ?_⟩
  · rw [write_eq, h.write_eq, List.length_drop, Nat.add_assoc, Nat.add_sub_cancel' enough]
  · rw [kept, List.length_drop, back]

theorem Streams.contents_take (h : ring.Streams memory start bytes) {count : Nat} (enough : count ≤ bytes.length) :
    ring.contents memory start count = bytes.take count := by
  have halves := h.contents_eq
  rw [show bytes.length = count + (bytes.length - count) by omega, contents_add] at halves
  have front := congrArg (List.take count) halves
  rwa [List.take_left' (by simp)] at front

/-- **A write appends**, if there is room. -/
theorem Streams.write (h : ring.Streams memory start bytes) (sep : ring.Separate) (positive : 0 < ring.bytes)
    {source : List UInt8} (fits : bytes.length + source.length ≤ ring.bytes)
    (small : start + (bytes.length + source.length) < wordLimit) :
    ∃ after, (ring.write source).run memory = (true, after) ∧ ring.Streams after start (bytes ++ source) := by
  have room : source.length ≤ ring.bytes - ring.unread memory := by rw [h.unread_eq]; omega
  obtain ⟨after, ran, wrote⟩ := run_write sep positive room
  have position : (memory.word ring.writeCounter).toNat = start + bytes.length := by
    rw [h.write_eq, toNat_ofNat_of_small h.small]
  have write_eq : after.word ring.writeCounter = .ofNat (start + bytes.length + source.length) := by
    rw [wrote.write_eq, h.write_eq, ← UInt64.ofNat_add]
  -- the cells that are filled are not those that are unread
  have kept : ring.contents after start bytes.length = ring.contents memory start bytes.length :=
    contents_congr fun i hi => wrote.others _ (fun _ hj => (sep.cell_ne_write positive hj _).symm)
      fun j hj => ring.cell_ne (by omega) (by omega)
  have put := wrote.contents_eq
  rw [position] at put
  exact ⟨after, ran, h.append wrote.read_eq write_eq kept put fits small⟩

theorem Streams.write_refused (h : ring.Streams memory start bytes) {source : List UInt8}
    (full : ring.bytes < bytes.length + source.length) : (ring.write source).run memory = (false, memory) := by
  have le := h.le
  refine run_write_refused (fun empty => ?_) (by rw [h.unread_eq]; omega)
  subst empty
  simp at full
  omega

/-- **A read removes what is oldest**, if there is enough. -/
theorem Streams.read (h : ring.Streams memory start bytes) (sep : ring.Separate) (positive : 0 < ring.bytes)
    {buffer : List UInt8} (enough : buffer.length ≤ bytes.length) :
    ∃ after, (ring.read buffer).run memory = ((true, bytes.take buffer.length), after) ∧
      ring.Streams after (start + buffer.length) (bytes.drop buffer.length) := by
  have small := h.small
  have there : buffer.length ≤ ring.unread memory := by rw [h.unread_eq]; exact enough
  obtain ⟨after, ran, took⟩ := run_read sep positive (Nat.le_trans enough h.le) there
  have read_eq : after.word ring.readCounter = .ofNat (start + buffer.length) := by
    rw [took.read_eq, h.read_eq, ← UInt64.ofNat_add]
  refine ⟨after, ?_, h.drop read_eq took.write_eq (took.contents_eq sep positive) enough⟩
  rw [ran, h.read_eq, toNat_ofNat_of_small (by omega), h.contents_take enough]

theorem Streams.read_refused (h : ring.Streams memory start bytes) {buffer : List UInt8}
    (short : bytes.length < buffer.length) : (ring.read buffer).run memory = ((false, buffer), memory) := by
  refine run_read_refused (fun empty => ?_) (.inr (by rw [h.unread_eq]; exact short))
  subst empty
  simp at short

end

end Ring

end SharedRing
