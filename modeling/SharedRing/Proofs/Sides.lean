import SharedRing.Proofs.Accesses
import SharedRing.Proofs.Stream

/-!
# The two sides, access by access

A write or read that has been performed in part rests on what it has loaded, and the other side goes on
in the meantime. `Producing` follows a write access by access: what it loads of its own counter is known,
what it loads of the other one is only known not to go down, and before it copies or stores it has seen
enough room. `Consuming` is the same of a read. Both are recursions over the tree of accesses, and a
call's tree satisfies them whatever is loaded (`producing_write`, `consuming_read`).

`Writing` and `Reading` tie these to a memory that streams bytes. One access of a side keeps its own
(`Writing.step`, `Reading.step`), and no access of the other side takes it away (`Writing.release`,
`Reading.append`).
-/

namespace SharedRing

namespace Ring

/-! ## Parts of a write and of a read -/

section
variable {ring : Ring} {memory : Memory} {start : Nat} {bytes : List UInt8}

/-- A copy into cells that are free leaves the stream. -/
theorem Streams.fill (h : ring.Streams memory start bytes) (sep : ring.Separate) (positive : 0 < ring.bytes)
    {place : Address} {payload : List UInt8} {copied : Nat}
    (cells : ∀ i < payload.length, place.advance i = ring.cell (start + bytes.length + copied + i))
    (room : bytes.length + copied + payload.length ≤ ring.bytes) :
    ring.Streams (memory.setBytes place payload) start bytes := by
  have others : ∀ other, (∀ i < payload.length, other ≠ ring.cell (start + bytes.length + copied + i)) →
      (memory.setBytes place payload).byte other = memory.byte other := fun other outside =>
    Memory.byte_setBytes_of_ne memory fun i hi => by rw [cells i hi]; exact outside i hi
  obtain ⟨read_eq, write_eq⟩ := sep.words_of_cells positive others
  refine ⟨read_eq.trans h.read_eq, write_eq.trans h.write_eq, h.small, h.le, Eq.trans ?_ h.contents_eq⟩
  exact contents_congr fun i hi => others _ fun j hj => ring.cell_ne (by omega) (by omega)

/-- A copy into the cells after others puts its bytes after theirs. -/
theorem contents_fill {place : Address} {payload : List UInt8} {p copied : Nat}
    (cells : ∀ i < payload.length, place.advance i = ring.cell (p + copied + i))
    (room : copied + payload.length ≤ ring.bytes) :
    ring.contents (memory.setBytes place payload) p (copied + payload.length) =
      ring.contents memory p copied ++ payload := by
  have kept : ring.contents (memory.setBytes place payload) p copied = ring.contents memory p copied :=
    contents_congr fun i hi => Memory.byte_setBytes_of_ne memory fun j hj => by
      rw [cells j hj]
      exact ring.cell_ne (by omega) (by omega)
  have put : ring.contents (memory.setBytes place payload) (p + copied) payload.length =
      (memory.setBytes place payload).bytes place payload.length :=
    List.map_congr_left fun i member => by rw [cells i (List.mem_range.1 member)]
  rw [contents_add, kept, put, Memory.bytes_setBytes_self]

theorem Streams.publish (h : ring.Streams memory start bytes) (sep : ring.Separate) (positive : 0 < ring.bytes)
    {source : List UInt8} (filled : ring.contents memory (start + bytes.length) source.length = source)
    (room : bytes.length + source.length ≤ ring.bytes)
    (small : start + (bytes.length + source.length) < wordLimit) :
    ring.Streams (memory.setWord ring.writeCounter (.ofNat (start + bytes.length + source.length))) start
      (bytes ++ source) := by
  have kept := sep.contents_setWord_write positive memory (.ofNat (start + bytes.length + source.length))
  exact h.append (Memory.word_setWord_of_apart _ _ sep.counters.symm) (Memory.word_setWord _ _ _) (kept _ _)
    ((kept _ _).trans filled) room small

theorem Streams.release (h : ring.Streams memory start bytes) (sep : ring.Separate) (positive : 0 < ring.bytes)
    {count : Nat} (enough : count ≤ bytes.length) :
    ring.Streams (memory.setWord ring.readCounter (.ofNat (start + count))) (start + count) (bytes.drop count) :=
  h.drop (Memory.word_setWord _ _ _) (Memory.word_setWord_of_apart _ _ sep.counters)
    (sep.contents_setWord_read positive memory _) enough

/-- Copying out of the cells after the oldest ones returns what comes after them in the stream. -/
theorem Streams.drain (h : ring.Streams memory start bytes) {place : Address} {taken : List UInt8} {count : Nat}
    (prior : taken <+: bytes) (cells : ∀ i < count, place.advance i = ring.cell (start + taken.length + i))
    (enough : taken.length + count ≤ bytes.length) : taken ++ memory.bytes place count <+: bytes := by
  have there : memory.bytes place count = ring.contents memory (start + taken.length) count :=
    List.map_congr_left fun i member => by rw [cells i (List.mem_range.1 member)]
  obtain ⟨rest, rfl⟩ := prior
  have whole := h.contents_eq
  rw [show (taken ++ rest).length = taken.length + (count + (rest.length - count)) by
    simp only [List.length_append] at enough ⊢; omega, contents_add, contents_add] at whole
  have tail := (List.append_inj whole (by simp)).2
  rw [there]
  exact (List.prefix_append_right_inj taken).2 ⟨_, tail⟩

end

/-! ## The producer -/

/-- What is left of a write of `source`, of which `copied` bytes are in the ring. Its own counter is at
`position`, and it has seen the read counter at `floor`. -/
def Producing (ring : Ring) (source : List UInt8) (position : Nat) : Nat → Nat → Access Bool → Prop
  | _, _, .done wrote => wrote = false
  | floor, copied, .load place next =>
    place = ring.writeCounter ∧ Producing ring source position floor copied (next (.ofNat position)) ∨
    place = ring.readCounter ∧ ∀ read, floor ≤ read → read ≤ position →
      Producing ring source position read copied (next (.ofNat read))
  | floor, copied, .store place value next =>
    position + source.length ≤ floor + ring.bytes ∧ copied = source.length ∧ place = ring.writeCounter ∧
      value = .ofNat (position + source.length) ∧ next = .done true
  | floor, copied, .copyIn place bytes next =>
    position + source.length ≤ floor + ring.bytes ∧ bytes = (source.drop copied).take bytes.length ∧
      (∀ i < bytes.length, place.advance i = ring.cell (position + copied + i)) ∧
      Producing ring source position floor (copied + bytes.length) next
  | _, _, .copyOut .. => False

/-- A write under way: what it has seen is still so, and what it has copied is in the ring. -/
def Writing (ring : Ring) (memory : Memory) (start position : Nat) (source : List UInt8) (rest : Access Bool) :
    Prop :=
  ∃ floor ≤ start, ∃ copied ≤ source.length, ring.contents memory position copied = source.take copied ∧
    ring.Producing source position floor copied rest

theorem producing_copyIn {ring : Ring} {source : List UInt8} {position floor : Nat} {spans : List Span} {p n : Nat}
    {commit : Nat → Access Bool} (room : position + source.length ≤ floor + ring.bytes)
    (committed : ring.Producing source position floor source.length (commit source.length))
    (covers : ring.Covers p spans n) : ∀ {copied : Nat}, p = position + copied → copied + n = source.length →
      ring.Producing source position floor copied
        (ring.copyIn spans (source.drop copied) >>= fun rest => commit (copied + rest)) := by
  induction covers with
  | nil =>
    intro copied _ total
    obtain rfl : copied = source.length := total
    exact committed
  | @cons p n span spans starts _ ih =>
    intro copied at_eq total
    have length_eq : ((source.drop copied).take span.length).length = span.length := by simp; omega
    have next := @ih (copied + span.length) (by omega) (by omega)
    simp only [copyIn, Access.putBytes_bind, Access.copyIn_bind, bind_assoc, pure_bind, Producing, length_eq,
      List.drop_drop]
    refine ⟨room, trivial, fun i hi => ?_, ?_⟩
    · rw [starts.place_advance hi, at_eq]
    · simpa only [Nat.add_assoc] using next

/-- **A write is one that produces**, whatever it loads. -/
theorem producing_write {ring : Ring} {source : List UInt8} (positive : 0 < ring.bytes) (nonempty : source ≠ [])
    {position : Nat} (small : position < wordLimit) (floor : Nat) :
    ring.Producing source position floor 0 (ring.write source) := by
  have length_pos := List.length_pos_iff.2 nonempty
  rw [write_eq ring nonempty]
  -- the check
  refine .inl ⟨rfl, .inr ⟨rfl, fun read _ le => ?_⟩⟩
  simp only [toNat_sub_ofNat le small]
  by_cases full : ring.bytes - (position - read) < source.length
  · rw [if_pos full]
    rfl
  rw [if_neg full]
  -- the loads that begin the write
  refine .inr ⟨rfl, fun read' le' _ => .inl ⟨rfl, ?_⟩⟩
  have room : position + source.length ≤ read' + ring.bytes := by omega
  have covers := ring.covers_transaction (.ofNat position) positive (show source.length ≤ ring.bytes by omega)
  rw [toNat_ofNat_of_small small] at covers
  -- the copies, and then the counter
  have committed : ring.Producing source position read' source.length
      (.load ring.writeCounter fun own =>
        .store ring.writeCounter (own + .ofNat source.length) (.done (source.length == source.length))) :=
    .inl ⟨rfl, room, rfl, rfl, (UInt64.ofNat_add _ _).symm, by rw [beq_self_eq_true]⟩
  have copies := @producing_copyIn _ _ _ _ _ _ _
    (fun copied => .load ring.writeCounter fun own =>
      .store ring.writeCounter (own + .ofNat copied) (.done (copied == source.length))) room committed covers 0 rfl
    (Nat.zero_add _)
  simpa only [Nat.zero_add, List.drop_zero] using copies

/-- **One access of the producer** either publishes the source or keeps the write under way; the read
counter's side sees nothing of it. -/
theorem Writing.step {ring : Ring} (sep : ring.Separate) (positive : 0 < ring.bytes) {memory after : Memory}
    {start : Nat} {bytes source : List UInt8} {operation rest : Access Bool} (h : ring.Streams memory start bytes)
    (writing : ring.Writing memory start (start + bytes.length) source operation)
    (stepped : operation.step? memory = some (rest, after)) :
    (rest = .done true ∧ (start + (bytes.length + source.length) < wordLimit →
      ring.Streams after start (bytes ++ source))) ∨
    (ring.Streams after start bytes ∧ ring.Writing after start (start + bytes.length) source rest) := by
  obtain ⟨floor, floor_le, copied, copied_le, filled, producing⟩ := writing
  cases operation with
  | done wrote => cases stepped
  | load place next =>
    obtain ⟨rfl, rfl⟩ := Prod.mk.inj (Option.some.inj stepped)
    refine .inr ⟨h, ?_⟩
    rcases producing with ⟨rfl, producing⟩ | ⟨rfl, producing⟩
    · rw [h.write_eq]
      exact ⟨floor, floor_le, copied, copied_le, filled, producing⟩
    · rw [h.read_eq]
      exact ⟨start, Nat.le_refl _, copied, copied_le, filled, producing start floor_le (Nat.le_add_right _ _)⟩
  | store place value next =>
    obtain ⟨rfl, rfl⟩ := Prod.mk.inj (Option.some.inj stepped)
    obtain ⟨room, rfl, rfl, rfl, rfl⟩ := producing
    rw [List.take_length] at filled
    exact .inl ⟨rfl, h.publish sep positive filled (by omega)⟩
  | copyIn place payload next =>
    obtain ⟨rfl, rfl⟩ := Prod.mk.inj (Option.some.inj stepped)
    obtain ⟨room, payload_eq, cells, producing⟩ := producing
    have payload_le : copied + payload.length ≤ source.length := by
      have := congrArg List.length payload_eq
      simp at this
      omega
    refine .inr ⟨h.fill sep positive cells (by omega), floor, floor_le, _, payload_le, ?_, producing⟩
    rw [contents_fill cells (by omega), filled, List.take_add, ← payload_eq]
  | copyOut place count next => exact producing.elim

theorem Writing.release {ring : Ring} {memory after : Memory} {start start' position : Nat} {source : List UInt8}
    {rest : Access Bool} (writing : ring.Writing memory start position source rest) (le : start ≤ start')
    (kept : ∀ p n, ring.contents after p n = ring.contents memory p n) :
    ring.Writing after start' position source rest := by
  obtain ⟨floor, floor_le, copied, copied_le, filled, producing⟩ := writing
  exact ⟨floor, Nat.le_trans floor_le le, copied, copied_le, (kept _ _).trans filled, producing⟩

/-! ## The consumer -/

/-- What is left of a read of `count` bytes, which has copied out those `taken`. Its own counter is at
`position`, and it has seen the write counter at `ceiling`. -/
def Consuming {β : Type} (ring : Ring) (count : Nat) (finish : List UInt8 → β) (position : Nat) :
    Nat → List UInt8 → Access (Bool × β) → Prop
  | _, _, .done result => result.1 = false
  | ceiling, taken, .load place next =>
    place = ring.readCounter ∧ Consuming ring count finish position ceiling taken (next (.ofNat position)) ∨
    place = ring.writeCounter ∧ ∀ written, ceiling ≤ written → position ≤ written → written < wordLimit →
      Consuming ring count finish position written taken (next (.ofNat written))
  | ceiling, taken, .store place value next =>
    position + count ≤ ceiling ∧ taken.length = count ∧ place = ring.readCounter ∧
      value = .ofNat (position + count) ∧ next = .done (true, finish taken)
  | _, _, .copyIn .. => False
  | ceiling, taken, .copyOut place length next =>
    position + count ≤ ceiling ∧ taken.length + length ≤ count ∧
      (∀ i < length, place.advance i = ring.cell (position + taken.length + i)) ∧
      ∀ bytes, bytes.length = length → Consuming ring count finish position ceiling (taken ++ bytes) (next bytes)

/-- A read under way: what it has seen is still so, and what it has copied is what is oldest. -/
def Reading {β : Type} (ring : Ring) (start : Nat) (bytes : List UInt8) (count : Nat) (finish : List UInt8 → β)
    (rest : Access (Bool × β)) : Prop :=
  ∃ ceiling ≤ start + bytes.length, ∃ taken, taken <+: bytes ∧
    ring.Consuming count finish start ceiling taken rest

theorem consuming_copyOut {β : Type} {ring : Ring} {count position ceiling : Nat} {finish : List UInt8 → β}
    {spans : List Span} {p n : Nat} {commit : Nat × List UInt8 → Access (Bool × β)}
    (room : position + count ≤ ceiling)
    (committed : ∀ taken, taken.length = count →
      ring.Consuming count finish position ceiling taken (commit (count, taken)))
    (covers : ring.Covers p spans n) : ∀ {taken buffer : List UInt8}, p = position + taken.length →
      taken.length + n = count → buffer.length = n →
      ring.Consuming count finish position ceiling taken
        (ring.copyOut spans buffer >>= fun rest => commit (taken.length + rest.1, taken ++ rest.2)) := by
  induction covers with
  | nil =>
    intro taken buffer _ total empty
    obtain rfl := List.length_eq_zero_iff.1 empty
    have last := committed taken total
    simpa only [copyOut, pure_bind, total, Nat.add_zero, List.append_nil] using last
  | @cons p n span spans starts _ ih =>
    intro taken buffer at_eq total length_eq
    simp only [copyOut, Access.takeBytes_bind, Access.copyOut_bind, bind_assoc, pure_bind, Consuming]
    refine ⟨room, by omega, fun i hi => ?_, fun bytes bytes_eq => ?_⟩
    · rw [starts.place_advance hi, at_eq]
    · have next := @ih (taken ++ bytes) (buffer.drop span.length) (by simp; omega) (by simp; omega) (by simp; omega)
      simpa only [List.length_append, bytes_eq, Nat.add_assoc, List.append_assoc] using next

theorem Consuming.map {β : Type} {ring : Ring} {count position : Nat} (finish : List UInt8 → β) :
    ∀ {operation : Access (Bool × List UInt8)} {ceiling : Nat} {taken : List UInt8},
      ring.Consuming count id position ceiling taken operation →
      ring.Consuming count finish position ceiling taken
        (operation >>= fun result => pure (result.1, finish result.2))
  | .done _, _, _, refused => refused
  | .load _ _, _, _, .inl ⟨own, rest⟩ => .inl ⟨own, rest.map finish⟩
  | .load _ _, _, _, .inr ⟨other, rest⟩ =>
    .inr ⟨other, fun written le le' small => (rest written le le' small).map finish⟩
  | .store _ _ _, _, _, ⟨room, all, own, value, last⟩ => ⟨room, all, own, value, by rw [last]; rfl⟩
  | .copyOut _ _ _, _, _, ⟨room, le, cells, rest⟩ =>
    ⟨room, le, cells, fun bytes bytes_eq => (rest bytes bytes_eq).map finish⟩

/-- **A read is one that consumes**, whatever it loads. -/
theorem consuming_read {ring : Ring} {buffer : List UInt8} (positive : 0 < ring.bytes) (nonempty : buffer ≠ [])
    (position ceiling : Nat) : ring.Consuming buffer.length id position ceiling [] (ring.read buffer) := by
  rw [read_eq ring nonempty]
  by_cases long : ring.bytes < buffer.length
  · rw [if_pos long]
    rfl
  rw [if_neg long]
  -- the check
  refine .inr ⟨rfl, fun written _ le small => .inl ⟨rfl, ?_⟩⟩
  simp only [toNat_sub_ofNat le small]
  by_cases short : written - position < buffer.length
  · rw [if_pos short]
    rfl
  rw [if_neg short]
  -- the loads that begin the read
  refine .inr ⟨rfl, fun written' le' _ _ => .inl ⟨rfl, ?_⟩⟩
  have room : position + buffer.length ≤ written' := by omega
  have covers := ring.covers_transaction (.ofNat position) positive (show buffer.length ≤ ring.bytes by omega)
  rw [toNat_ofNat_of_small (by omega)] at covers
  -- the copies, and then the counter
  have committed : ∀ taken, taken.length = buffer.length →
      ring.Consuming buffer.length id position written' taken
        (.load ring.readCounter fun own => .store ring.readCounter (own + .ofNat buffer.length)
          (.done (buffer.length == buffer.length, taken))) := fun taken length_eq =>
    .inl ⟨rfl, room, length_eq, rfl, (UInt64.ofNat_add _ _).symm, by rw [beq_self_eq_true, id]⟩
  have copies := @consuming_copyOut _ _ _ _ _ _ _ _ _
    (fun copied => .load ring.readCounter fun own => .store ring.readCounter (own + .ofNat copied.1)
      (.done (copied.1 == buffer.length, copied.2))) room committed covers [] buffer rfl (Nat.zero_add _) rfl
  simpa only [List.length_nil, Nat.zero_add, List.nil_append] using copies

/-- **One access of the consumer** either gives up what it has read or keeps the read under way, and
leaves the ring's cells. -/
theorem Reading.step {β : Type} {ring : Ring} (sep : ring.Separate) (positive : 0 < ring.bytes)
    {memory after : Memory} {start count : Nat} {bytes : List UInt8} {finish : List UInt8 → β}
    {operation rest : Access (Bool × β)} (h : ring.Streams memory start bytes)
    (reading : ring.Reading start bytes count finish operation)
    (stepped : operation.step? memory = some (rest, after)) :
    (∀ p n, ring.contents after p n = ring.contents memory p n) ∧
    ((rest = .done (true, finish (bytes.take count)) ∧ count ≤ bytes.length ∧
        ring.Streams after (start + count) (bytes.drop count)) ∨
      (ring.Streams after start bytes ∧ ring.Reading start bytes count finish rest)) := by
  obtain ⟨ceiling, ceiling_le, taken, prior, consuming⟩ := reading
  cases operation with
  | done result => cases stepped
  | load place next =>
    obtain ⟨rfl, rfl⟩ := Prod.mk.inj (Option.some.inj stepped)
    refine ⟨fun _ _ => rfl, .inr ⟨h, ?_⟩⟩
    rcases consuming with ⟨rfl, consuming⟩ | ⟨rfl, consuming⟩
    · rw [h.read_eq]
      exact ⟨ceiling, ceiling_le, taken, prior, consuming⟩
    · rw [h.write_eq]
      exact ⟨_, Nat.le_refl _, taken, prior, consuming _ ceiling_le (Nat.le_add_right _ _) h.small⟩
  | store place value next =>
    obtain ⟨rfl, rfl⟩ := Prod.mk.inj (Option.some.inj stepped)
    obtain ⟨room, rfl, rfl, rfl, rfl⟩ := consuming
    refine ⟨fun p n => sep.contents_setWord_read positive _ _ p n,
      .inl ⟨?_, by omega, h.release sep positive (by omega)⟩⟩
    rw [← List.prefix_iff_eq_take.1 prior]
  | copyIn place payload next => exact consuming.elim
  | copyOut place length next =>
    obtain ⟨rfl, rfl⟩ := Prod.mk.inj (Option.some.inj stepped)
    obtain ⟨room, le, cells, consuming⟩ := consuming
    refine ⟨fun _ _ => rfl, .inr ⟨h, ceiling, ceiling_le, _, h.drain prior cells (by omega), consuming _ (by simp)⟩⟩

theorem Reading.append {β : Type} {ring : Ring} {start count : Nat} {bytes : List UInt8} {finish : List UInt8 → β}
    {rest : Access (Bool × β)} (reading : ring.Reading start bytes count finish rest) (more : List UInt8) :
    ring.Reading start (bytes ++ more) count finish rest := by
  obtain ⟨ceiling, ceiling_le, taken, prior, consuming⟩ := reading
  exact ⟨ceiling, by simp; omega, taken, prior.trans (List.prefix_append _ _), consuming⟩

/-! ## Both at once -/

section
variable {β : Type} {ring : Ring} {memory : Memory} {start : Nat} {bytes : List UInt8}

theorem Writing.room {source : List UInt8} {rest : Access Bool}
    (writing : ring.Writing memory start (start + bytes.length) source rest) (acts : rest.Acts) :
    bytes.length + source.length ≤ ring.bytes := by
  obtain ⟨floor, floor_le, copied, copied_le, _, producing⟩ := writing
  cases rest with
  | done | load => exact acts.elim
  | store => have := producing.1; omega
  | copyIn => have := producing.1; omega
  | copyOut => exact producing.elim

theorem Reading.enough {count : Nat} {finish : List UInt8 → β} {rest : Access (Bool × β)}
    (reading : ring.Reading start bytes count finish rest) (acts : rest.Acts) : count ≤ bytes.length := by
  obtain ⟨ceiling, ceiling_le, taken, prior, consuming⟩ := reading
  cases rest with
  | done | load => exact acts.elim
  | store => have := consuming.1; omega
  | copyIn => exact consuming.elim
  | copyOut => have := consuming.1; omega

/-- **The two sides never copy at one place.** -/
theorem Writing.disjoint {source : List UInt8} {count : Nat} {finish : List UInt8 → β} {write : Access Bool}
    {read : Access (Bool × β)} (writing : ring.Writing memory start (start + bytes.length) source write)
    (reading : ring.Reading start bytes count finish read) : ∀ place ∈ write.fills, place ∉ read.drains := by
  intro place filled drained
  cases write with
  | done | load | store | copyOut => simp [Access.fills] at filled
  | copyIn target payload next =>
    cases read with
    | done | load | store | copyIn => simp [Access.drains] at drained
    | copyOut origin length next' =>
      obtain ⟨i, i_lt, rfl⟩ := List.mem_map.1 filled
      obtain ⟨j, j_lt, same⟩ := List.mem_map.1 drained
      rw [List.mem_range] at i_lt j_lt
      obtain ⟨floor, floor_le, copied, copied_le, _, room, payload_eq, cells, _⟩ := writing
      obtain ⟨ceiling, ceiling_le, taken, _, enough, le, cells', _⟩ := reading
      rw [cells i i_lt, cells' j j_lt] at same
      have payload_le := congrArg List.length payload_eq
      simp at payload_le
      exact ring.cell_ne (by omega) (by omega) same

end

end Ring

end SharedRing
