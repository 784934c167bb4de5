import Mathlib.Algebra.GroupWithZero.Nat
import SharedRing.Proofs.Bytewise
import SharedRing.Proofs.Roles

/-!
# All or nothing

Whether a call succeeds is decided before anything is copied: a write by the room that the counters leave, a read by
what they say there is and by the ring's length (`write_eq_true_iff`, `read_eq_true_iff`). A call that fails has changed
nothing, and one that succeeds has transferred all of its bytes (`calls_all_or_nothing`). The comparison after the copy
never fails, as the spans of a request add up to it in every ring (`run_writeBytes_fst`, `run_readBytes_fst`).

None of this depends on the counters, on where the regions lie or on whether the ring has any bytes.
-/

namespace SharedRing

/-- Storing a word where it stands changes nothing. -/
theorem Memory.byte_setWord_word (memory : Memory) (place other : Address) :
    (memory.setWord place (memory.word place)).byte other = memory.byte other := by
  rw [setWord, ← bytes_eq_bytesOfNat_word, byte_setBytes]
  split
  · rename_i inside
    have here : place.advance (other.offset - place.offset) = other := by
      cases other
      simp only [Address.advance, Address.mk.injEq] at *
      omega
    rw [getElem?_bytes, here]
    split <;> rfl
  · rfl

namespace Ring

variable {ring : Ring} {memory : Memory}

/-! ## What is counted -/

theorem sum_length_spans (ring : Ring) (position : UInt64) (count : Nat) :
    ((ring.transaction position count).spans.map Span.length).sum = count := by
  unfold transaction Transaction.ofRing Transaction.spans
  by_cases around : ring.bytes - position.toNat % ring.bytes < count
  · simp only [around, ↓reduceIte, Option.toList_some, List.map_cons, List.map_nil, List.sum_cons, List.sum_nil]
    omega
  · simp [around]

theorem run_copyIn_fst (ring : Ring) (spans : List Span) (source : List UInt8) (memory : Memory) :
    ((ring.copyIn spans source).run memory).1 = (spans.map Span.length).sum := by
  induction spans generalizing source memory with
  | nil => rfl
  | cons span spans ih => simp [copyIn, ih]

theorem run_copyOut_fst (ring : Ring) (spans : List Span) (buffer : List UInt8) (memory : Memory) :
    ((ring.copyOut spans buffer).run memory).1.1 = (spans.map Span.length).sum := by
  induction spans generalizing buffer memory with
  | nil => rfl
  | cons span spans ih => simp [copyOut, ih]

/-- As many bytes are copied as the source has, in any ring. -/
theorem run_writeBytes_fst (ring : Ring) (source : List UInt8) (memory : Memory) :
    ((ring.writeBytes source).run memory).1 = source.length := by
  simp [writeBytes, beginWrite, run_copyIn_fst, sum_length_spans]

/-- As many bytes are copied as the buffer has, in any ring. -/
theorem run_readBytes_fst (ring : Ring) (buffer : List UInt8) (memory : Memory) :
    ((ring.readBytes buffer).run memory).1.1 = buffer.length := by
  simp [readBytes, beginRead, run_copyOut_fst, sum_length_spans]

/-! ## When a request succeeds -/

/-- **A write succeeds exactly if there is room for it.** -/
theorem write_eq_true_iff {source : List UInt8} :
    ((ring.write source).run memory).1 = true ↔ source.length ≤ ring.bytes - ring.unread memory := by
  by_cases empty : source = []
  · subst empty
    simp [write]
  · have length_pos := List.length_pos_iff.2 empty
    by_cases fits : source.length ≤ ring.bytes - ring.unread memory
    · obtain ⟨copied, ran, -⟩ := run_write_copied (by omega) empty fits
      simp [ran, fits]
    · simp [run_write_refused empty (Nat.lt_of_not_le fits), fits]

/-- **A read succeeds exactly if the ring is long enough for it and there is enough.** -/
theorem read_eq_true_iff {buffer : List UInt8} :
    ((ring.read buffer).run memory).1.1 = true ↔
      buffer.length ≤ ring.bytes ∧ buffer.length ≤ ring.unread memory := by
  by_cases empty : buffer = []
  · subst empty
    simp [read]
  · have length_pos := List.length_pos_iff.2 empty
    by_cases enough : buffer.length ≤ ring.bytes ∧ buffer.length ≤ ring.unread memory
    · simp [run_read_stored (by omega) empty enough.1 enough.2, enough]
    · have short : ring.bytes < buffer.length ∨ ring.unread memory < buffer.length := by omega
      simp [run_read_refused empty short, enough]

/-! ## What a request leaves -/

/-- What a write that is carried out does to memory, wherever the regions lie: the whole source stands in the cells
from the write counter's position on, and then that counter steps from what the copy has left in it. -/
def PutAll (ring : Ring) (memory after : Memory) (source : List UInt8) : Prop :=
  ∃ copied : Memory, ring.contents copied (memory.word ring.writeCounter).toNat source.length = source ∧
    (∀ other, (∀ i < source.length, other ≠ ring.cell ((memory.word ring.writeCounter).toNat + i)) →
      copied.byte other = memory.byte other) ∧
    ∀ place, after.byte place =
      (copied.setWord ring.writeCounter (copied.word ring.writeCounter + .ofNat source.length)).byte place

/-- What a read that is carried out does to memory: the read counter steps. -/
def TakenAll (ring : Ring) (memory after : Memory) (count : Nat) : Prop :=
  ∀ place, after.byte place =
    (memory.setWord ring.readCounter (memory.word ring.readCounter + .ofNat count)).byte place

theorem write_eq_self {source : List UInt8}
    (nothing : ((ring.write source).run memory).1 = false ∨ source = []) :
    ((ring.write source).run memory).2 = memory := by
  by_cases empty : source = []
  · subst empty
    rfl
  · have refused := nothing.resolve_right empty
    rw [Bool.eq_false_iff, ne_eq, write_eq_true_iff] at refused
    rw [run_write_refused empty (by omega)]

theorem read_eq_self {buffer : List UInt8}
    (nothing : ((ring.read buffer).run memory).1.1 = false ∨ buffer = []) :
    (ring.read buffer).run memory = ((((ring.read buffer).run memory).1.1, buffer), memory) := by
  by_cases empty : buffer = []
  · subst empty
    rfl
  · have refused := nothing.resolve_right empty
    rw [Bool.eq_false_iff, ne_eq, read_eq_true_iff] at refused
    rw [run_read_refused empty (by omega)]

theorem putAll_write {source : List UInt8} (done : ((ring.write source).run memory).1 = true) :
    ring.PutAll memory ((ring.write source).run memory).2 source := by
  have fits := write_eq_true_iff.1 done
  by_cases empty : source = []
  · subst empty
    refine ⟨memory, rfl, fun _ _ => rfl, fun place => ?_⟩
    have still : memory.word ring.writeCounter + .ofNat 0 = memory.word ring.writeCounter := UInt64.add_zero _
    rw [List.length_nil, still, Memory.byte_setWord_word]
    rfl
  · have length_pos := List.length_pos_iff.2 empty
    obtain ⟨copied, ran, put, others⟩ := run_write_copied (by omega) empty fits
    exact ⟨copied, put, others, fun place => by rw [ran]⟩

theorem takenAll_read {buffer : List UInt8} (done : ((ring.read buffer).run memory).1.1 = true) :
    ((ring.read buffer).run memory).1.2 =
        ring.contents memory (memory.word ring.readCounter).toNat buffer.length ∧
      ring.TakenAll memory ((ring.read buffer).run memory).2 buffer.length := by
  obtain ⟨le, enough⟩ := read_eq_true_iff.1 done
  by_cases empty : buffer = []
  · subst empty
    refine ⟨rfl, fun place => ?_⟩
    have still : memory.word ring.readCounter + .ofNat 0 = memory.word ring.readCounter := UInt64.add_zero _
    rw [List.length_nil, still, Memory.byte_setWord_word]
    rfl
  · have length_pos := List.length_pos_iff.2 empty
    rw [run_read_stored (by omega) empty le enough]
    exact ⟨rfl, fun _ => rfl⟩

end Ring

namespace MessageQueue

theorem write_of_ring {queue : MessageQueue} {ring : Ring} (ring_eq : queue.ring = some ring)
    (elements : List Element) : queue.write elements = ring.write (queue.element.encodeAll elements) := by
  simp only [write, ring_eq]

theorem run_read_of_ring {queue : MessageQueue} {ring : Ring} (ring_eq : queue.ring = some ring)
    (buffer : List Element) (memory : Memory) :
    (queue.read buffer).run memory =
      ((((ring.read (queue.element.encodeAll buffer)).run memory).1.1,
          queue.element.decodeAll buffer.length ((ring.read (queue.element.encodeAll buffer)).run memory).1.2),
        ((ring.read (queue.element.encodeAll buffer)).run memory).2) := by
  simp only [read, ring_eq, Access.run_bind, Access.run_pure]

section
variable (queue : MessageQueue) (memory : Memory)

/-- A write succeeds exactly if the queue is valid and has room. -/
theorem write_eq_true_iff (elements : List Element) :
    ((queue.write elements).run memory).1 = true ↔ ∃ ring, queue.ring = some ring ∧
      (elements = [] ∨
        elements.length * queue.element.size ≤ ring.bytes - min ring.bytes (ring.unread memory)) := by
  cases valid : queue.ring with
  | none => simp [write, valid]
  | some ring =>
    rw [write_of_ring valid, Ring.write_eq_true_iff, ElementType.length_encodeAll]
    constructor
    · intro fits
      exact ⟨ring, rfl, .inr (by omega)⟩
    · rintro ⟨other, same, empty | fits⟩
      · simp [empty]
      · cases same
        omega

/-- A read succeeds exactly if the queue is valid, its ring is long enough and there is enough. -/
theorem read_eq_true_iff (buffer : List Element) :
    ((queue.read buffer).run memory).1.1 = true ↔ ∃ ring, queue.ring = some ring ∧
      (buffer = [] ∨
        buffer.length * queue.element.size ≤ ring.bytes ∧
          buffer.length * queue.element.size ≤ ring.unread memory) := by
  cases valid : queue.ring with
  | none => simp [read, valid]
  | some ring =>
    rw [run_read_of_ring valid, Ring.read_eq_true_iff, ElementType.length_encodeAll]
    constructor
    · intro enough
      exact ⟨ring, rfl, .inr enough⟩
    · rintro ⟨other, same, empty | enough⟩
      · simp [empty]
      · cases same
        exact enough

variable {queue memory}

theorem write_eq_self {elements : List Element}
    (nothing : ((queue.write elements).run memory).1 = false ∨ elements = []) :
    ((queue.write elements).run memory).2 = memory := by
  cases valid : queue.ring with
  | none => simp [write, valid]
  | some ring =>
    rw [write_of_ring valid] at nothing ⊢
    exact Ring.write_eq_self (nothing.imp_right fun empty => by rw [empty, ElementType.encodeAll_nil])

/-- What stands in the buffer then is what its bytes are read as. -/
theorem read_eq_self {buffer : List Element}
    (nothing : ((queue.read buffer).run memory).1.1 = false ∨ buffer = []) :
    ((queue.read buffer).run memory).2 = memory ∧
      queue.element.encodeAll ((queue.read buffer).run memory).1.2 = queue.element.encodeAll buffer ∧
      ((∀ element ∈ buffer, queue.element.Holds element) → ((queue.read buffer).run memory).1.2 = buffer) := by
  cases valid : queue.ring with
  | none => simp [read, valid]
  | some ring =>
    rw [run_read_of_ring valid] at nothing ⊢
    rw [Ring.read_eq_self (nothing.imp_right fun empty => by rw [empty, ElementType.encodeAll_nil])]
    exact ⟨rfl, ElementType.encodeAll_decodeAll (ElementType.length_encodeAll _ _), ElementType.decodeAll_encodeAll⟩

theorem putAll_write {elements : List Element} (done : ((queue.write elements).run memory).1 = true) :
    ∃ ring, queue.ring = some ring ∧
      ring.PutAll memory ((queue.write elements).run memory).2 (queue.element.encodeAll elements) := by
  cases valid : queue.ring with
  | none => simp [write, valid] at done
  | some ring =>
    rw [write_of_ring valid] at done ⊢
    exact ⟨ring, rfl, Ring.putAll_write done⟩

theorem takenAll_read {buffer : List Element} (done : ((queue.read buffer).run memory).1.1 = true) :
    ∃ ring, queue.ring = some ring ∧
      queue.element.encodeAll ((queue.read buffer).run memory).1.2 =
        ring.contents memory (memory.word ring.readCounter).toNat (buffer.length * queue.element.size) ∧
      ring.TakenAll memory ((queue.read buffer).run memory).2 (buffer.length * queue.element.size) := by
  cases valid : queue.ring with
  | none => simp [read, valid] at done
  | some ring =>
    rw [run_read_of_ring valid] at done ⊢
    obtain ⟨filled, taken⟩ := Ring.takenAll_read done
    rw [ElementType.length_encodeAll] at filled taken
    refine ⟨ring, rfl, ?_, taken⟩
    rw [filled, ElementType.encodeAll_decodeAll (by simp)]

end

/-- **A call does all or nothing, and when it succeeds is decided beforehand.** For any queue, valid or not, and any
memory: a write succeeds exactly if the queue is valid and has room, and a read if the queue is valid, its ring is long
enough and there is enough. A call that fails, or that asks for nothing, leaves memory and buffer as they are; one that
succeeds transfers all bytes. What is counted after the copy is always the whole request. -/
theorem calls_all_or_nothing (queue : MessageQueue) (memory : Memory) :
    (∀ elements,
      let size := elements.length * queue.element.size
      let call := (queue.write elements).run memory
      (call.1 = true ↔ ∃ ring, queue.ring = some ring ∧
        (elements = [] ∨ size ≤ ring.bytes - min ring.bytes (ring.unread memory))) ∧
      (call.1 = false ∨ elements = [] → call.2 = memory) ∧
      (call.1 = true → ∃ ring, queue.ring = some ring ∧ (queue.element.encodeAll elements).length = size ∧
        ring.PutAll memory call.2 (queue.element.encodeAll elements))) ∧
    (∀ buffer,
      let size := buffer.length * queue.element.size
      let call := (queue.read buffer).run memory
      (call.1.1 = true ↔ ∃ ring, queue.ring = some ring ∧
        (buffer = [] ∨ size ≤ ring.bytes ∧ size ≤ ring.unread memory)) ∧
      (call.1.1 = false ∨ buffer = [] → call.2 = memory ∧
        queue.element.encodeAll call.1.2 = queue.element.encodeAll buffer ∧
        ((∀ element ∈ buffer, queue.element.Holds element) → call.1.2 = buffer)) ∧
      (call.1.1 = true → ∃ ring, queue.ring = some ring ∧
        queue.element.encodeAll call.1.2 = ring.contents memory (memory.word ring.readCounter).toNat size ∧
        ring.TakenAll memory call.2 size)) ∧
    ∀ (ring : Ring) (source buffer : List UInt8), ((ring.writeBytes source).run memory).1 = source.length ∧
      ((ring.readBytes buffer).run memory).1.1 = buffer.length := by
  refine ⟨fun elements => ⟨queue.write_eq_true_iff memory elements, write_eq_self, fun done => ?_⟩,
    fun buffer => ⟨queue.read_eq_true_iff memory buffer, read_eq_self, takenAll_read⟩,
    fun ring source buffer => ⟨ring.run_writeBytes_fst source memory, ring.run_readBytes_fst buffer memory⟩⟩
  obtain ⟨ring, valid, put⟩ := putAll_write done
  exact ⟨ring, valid, ElementType.length_encodeAll _ _, put⟩

end MessageQueue

end SharedRing
