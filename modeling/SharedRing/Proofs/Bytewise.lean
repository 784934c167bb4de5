import Mathlib.Data.List.Nodup
import SharedRing.Proofs.Stream

/-!
# The ring byte by byte

A request is split into one span or two and copied span by span. `putEach` is the plain loop instead: it stores the
bytes of a source one by one, each at the cell of its own position.

The spans of a request visit the cells of its positions in order, each once (`Covers.addresses_eq`), so both store the
same bytes in the same order and leave the same memory, wherever the regions lie: `writeBytes` is the loop and then the
step of the write counter, which is loaded after the loop and so may have been overwritten by it
(`requests_are_bytewise`). A read returns the bytes at its positions, and stores its counter only.
-/

namespace SharedRing

/-! ## Addresses -/

def Span.addresses (span : Span) : List Nat := (List.range span.length).map (span.address + ·)

def Transaction.addresses (transaction : Transaction) : List Nat := transaction.spans.flatMap Span.addresses

namespace Ring

variable {ring : Ring} {memory : Memory}

/-- Spans that cover positions visit the offsets that these stand for. -/
theorem Covers.addresses_eq {p n : Nat} {spans : List Span} (covers : ring.Covers p spans n) :
    spans.flatMap Span.addresses = (List.range n).map fun i => ring.data.offset + (p + i) % ring.bytes := by
  induction covers with
  | nil => rfl
  | @cons p n span spans starts _ ih =>
    rw [List.flatMap_cons, ih, List.range_add, List.map_append, List.map_map]
    congr 1
    · apply List.map_congr_left
      intro i member
      have cell := congrArg Address.offset (starts.place_advance (List.mem_range.1 member))
      exact cell
    · apply List.map_congr_left
      intro i _
      simp only [Function.comp_apply, Nat.add_assoc]

theorem nodup_offsets {p n : Nat} (le : n ≤ ring.bytes) :
    ((List.range n).map fun i => ring.data.offset + (p + i) % ring.bytes).Nodup := by
  refine List.Nodup.map_on ?_ List.nodup_range
  intro i hi j hj same
  have hi := List.mem_range.1 hi
  have hj := List.mem_range.1 hj
  have same := Nat.add_left_cancel same
  rcases Nat.lt_trichotomy i j with lt | eq | gt
  · exact absurd same (mod_ne_mod (by omega) (by omega))
  · exact eq
  · exact absurd same.symm (mod_ne_mod (by omega) (by omega))

/-- A transaction has a second span exactly if it reaches beyond the ring's end, and then one with bytes in it. -/
theorem wraps_transaction (ring : Ring) (position : UInt64) (count : Nat) (positive : 0 < ring.bytes) :
    let transaction := ring.transaction position count
    (transaction.wraps = true ↔ ring.bytes < position.toNat % ring.bytes + count) ∧
      ∀ span, transaction.second = some span → span.isEmpty = false := by
  have below := Nat.mod_lt position.toNat positive
  unfold transaction Transaction.ofRing Transaction.wraps
  by_cases around : ring.bytes - position.toNat % ring.bytes < count
  · simp only [around, ↓reduceIte, Option.isSome_some, true_iff, Option.some.injEq, forall_eq', Span.isEmpty,
      decide_eq_false_iff_not]
    omega
  · simp only [around, ↓reduceIte, Option.isSome_none, Bool.false_eq_true, false_iff, reduceCtorEq, false_implies,
      implies_true, and_true]
    omega

theorem length_transaction (ring : Ring) (position : UInt64) {count : Nat} (word : count < wordLimit) :
    (ring.transaction position count).length = .ok count := by
  unfold transaction Transaction.ofRing Transaction.length addWords
  by_cases around : ring.bytes - position.toNat % ring.bytes < count
  · have whole : ring.bytes - position.toNat % ring.bytes + (count - (ring.bytes - position.toNat % ring.bytes)) =
        count := by omega
    simp only [around, ↓reduceIte, Option.map_some, Option.getD_some, whole, word]
  · simp only [around, ↓reduceIte, Option.map_none, Option.getD_none, Nat.add_zero, word]

/-! ## The loop -/

/-- Store the bytes of a source one by one, each at the cell of its position. -/
def putEach (ring : Ring) (memory : Memory) (position : Nat) : List UInt8 → Memory
  | [] => memory
  | byte :: source => ring.putEach (memory.setByte (ring.cell position) byte) (position + 1) source

theorem putEach_append (ring : Ring) (memory : Memory) (p : Nat) (front back : List UInt8) :
    ring.putEach memory p (front ++ back) = ring.putEach (ring.putEach memory p front) (p + front.length) back := by
  induction front generalizing memory p with
  | nil => rfl
  | cons byte front ih => rw [List.cons_append, putEach, ih, putEach, List.length_cons, Nat.add_right_comm, Nat.add_assoc]

/-- Where cells lie side by side, storing a row is storing its bytes one by one. -/
theorem setBytes_eq_putEach {p : Nat} {place : Address} {bytes : List UInt8}
    (cells : ∀ i < bytes.length, place.advance i = ring.cell (p + i)) :
    memory.setBytes place bytes = ring.putEach memory p bytes := by
  induction bytes generalizing memory p place with
  | nil => rfl
  | cons byte bytes ih =>
    have first : place = ring.cell p := cells 0 (by simp)
    have rest : ∀ i < bytes.length, (place.advance 1).advance i = ring.cell (p + 1 + i) := by
      intro i hi
      have next := cells (i + 1) (by simpa using hi)
      rw [Nat.add_assoc, Nat.add_comm 1 i, ← next, Address.advance, Address.advance, Address.advance, Nat.add_assoc,
        Nat.add_comm 1 i]
    rw [Memory.setBytes, ih rest, putEach, first]

/-- **Copying in over spans is the loop over the positions that they cover.** -/
theorem run_copyIn_eq_putEach {p n : Nat} {spans : List Span} (covers : ring.Covers p spans n) :
    ∀ {source : List UInt8} (memory : Memory), source.length = n →
      (ring.copyIn spans source).run memory = (n, ring.putEach memory p source) := by
  induction covers with
  | nil =>
    intro source memory length_eq
    rw [List.length_eq_zero_iff.1 length_eq]
    rfl
  | @cons p n span spans starts _ ih =>
    intro source memory length_eq
    have front : (source.take span.length).length = span.length := by simp; omega
    have first : memory.setBytes (ring.place span) (source.take span.length) =
        ring.putEach memory p (source.take span.length) :=
      setBytes_eq_putEach fun i hi => starts.place_advance (front ▸ hi)
    have rest := @ih (source.drop span.length) (ring.putEach memory p (source.take span.length)) (by simp; omega)
    have whole := ring.putEach_append memory p (source.take span.length) (source.drop span.length)
    rw [List.take_append_drop, front] at whole
    simp [copyIn, first, rest, whole]

theorem byte_putEach_of_ne {p : Nat} {source : List UInt8} {other : Address}
    (outside : ∀ i < source.length, other ≠ ring.cell (p + i)) :
    (ring.putEach memory p source).byte other = memory.byte other := by
  induction source generalizing memory p with
  | nil => rfl
  | cons byte source ih =>
    have first : ring.cell p ≠ other := (outside 0 (by simp)).symm
    have rest : ∀ i < source.length, other ≠ ring.cell (p + 1 + i) := by
      intro i hi
      rw [Nat.add_assoc, Nat.add_comm 1 i]
      exact outside (i + 1) (by simpa using hi)
    rw [putEach, ih rest, Memory.byte_setByte, if_neg first]

/-! ## Requests -/

/-- Writing bytes is the loop from the write counter's position on, and then the step of that counter. -/
theorem run_writeBytes (positive : 0 < ring.bytes) (memory : Memory) {source : List UInt8}
    (le : source.length ≤ ring.bytes) :
    let copied := ring.putEach memory (memory.word ring.writeCounter).toNat source
    (ring.writeBytes source).run memory =
      (source.length,
        copied.setWord ring.writeCounter (copied.word ring.writeCounter + .ofNat source.length)) := by
  have covers := ring.covers_transaction (memory.word ring.writeCounter) positive le
  have ran := run_copyIn_eq_putEach covers memory rfl
  simp [writeBytes, beginWrite, ran, commitWrite]

/-- Reading bytes returns those at the positions from the read counter's on, and then that counter steps. -/
theorem run_readBytes (positive : 0 < ring.bytes) (memory : Memory) {buffer : List UInt8}
    (le : buffer.length ≤ ring.bytes) :
    (ring.readBytes buffer).run memory =
      ((buffer.length, ring.contents memory (memory.word ring.readCounter).toNat buffer.length),
        memory.setWord ring.readCounter (memory.word ring.readCounter + .ofNat buffer.length)) := by
  have covers := ring.covers_transaction (memory.word ring.readCounter) positive le
  have ran := @run_copyOut _ _ _ _ covers memory buffer rfl
  simp [readBytes, beginRead, ran, commitRead]

/-- **Requests are carried out byte by byte.** The spans of a request of at most a ring's length visit the offsets of
its positions in order and each once; there is a second one exactly if the request reaches beyond the ring's end, and
it is not empty. So a write leaves the memory that the loop over its positions leaves, with the write counter moved on
as it stands after the loop, and a read returns what stands at its positions and moves the read counter on. That is so
for any memory and wherever the regions lie. -/
theorem requests_are_bytewise {ring : Ring} (small : ring.bytes < wordLimit) :
    (∀ (position : UInt64) count, 0 < count → count ≤ ring.bytes →
      let transaction := ring.transaction position count
      transaction.addresses =
          (List.range count).map (fun i => ring.data.offset + (position.toNat + i) % ring.bytes) ∧
        transaction.addresses.Nodup ∧
        (∀ span, transaction.second = some span → span.isEmpty = false) ∧
        (transaction.wraps = true ↔ ring.bytes < position.toNat % ring.bytes + count) ∧
        transaction.length = .ok count) ∧
    (∀ memory source, source ≠ [] → source.length ≤ ring.bytes →
      let position := (memory.word ring.writeCounter).toNat
      let copied := ring.putEach memory position source
      let call := (ring.writeBytes source).run memory
      call.1 = source.length ∧
        call.2 = copied.setWord ring.writeCounter (copied.word ring.writeCounter + .ofNat source.length) ∧
        ∀ other, (∀ i < counterSize, other ≠ ring.writeCounter.advance i) →
          (∀ i < source.length, other ≠ ring.data.advance ((position + i) % ring.bytes)) →
          call.2.byte other = memory.byte other) ∧
    ∀ memory buffer, buffer ≠ [] → buffer.length ≤ ring.bytes →
      let position := (memory.word ring.readCounter).toNat
      let call := (ring.readBytes buffer).run memory
      call.1 = (buffer.length,
          (List.range buffer.length).map fun i => memory.byte (ring.data.advance ((position + i) % ring.bytes))) ∧
        call.2 = memory.setWord ring.readCounter (memory.word ring.readCounter + .ofNat buffer.length) ∧
        ∀ other, (∀ i < counterSize, other ≠ ring.readCounter.advance i) →
          call.2.byte other = memory.byte other := by
  refine ⟨?_, ?_, ?_⟩
  · intro position count count_pos le transaction
    have positive : 0 < ring.bytes := by omega
    have visited : transaction.addresses = _ := (ring.covers_transaction position positive le).addresses_eq
    obtain ⟨wraps, filled⟩ := ring.wraps_transaction position count positive
    exact ⟨visited, visited ▸ nodup_offsets le, filled, wraps, ring.length_transaction position (by omega)⟩
  · intro memory source nonempty le position copied call
    have positive : 0 < ring.bytes := Nat.lt_of_lt_of_le (List.length_pos_iff.2 nonempty) le
    have ran : call = _ := run_writeBytes positive memory le
    refine ⟨by rw [ran], by rw [ran], fun other away outside => ?_⟩
    rw [ran, Memory.byte_setWord_of_ne _ _ away, byte_putEach_of_ne outside]
  · intro memory buffer nonempty le position call
    have positive : 0 < ring.bytes := Nat.lt_of_lt_of_le (List.length_pos_iff.2 nonempty) le
    have ran : call = _ := run_readBytes positive memory le
    refine ⟨by rw [ran]; rfl, by rw [ran], fun other away => ?_⟩
    rw [ran, Memory.byte_setWord_of_ne _ _ away]

/-- A ring of twelve bytes whose ninth and tenth are the first of the write counter: ten bytes are written over it,
and the counter steps from the value that they have left there. -/
theorem requests_are_bytewise_over_counter :
    let ring : Ring := ⟨⟨0, 0⟩, ⟨0, 16⟩, ⟨0, 8⟩, 12⟩
    let call := (ring.writeBytes [1, 2, 3, 4, 5, 6, 7, 8, 9, 10]).run .zero
    call.1 = 10 ∧ call.2.word ring.writeCounter = 9 + 256 * 10 + 10 ∧
      (ring.transaction 18446744073709551615 12).addresses = [11, 12, 13, 14, 15, 16, 17, 18, 19, 8, 9, 10] := by
  intro ring call
  obtain ⟨spans, writes, -⟩ := @requests_are_bytewise ring (by decide)
  obtain ⟨count_eq, after_eq, -⟩ := writes .zero [1, 2, 3, 4, 5, 6, 7, 8, 9, 10] (by decide) (by decide)
  obtain ⟨visited, -⟩ := spans 18446744073709551615 12 (by decide) (by decide)
  have overwritten : (ring.putEach .zero (Memory.zero.word ring.writeCounter).toNat
      [1, 2, 3, 4, 5, 6, 7, 8, 9, 10]).word ring.writeCounter = 9 + 256 * 10 := by
    simp [putEach, cell, ring, Memory.word, Memory.bytes, List.range, List.range.loop, Address.advance, natOfBytes]
  refine ⟨count_eq, ?_, visited.trans (by decide)⟩
  rw [after_eq, Memory.word_setWord, overwritten]
  decide

end Ring

end SharedRing
