import SharedRing.Proofs.Accesses

/-!
# The cells of a ring

A counter's position stands for a cell of the ring, and `contents` are the bytes of a run of positions,
wherever the ring's end falls in it. The spans of a request cover its positions in order (`Covers`,
`covers_transaction`), so copying over spans is copying over positions: `copyIn` puts the source there
and changes nothing else (`run_copyIn`), and `copyOut` returns what is there (`run_copyOut`). Positions
less than one ring apart have different cells (`cell_ne`); all that is said of free and filled bytes
comes down to this.
-/

namespace SharedRing

/-- Two ranges of bytes that have none in common. -/
def Apart (place : Address) (length : Nat) (other : Address) (count : Nat) : Prop :=
  place.object ≠ other.object ∨ place.offset + length ≤ other.offset ∨ other.offset + count ≤ place.offset

instance (place : Address) (length : Nat) (other : Address) (count : Nat) :
    Decidable (Apart place length other count) :=
  inferInstanceAs (Decidable (_ ∨ _ ∨ _))

theorem Apart.symm {place other : Address} {length count : Nat} (h : Apart place length other count) :
    Apart other count place length := by
  unfold Apart at *; omega

/-- Places in ranges that are apart differ. -/
theorem Apart.advance_ne {place other : Address} {length count i j : Nat} (h : Apart place length other count)
    (hi : i < length) (hj : j < count) : place.advance i ≠ other.advance j := by
  intro same
  simp only [Address.advance, Address.mk.injEq] at same
  unfold Apart at h; omega

/-! ## What a store leaves -/

namespace Memory

theorem byte_setBytes_of_ne (memory : Memory) {place other : Address} {bytes : List UInt8}
    (h : ∀ i < bytes.length, other ≠ place.advance i) :
    (memory.setBytes place bytes).byte other = memory.byte other := by
  rw [byte_setBytes]
  split
  · rename_i inside
    by_cases hit : other.offset - place.offset < bytes.length
    · refine absurd ?_ (h _ hit)
      cases other
      simp only [Address.advance, Address.mk.injEq] at *
      omega
    · rw [List.getElem?_eq_none (by omega)]
      rfl
  · rfl

theorem byte_setWord_of_ne (memory : Memory) {place other : Address} (value : UInt64)
    (h : ∀ i < 8, other ≠ place.advance i) : (memory.setWord place value).byte other = memory.byte other :=
  byte_setBytes_of_ne memory fun i below => h i (by simpa using below)

theorem byte_setWord_zero {memory : Memory} {place other : Address} (zero : memory.byte other = 0) :
    (memory.setWord place 0).byte other = 0 := by
  have zeros : bytesOfNat 8 (0 : UInt64).toNat = List.replicate 8 0 := by decide
  rw [setWord, byte_setBytes, zero, zeros, List.getElem?_replicate]
  split
  · split
    · rfl
    · rfl
  · rfl

theorem word_congr {memory after : Memory} {place : Address}
    (h : ∀ i < 8, after.byte (place.advance i) = memory.byte (place.advance i)) :
    after.word place = memory.word place := by
  have same : after.bytes place 8 = memory.bytes place 8 :=
    List.map_congr_left fun i member => h i (List.mem_range.1 member)
  rw [word, same, word]

@[simp] theorem word_zero (place : Address) : zero.word place = 0 := by
  simp [word, bytes]
  rfl

theorem word_setWord_of_apart (memory : Memory) {place other : Address} (value : UInt64)
    (h : Apart place 8 other 8) : (memory.setWord place value).word other = memory.word other :=
  word_congr fun _ hi => byte_setWord_of_ne memory value fun _ hj => h.symm.advance_ne hi hj

end Memory

namespace Ring

/-! ## Cells -/

/-- The cell that a position stands for. -/
def cell (ring : Ring) (position : Nat) : Address :=
  ⟨ring.data.object, ring.data.offset + position % ring.bytes⟩

def contents (ring : Ring) (memory : Memory) (position count : Nat) : List UInt8 :=
  (List.range count).map fun i => memory.byte (ring.cell (position + i))

theorem mod_ne_mod {p q n : Nat} (lt : p < q) (near : q < p + n) : p % n ≠ q % n := by
  intro same
  have zero := Nat.sub_mod_eq_zero_of_mod_eq same.symm
  rw [Nat.mod_eq_of_lt (by omega)] at zero
  omega

/-- Positions less than a ring apart have different cells. -/
theorem cell_ne (ring : Ring) {p q : Nat} (lt : p < q) (near : q < p + ring.bytes) : ring.cell p ≠ ring.cell q := by
  intro same
  simp only [cell, Address.mk.injEq, true_and] at same
  exact mod_ne_mod lt near (by omega)

/-- The ring's cells lie in its data. -/
theorem cell_eq_advance (ring : Ring) (positive : 0 < ring.bytes) (p : Nat) :
    ∃ i < ring.bytes, ring.cell p = ring.data.advance i :=
  ⟨p % ring.bytes, Nat.mod_lt p positive, rfl⟩

@[simp] theorem length_contents (ring : Ring) (memory : Memory) (p n : Nat) :
    (ring.contents memory p n).length = n := by
  simp [contents]

theorem contents_zero (ring : Ring) (memory : Memory) (p : Nat) : ring.contents memory p 0 = [] := rfl

theorem contents_add (ring : Ring) (memory : Memory) (p m n : Nat) :
    ring.contents memory p (m + n) = ring.contents memory p m ++ ring.contents memory (p + m) n := by
  simp [contents, List.range_add, Nat.add_assoc, Function.comp_def]

theorem contents_congr {ring : Ring} {memory after : Memory} {p n : Nat}
    (h : ∀ i < n, after.byte (ring.cell (p + i)) = memory.byte (ring.cell (p + i))) :
    ring.contents after p n = ring.contents memory p n :=
  List.map_congr_left fun i member => h i (List.mem_range.1 member)

/-! ## Spans -/

/-- A span that starts at a position's cell and does not reach beyond the ring's end. -/
structure StartsAt (ring : Ring) (p : Nat) (span : Span) : Prop where
  address_eq : span.address = ring.data.offset + p % ring.bytes
  le : p % ring.bytes + span.length ≤ ring.bytes

/-- The spans are, one after the other, the cells of the `n` positions from `p` on. -/
inductive Covers (ring : Ring) : Nat → List Span → Nat → Prop where
  | nil {p : Nat} : Covers ring p [] 0
  | cons {p n : Nat} {span : Span} {spans : List Span} : ring.StartsAt p span →
      Covers ring (p + span.length) spans n → Covers ring p (span :: spans) (span.length + n)

theorem StartsAt.place_advance {ring : Ring} {p i : Nat} {span : Span} (h : ring.StartsAt p span)
    (hi : i < span.length) : (ring.place span).advance i = ring.cell (p + i) := by
  have le := h.le
  have inside : (p + i) % ring.bytes = p % ring.bytes + i := by
    rw [← Nat.mod_add_mod, Nat.mod_eq_of_lt (by omega)]
  simp only [place, Address.advance, cell, h.address_eq, inside, Nat.add_assoc]

theorem StartsAt.bytes_place {ring : Ring} {p : Nat} {span : Span} (h : ring.StartsAt p span) (memory : Memory) :
    memory.bytes (ring.place span) span.length = ring.contents memory p span.length :=
  List.map_congr_left fun i member => by rw [h.place_advance (List.mem_range.1 member)]

/-- The spans of a request cover its positions, if the ring is as long as the request. -/
theorem covers_transaction (ring : Ring) (position : UInt64) {count : Nat} (positive : 0 < ring.bytes)
    (le : count ≤ ring.bytes) : ring.Covers position.toNat (ring.transaction position count).spans count := by
  have below := Nat.mod_lt position.toNat positive
  unfold transaction Transaction.ofRing Transaction.spans
  generalize position.toNat = p at below ⊢
  by_cases wraps : ring.bytes - p % ring.bytes < count
  · simp only [wraps, ↓reduceIte, Option.toList_some]
    -- the second span starts where the ring does
    have around : (p + (ring.bytes - p % ring.bytes)) % ring.bytes = 0 := by
      rw [← Nat.mod_add_mod, show p % ring.bytes + (ring.bytes - p % ring.bytes) = ring.bytes by omega,
        Nat.mod_self]
    have starts : ring.StartsAt p ⟨ring.data.offset + p % ring.bytes, ring.bytes - p % ring.bytes⟩ :=
      ⟨rfl, by simp only; omega⟩
    have starts' : ring.StartsAt (p + (ring.bytes - p % ring.bytes))
        ⟨ring.data.offset, count - (ring.bytes - p % ring.bytes)⟩ :=
      ⟨by rw [around, Nat.add_zero], by rw [around]; simp only; omega⟩
    have covered := Covers.cons starts (.cons starts' .nil)
    rwa [show ring.bytes - p % ring.bytes + (count - (ring.bytes - p % ring.bytes) + 0) = count by omega] at covered
  · simp only [wraps, ↓reduceIte, Option.toList_none]
    exact .cons ⟨rfl, by simp only; omega⟩ .nil

/-! ## Copying -/

/-- Copying over one span fills the cells from its position on. -/
theorem StartsAt.contents_setBytes {ring : Ring} {p : Nat} {span : Span} (h : ring.StartsAt p span)
    (memory : Memory) {bytes : List UInt8} (length_eq : bytes.length = span.length) :
    ring.contents (memory.setBytes (ring.place span) bytes) p bytes.length = bytes := by
  rw [length_eq, ← h.bytes_place, ← length_eq, Memory.bytes_setBytes_self]

theorem StartsAt.byte_setBytes_of_ne {ring : Ring} {p : Nat} {span : Span} (h : ring.StartsAt p span)
    (memory : Memory) {bytes : List UInt8} (length_eq : bytes.length = span.length) {other : Address}
    (outside : ∀ i < bytes.length, other ≠ ring.cell (p + i)) :
    (memory.setBytes (ring.place span) bytes).byte other = memory.byte other :=
  Memory.byte_setBytes_of_ne memory fun i below => by
    rw [h.place_advance (length_eq ▸ below)]
    exact outside i below

/-- Cells that a copy of at most a ring's length puts later are not those that it has put before. -/
theorem contents_of_later {ring : Ring} {memory after : Memory} {p m n : Nat} (le : m + n ≤ ring.bytes)
    (others : ∀ other, (∀ i < n, other ≠ ring.cell (p + m + i)) → after.byte other = memory.byte other) :
    ring.contents after p m = ring.contents memory p m :=
  contents_congr fun i hi => others _ fun j hj => ring.cell_ne (by omega) (by omega)

/-- **Copying in puts the source at the positions that the spans cover, and changes nothing else.** -/
theorem run_copyIn {ring : Ring} {p n : Nat} {spans : List Span} (covers : ring.Covers p spans n) :
    ∀ {source : List UInt8} (memory : Memory), source.length = n → n ≤ ring.bytes →
      ∃ after, (ring.copyIn spans source).run memory = (n, after) ∧ ring.contents after p n = source ∧
        ∀ other, (∀ i < n, other ≠ ring.cell (p + i)) → after.byte other = memory.byte other := by
  induction covers with
  | nil =>
    intro source memory length_eq _
    exact ⟨memory, rfl, by rw [contents_zero, List.length_eq_zero_iff.1 length_eq], fun _ _ => rfl⟩
  | @cons p n span spans starts _ ih =>
    intro source memory length_eq le
    have front : (source.take span.length).length = span.length := by simp; omega
    obtain ⟨after, ran, back, others⟩ := @ih (source.drop span.length)
      (memory.setBytes (ring.place span) (source.take span.length)) (by simp; omega) (by omega)
    refine ⟨after, by simp [copyIn, ran], ?_, fun other outside => ?_⟩
    · have kept := contents_of_later le others
      have put := starts.contents_setBytes memory front
      rw [front] at put
      rw [contents_add, kept, put, back, List.take_append_drop]
    · rw [others other fun i hi => by rw [Nat.add_assoc]; exact outside _ (by omega)]
      exact starts.byte_setBytes_of_ne memory front fun i hi => outside i (by omega)

/-- **Copying out returns the bytes at the positions that the spans cover.** -/
theorem run_copyOut {ring : Ring} {p n : Nat} {spans : List Span} (covers : ring.Covers p spans n)
    (memory : Memory) : ∀ {buffer : List UInt8}, buffer.length = n →
      (ring.copyOut spans buffer).run memory = ((n, ring.contents memory p n), memory) := by
  induction covers with
  | nil =>
    intro buffer length_eq
    rw [List.length_eq_zero_iff.1 length_eq]
    rfl
  | @cons p n span spans starts _ ih =>
    intro buffer length_eq
    have rest := @ih (buffer.drop span.length) (by simp; omega)
    simp [copyOut, rest, starts.bytes_place, contents_add]

end Ring

end SharedRing
