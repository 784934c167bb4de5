import Std.Data.HashMap
import SharedRing.Word

/-!
# Shared memory

A backing object is a row of bytes that everyone who maps it shares. `Memory` holds the bytes of all
objects; a byte that was never stored is zero. All that a reader can see of a memory is `byte`, and
the `byte_…` equations say what each store does to it.
-/

namespace SharedRing

/-- A byte's place: its backing object and its offset in it. -/
structure Address where
  object : Nat
  offset : Nat
deriving DecidableEq, Hashable, Repr

def Address.advance (place : Address) (n : Nat) : Address :=
  { place with offset := place.offset + n }

/-- The bytes of all backing objects. -/
structure Memory where
  cells : Std.HashMap Address UInt8

namespace Memory

def zero : Memory := ⟨∅⟩

def byte (memory : Memory) (place : Address) : UInt8 :=
  memory.cells.getD place 0

def setByte (memory : Memory) (place : Address) (value : UInt8) : Memory :=
  ⟨memory.cells.insert place value⟩

@[simp] theorem byte_zero (place : Address) : zero.byte place = 0 := by
  simp [zero, byte]

@[simp] theorem byte_setByte (memory : Memory) (place other : Address) (value : UInt8) :
    (memory.setByte place value).byte other = if place = other then value else memory.byte other := by
  simp [byte, setByte, Std.HashMap.getD_insert]

def bytes (memory : Memory) (place : Address) (count : Nat) : List UInt8 :=
  (List.range count).map fun i => memory.byte (place.advance i)

/-- Store bytes one after the other, from a place on. -/
def setBytes (memory : Memory) (place : Address) : List UInt8 → Memory
  | [] => memory
  | b :: bs => (memory.setByte place b).setBytes (place.advance 1) bs

def word (memory : Memory) (place : Address) : UInt64 :=
  UInt64.ofNat (natOfBytes (memory.bytes place 8))

def setWord (memory : Memory) (place : Address) (value : UInt64) : Memory :=
  memory.setBytes place (bytesOfNat 8 value.toNat)

/-- Forget the bytes of an object from an offset on: they read as zero again. -/
def clearFrom (memory : Memory) (object offset : Nat) : Memory :=
  ⟨memory.cells.filter fun place _ => decide (place.object ≠ object ∨ place.offset < offset)⟩

@[simp] theorem length_bytes (memory : Memory) (place : Address) (count : Nat) :
    (memory.bytes place count).length = count := by
  simp [bytes]

/-! ## What a store does -/

/-- A byte of a range that has been stored is that of the row stored there; all others stay. -/
theorem byte_setBytes (memory : Memory) (place other : Address) (bytes : List UInt8) :
    (memory.setBytes place bytes).byte other =
      if other.object = place.object ∧ place.offset ≤ other.offset then
        bytes[other.offset - place.offset]?.getD (memory.byte other)
      else memory.byte other := by
  induction bytes generalizing memory place with
  | nil => simp [setBytes]
  | cons b bs ih =>
    obtain ⟨object, offset⟩ := place
    obtain ⟨object', offset'⟩ := other
    rw [setBytes, ih, byte_setByte]
    simp only [Address.advance, Address.mk.injEq]
    by_cases same : object' = object
    · subst same
      rcases Nat.lt_trichotomy offset' offset with below | here | above
      · simp [show ¬ offset + 1 ≤ offset' by omega, show ¬ offset ≤ offset' by omega,
          show ¬ offset = offset' by omega]
      · subst here
        simp [show ¬ offset' + 1 ≤ offset' by omega]
      · simp [show offset + 1 ≤ offset' by omega, show offset ≤ offset' by omega,
          show ¬ offset = offset' by omega,
          show offset' - offset = offset' - (offset + 1) + 1 by omega]
    · simp [same, Ne.symm same]

theorem byte_clearFrom (memory : Memory) (object offset : Nat) (place : Address) :
    (memory.clearFrom object offset).byte place =
      if place.object = object ∧ offset ≤ place.offset then 0 else memory.byte place := by
  rw [clearFrom, byte, Std.HashMap.getD_filter', byte, Std.HashMap.getD_eq_getD_getElem?]
  by_cases cleared : place.object = object ∧ offset ≤ place.offset
  · have dropped : ¬ (place.object ≠ object ∨ place.offset < offset) := by omega
    rw [if_pos cleared]
    cases memory.cells[place]? <;> simp [Option.filter, dropped]
  · have kept : place.object ≠ object ∨ place.offset < offset := by omega
    rw [if_neg cleared]
    cases memory.cells[place]? <;> simp [Option.filter, kept]

theorem getElem?_bytes (memory : Memory) (place : Address) (count i : Nat) :
    (memory.bytes place count)[i]? = if i < count then some (memory.byte (place.advance i)) else none := by
  simp [bytes]
  split <;> simp_all

/-- A row of bytes is read back where it was stored. -/
theorem bytes_setBytes_self (memory : Memory) (place : Address) (bytes : List UInt8) :
    (memory.setBytes place bytes).bytes place bytes.length = bytes := by
  apply List.ext_getElem?
  intro i
  rw [getElem?_bytes]
  split
  · simp [byte_setBytes, Address.advance, *]
  · simp; omega

@[simp] theorem word_setWord (memory : Memory) (place : Address) (value : UInt64) :
    (memory.setWord place value).word place = value := by
  have h := bytes_setBytes_self memory place (bytesOfNat 8 value.toNat)
  rw [length_bytesOfNat] at h
  rw [word, setWord, h, ofNat_natOfBytes_bytesOfNat]

end Memory

end SharedRing
