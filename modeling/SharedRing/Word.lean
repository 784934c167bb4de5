/-!
# Machine words

Sizes and offsets are natural numbers that the machine bounds: a word is below `wordLimit`, and an
offset into a backing object is at most `maxOffset`. Counters are `UInt64`, whose arithmetic wraps.
In memory a word lies least significant byte first.
-/

namespace SharedRing

/-- One more than the largest 64-bit word. -/
def wordLimit : Nat := 18446744073709551616

/-- The largest offset into a backing object, and so its largest length. -/
def maxOffset : Nat := 9223372036854775807

/-- The ways in which a computation breaks off: its arithmetic leaves the words, or an address that
has to be aligned is not. -/
inductive Fault where
  | addOverflow
  | multiplyOverflow
  | divideByZero
  | misaligned (remainder : Nat)
deriving DecidableEq, Repr

def Fault.message : Fault → String
  | .addOverflow => "attempt to add with overflow"
  | .multiplyOverflow => "attempt to multiply with overflow"
  | .divideByZero => "attempt to divide by zero"
  | .misaligned remainder => s!"address is {remainder} above a multiple of 8"

def addWords (a b : Nat) : Except Fault Nat :=
  if a + b < wordLimit then .ok (a + b) else .error .addOverflow

def multiplyWords (a b : Nat) : Except Fault Nat :=
  if a * b < wordLimit then .ok (a * b) else .error .multiplyOverflow

/-- The `width` low bytes of `n`, least significant first. -/
def bytesOfNat : Nat → Nat → List UInt8
  | 0, _ => []
  | width + 1, n => UInt8.ofNat (n % 256) :: bytesOfNat width (n / 256)

def valueCount : Nat → Nat
  | 0 => 1
  | width + 1 => 256 * valueCount width

/-- The number whose bytes these are, least significant first. -/
def natOfBytes : List UInt8 → Nat
  | [] => 0
  | b :: bs => b.toNat + 256 * natOfBytes bs

@[simp] theorem length_bytesOfNat (width n : Nat) : (bytesOfNat width n).length = width := by
  induction width generalizing n with
  | zero => rfl
  | succ w ih => simp [bytesOfNat, ih]

/-- Reading back keeps the number modulo the width written. -/
theorem natOfBytes_bytesOfNat (width n : Nat) : natOfBytes (bytesOfNat width n) = n % valueCount width := by
  induction width generalizing n with
  | zero => simp [bytesOfNat, natOfBytes, valueCount, Nat.mod_one]
  | succ w ih =>
    rw [bytesOfNat, natOfBytes, ih, valueCount, Nat.mod_mul]
    simp

theorem ofNat_natOfBytes_bytesOfNat (word : UInt64) :
    UInt64.ofNat (natOfBytes (bytesOfNat 8 word.toNat)) = word := by
  have small : word.toNat < valueCount 8 := word.toNat_lt
  rw [natOfBytes_bytesOfNat, Nat.mod_eq_of_lt small, UInt64.ofNat_toNat]

end SharedRing
