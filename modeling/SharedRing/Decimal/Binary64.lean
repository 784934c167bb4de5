/-!
# Binary floating point, exactly

A double is a sign and `significand · 2 ^ exponent`, an infinity, or not a number. `ofDecimal` rounds a
decimal to the nearest double, ties to the even significand, in exact integer arithmetic.
-/

namespace SharedRing.Decimal

inductive Binary64 where
  | finite (negative : Bool) (significand : Nat) (exponent : Int)
  | infinite (negative : Bool)
  | notANumber
deriving DecidableEq, Repr

/-- The number of bits of a full significand. -/
def significandBits : Nat := 53

def leastExponent : Int := -1074

def greatestExponent : Int := 971

def roundHalfEven (num den : Nat) : Nat :=
  let quotient := num / den
  let rest := num % den
  if 2 * rest < den then quotient
  else if den < 2 * rest then quotient + 1
  else quotient + quotient % 2

/-- `num / den` divided by `2 ^ exponent`, as a fraction. -/
def scaleDown (num den : Nat) (exponent : Int) : Nat × Nat :=
  if 0 ≤ exponent then (num, den * Nat.pow 2 exponent.toNat) else (num * Nat.pow 2 (-exponent).toNat, den)

/-- The significand and exponent nearest to a positive fraction, unless it is too large. -/
def nearest (num den : Nat) : Option (Nat × Int) :=
  let guess : Int := (num.log2 : Int) - (den.log2 : Int) - significandBits
  let low := max guess leastExponent
  let coarse := scaleDown num den low
  let exponent := if Nat.pow 2 significandBits ≤ coarse.1 / coarse.2 then low + 1 else low
  let fine := scaleDown num den exponent
  let rounded := roundHalfEven fine.1 fine.2
  let result :=
    if rounded = Nat.pow 2 significandBits then (Nat.pow 2 (significandBits - 1), exponent + 1)
    else (rounded, exponent)
  if greatestExponent < result.2 then none else some result

/-- Decimal exponents beyond which every number is infinite or zero. -/
def exponentBound : Int := 400

/-- The double nearest to `± digits · 10 ^ exponent`; a number beyond the largest double is
infinite. -/
def Binary64.ofDecimal (negative : Bool) (digits : Nat) (exponent : Int) : Binary64 :=
  let magnitude : Int := (Nat.toDigits 10 digits).length + exponent
  if digits = 0 ∨ magnitude < -exponentBound then .finite negative 0 leastExponent
  else if exponentBound < magnitude then .infinite negative
  else
    let fraction :=
      if 0 ≤ exponent then (digits * Nat.pow 10 exponent.toNat, 1) else (digits, Nat.pow 10 (-exponent).toNat)
    match nearest fraction.1 fraction.2 with
    | some (significand, power) => .finite negative significand power
    | none => .infinite negative

end SharedRing.Decimal
