import SharedRing.Decimal.Binary64

/-!
# Shortest decimal of a double

Every real number in an interval around a double rounds to it. `shortest` finds the fewest decimal
digits that lie in that interval: for one digit, two digits, and so on, it tries the two neighbours of
the double among the decimals with that many digits, and takes the nearer one that fits.
-/

namespace SharedRing.Decimal

/-- The reals that round to `significand · 2 ^ exponent`, in fractions of one denominator. -/
structure RoundingInterval where
  low : Nat
  value : Nat
  high : Nat
  denominator : Nat
  closed : Bool

/-- The interval of a positive double. The gap below a power of two is half as wide. -/
def RoundingInterval.of (significand : Nat) (exponent : Int) : RoundingInterval :=
  let unit := Nat.pow 2 (exponent - 2).toNat
  let below :=
    if significand = Nat.pow 2 (significandBits - 1) ∧ leastExponent < exponent then 1 else 2
  { low := (4 * significand - below) * unit
    value := 4 * significand * unit
    high := (4 * significand + 2) * unit
    denominator := Nat.pow 2 (2 - exponent).toNat
    closed := significand % 2 = 0 }

def RoundingInterval.contains (interval : RoundingInterval) (num den : Nat) : Bool :=
  let low := interval.low * den
  let high := interval.high * den
  let here := num * interval.denominator
  if interval.closed then decide (low ≤ here ∧ here ≤ high) else decide (low < here ∧ here < high)

/-- The least `k` with `1 ≤ num / den · 10 ^ (k + 1)`, searched up to a bound. -/
def leadingZeros (num den : Nat) : Nat → Nat
  | 0 => 0
  | bound + 1 => if den ≤ num * 10 then 0 else leadingZeros (num * 10) den bound + 1

/-- The decimal magnitude of a positive fraction: the least `p` with `num / den < 10 ^ p`. -/
def magnitude (num den : Nat) : Int :=
  if den ≤ num then ((Nat.toDigits 10 (num / den)).length : Int)
  else -(leadingZeros num den 400 : Int)

def RoundingInterval.onGrid (interval : RoundingInterval) (exponent : Int) : Option Nat :=
  let up := Nat.pow 10 exponent.toNat
  let down := Nat.pow 10 (-exponent).toNat
  let num := interval.value * down
  let den := interval.denominator * up
  let below := num / den
  let rest := num % den
  let fitsBelow := interval.contains (below * up) down
  let fitsAbove := interval.contains ((below + 1) * up) down
  if fitsAbove && (!fitsBelow || decide (den ≤ 2 * rest)) then some (below + 1)
  else if fitsBelow then some below
  else none

def RoundingInterval.search (interval : RoundingInterval) (exponent : Int) : Nat → Nat × Int
  | 0 => (0, 0)
  | tries + 1 =>
    match interval.onGrid exponent with
    | some count => (count, exponent)
    | none => interval.search (exponent - 1) tries

/-- The shortest decimal `count · 10 ^ exponent` of a positive double; seventeen digits are always
enough. -/
def shortest (significand : Nat) (exponent : Int) : Nat × Int :=
  let interval := RoundingInterval.of significand exponent
  interval.search (magnitude interval.value interval.denominator - 1) 17

def dropTrailingZeros (digits : List Char) : List Char :=
  (digits.reverse.dropWhile (· = '0')).reverse

/-- Positional text of `count · 10 ^ exponent`, with at least one digit on each side of the point. -/
def positional (count : Nat) (exponent : Int) : String :=
  let digits := Nat.toDigits 10 count
  let zeros := fun n => List.replicate n '0'
  if 0 ≤ exponent then String.ofList (digits ++ zeros exponent.toNat ++ ['.', '0'])
  else
    let places := (-exponent).toNat
    let padded := zeros (places + 1 - digits.length) ++ digits
    let whole := padded.take (padded.length - places)
    let fraction := dropTrailingZeros (padded.drop (padded.length - places))
    String.ofList (whole ++ '.' :: (if fraction.isEmpty then ['0'] else fraction))

/-- The text of a double: the shortest decimal that reads back, always positional and always with a
point. -/
def Binary64.text : Binary64 → String
  | .notANumber => "NaN"
  | .infinite negative => if negative then "-inf" else "inf"
  | .finite negative significand exponent =>
    let decimal := if significand = 0 then (0, 0) else shortest significand exponent
    (if negative then "-" else "") ++ positional decimal.1 decimal.2

end SharedRing.Decimal
