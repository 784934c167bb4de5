import SharedRing.Decimal.Shortest
import SharedRing.Word

/-!
# Scalars and what they mean

A scalar of a YAML document is its text, the style it was written in, and the tag in front of it, if
any. The words and numerals here are those of the core schema, with two limits: only the spellings
listed count as null or boolean, and a decimal numeral with a leading zero is no number.
-/

namespace SharedRing.Yaml

inductive Style where
  | plain
  | quoted
  | literal
  | folded
deriving DecidableEq, Repr

structure Scalar where
  text : String
  style : Style
  tag : Option String
deriving DecidableEq, Repr

/-- What a scalar can mean. -/
inductive Meaning where
  | null
  | boolean (value : Bool)
  | integer (value : Int)
  | float (value : Decimal.Binary64)
  | text (value : String)
deriving DecidableEq, Repr

/-- The tags of the core schema, by the short name of the type. -/
def coreTag (type : String) : String := "tag:yaml.org,2002:" ++ type

def isNullWord (s : String) : Bool := s ∈ ["null", "Null", "NULL", "~"]

def booleanWord? (s : String) : Option Bool :=
  if s ∈ ["true", "True", "TRUE"] then some true
  else if s ∈ ["false", "False", "FALSE"] then some false
  else none

/-! ## Integers -/

def digitValue? (base : Nat) (c : Char) : Option Nat :=
  let n := c.toNat
  let value :=
    if 48 ≤ n ∧ n ≤ 57 then n - 48
    else if 97 ≤ n ∧ n ≤ 102 then n - 87
    else if 65 ≤ n ∧ n ≤ 70 then n - 55
    else base
  if value < base then some value else none

/-- The number that a non-empty row of digits stands for. -/
def digits? (base : Nat) (cs : List Char) : Option Nat :=
  if cs.isEmpty then none
  else cs.foldl (fun sum? c => do return (← sum?) * base + (← digitValue? base c)) (some 0)

/-- A numeral without a minus sign: digits, with one plus sign allowed before them. -/
def unsigned? (base : Nat) : List Char → Option Nat
  | '+' :: cs => digits? base cs
  | cs => digits? base cs

def signed? (base : Nat) : List Char → Option Int
  | '-' :: cs => (digits? base cs).map fun n => -(n : Int)
  | cs => (unsigned? base cs).map Int.ofNat

/-- Rows of digits that start with a zero are no numbers. -/
def hasLeadingZero (cs : List Char) : Bool :=
  let digits := match cs with
    | '-' :: rest => rest
    | '+' :: rest => rest
    | _ => cs
  match digits with
  | '0' :: _ :: _ => digits.all Char.isDigit
  | _ => false

def radixMarks : List (Char × Nat) := [('x', 16), ('o', 8), ('b', 2)]

/-- A non-negative integer below a limit: decimal, or after `0x`, `0o` or `0b` in that base. -/
def nonNegative? (limit : Nat) (s : String) : Option Nat :=
  let cs := s.toList
  let body := match cs with
    | '+' :: rest => rest
    | _ => cs
  let isSign := fun c => c = '+' || c = '-'
  let bounded := fun n? => Option.filter (fun n => decide (n < limit)) n?
  let inRadix : Option (List Char × Nat) := match body with
    | '0' :: mark :: rest => (radixMarks.lookup mark).map fun base => (rest, base)
    | _ => none
  let decimal :=
    if (body.head?.any isSign) || hasLeadingZero cs then none else bounded (unsigned? 10 body)
  match inRadix with
  | some (rest, base) =>
    if rest.head?.any isSign then none
    else match bounded (unsigned? base rest) with
      | some n => some n
      | none => decimal
  | none => decimal

/-- A signed integer that is at least `-limit` and below `limit`; the minus sign stands before the
mark of the base. -/
def negative? (limit : Nat) (s : String) : Option Int :=
  let cs := s.toList
  let bounded := fun n? => Option.filter (fun n => decide (-(limit : Int) ≤ n ∧ n < (limit : Int))) n?
  let inRadix : Option (List Char × Nat) := match cs with
    | '-' :: '0' :: mark :: rest => (radixMarks.lookup mark).map fun base => ('-' :: rest, base)
    | _ => none
  let decimal := if hasLeadingZero cs then none else bounded (signed? 10 cs)
  match inRadix with
  | some (body, base) =>
    match bounded (signed? base body) with
    | some n => some n
    | none => decimal
  | none => decimal

def integer? (s : String) : Option Int :=
  match nonNegative? (Nat.pow 2 128) s with
  | some n => some n
  | none => negative? (Nat.pow 2 127) s

/-! ## Fractions -/

/-- The exponent part of a numeral: nothing, or `e` and a signed row of digits. -/
def exponent? : List Char → Option Int
  | [] => some 0
  | mark :: rest => if mark = 'e' ∨ mark = 'E' then signed? 10 rest else none

/-- A decimal fraction: digits with an optional point, at least one digit, an optional exponent. -/
def fraction? (cs : List Char) : Option (Nat × Int) :=
  let whole := cs.takeWhile Char.isDigit
  let afterWhole := cs.dropWhile Char.isDigit
  let split := match afterWhole with
    | '.' :: rest => (rest.takeWhile Char.isDigit, rest.dropWhile Char.isDigit)
    | _ => ([], afterWhole)
  do
    let digits ← digits? 10 (whole ++ split.1)
    let exponent ← exponent? split.2
    return (digits, exponent - split.1.length)

def finite? (cs : List Char) : Option Decimal.Binary64 :=
  let signed : Bool × List Char := match cs with
    | '-' :: rest => (true, rest)
    | '+' :: rest => (false, rest)
    | _ => (false, cs)
  match fraction? signed.2 with
  | none => none
  | some (digits, exponent) =>
    match Decimal.Binary64.ofDecimal signed.1 digits exponent with
    | .finite negative significand power => some (.finite negative significand power)
    | _ => none

def float? (s : String) : Option Decimal.Binary64 :=
  let cs := s.toList
  let infinity := [".inf", ".Inf", ".INF"]
  let body := match cs with
    | '+' :: rest => rest
    | _ => cs
  let twoSigns := match cs with
    | '+' :: c :: _ => c = '+' || c = '-'
    | _ => false
  if twoSigns then none
  else if String.ofList body ∈ infinity then some (.infinite false)
  else if s ∈ infinity.map ("-" ++ ·) then some (.infinite true)
  else if s ∈ [".nan", ".NaN", ".NAN"] then some .notANumber
  else finite? body

/-! ## Meaning -/

/-- What a plain scalar without a deciding tag means. -/
def plainMeaning (s : String) : Meaning :=
  if s = "" || isNullWord s then .null
  else match booleanWord? s with
    | some b => .boolean b
    | none => match integer? s with
      | some n => .integer n
      | none =>
        match if hasLeadingZero s.toList then none else float? s with
        | some x => .float x
        | none => .text s

/-- What a scalar means: its value, or the type its tag asks for and its text does not have. -/
def Scalar.meaning (scalar : Scalar) : Except String Meaning :=
  let s := scalar.text
  let asked := fun (type : String) (value? : Option Meaning) => match value? with
    | some value => Except.ok value
    | none => .error type
  match scalar.tag with
  | none => .ok (if scalar.style = .plain then plainMeaning s else .text s)
  | some tag =>
    if tag = coreTag "bool" then asked "a boolean" ((booleanWord? s).map .boolean)
    else if tag = coreTag "int" then asked "an integer" ((integer? s).map .integer)
    else if tag = coreTag "float" then asked "a float" ((float? s).map .float)
    else if tag = coreTag "null" then asked "null" (if isNullWord s then some .null else none)
    else if tag.startsWith "!" && scalar.style = .plain then .ok (plainMeaning s)
    else .ok (.text s)

/-- Whether a scalar may be read as the core type named: every plain one, and a literal block that
carries the type's tag. -/
def Scalar.mayBe (scalar : Scalar) (type : String) : Bool :=
  match scalar.style with
  | .plain => true
  | .literal => scalar.tag = some (coreTag type)
  | _ => false

/-- The word a scalar spells where a non-negative integer is wanted. -/
def Scalar.word? (scalar : Scalar) : Option Nat :=
  if scalar.mayBe "int" then nonNegative? wordLimit scalar.text else none

def Scalar.boolean? (scalar : Scalar) : Option Bool :=
  if scalar.mayBe "bool" then booleanWord? scalar.text else none

end SharedRing.Yaml
