import SharedRing.Word

/-!
# Elements

The elements of a queue are plain data of one size: integers of one, two, four or eight bytes, stored
least significant byte first, or rows of bytes.
-/

namespace SharedRing

inductive ElementType where
  | unsigned (width : Nat)
  | signed (width : Nat)
  | bytes (count : Nat)
deriving DecidableEq, Repr

inductive Element where
  | integer (value : Int)
  | bytes (data : List UInt8)
deriving DecidableEq, Repr

namespace ElementType

def size : ElementType → Nat
  | .unsigned width => width
  | .signed width => width
  | .bytes count => count

def zero : ElementType → Element
  | .unsigned _ => .integer 0
  | .signed _ => .integer 0
  | .bytes count => .bytes (List.replicate count 0)

/-- The bytes of an integer in two's complement. -/
def encodeInteger (width : Nat) (value : Int) : List UInt8 :=
  bytesOfNat width (value % valueCount width).toNat

def decodeSigned (data : List UInt8) : Int :=
  let n := natOfBytes data
  if 2 * n < valueCount data.length then n else (n : Int) - valueCount data.length

/-- The bytes of an element; a row of bytes is cut or filled up to its type's size. -/
def encode (type : ElementType) (element : Element) : List UInt8 :=
  match type, element with
  | .unsigned width, .integer value => encodeInteger width value
  | .signed width, .integer value => encodeInteger width value
  | type, .bytes data => (data ++ List.replicate (type.size - data.length) 0).take type.size
  | .bytes count, .integer value => encodeInteger count value

/-- The element that bytes stand for. -/
def decode (type : ElementType) (data : List UInt8) : Element :=
  match type with
  | .unsigned _ => .integer (natOfBytes data)
  | .signed _ => .integer (decodeSigned data)
  | .bytes _ => .bytes data

def encodeAll (type : ElementType) (elements : List Element) : List UInt8 :=
  elements.flatMap type.encode

/-- The `count` elements that a row of bytes stands for. -/
def decodeAll (type : ElementType) : Nat → List UInt8 → List Element
  | 0, _ => []
  | count + 1, data =>
    type.decode (data.take type.size) :: type.decodeAll count (data.drop type.size)

theorem length_encode (type : ElementType) (element : Element) :
    (type.encode element).length = type.size := by
  cases type <;> cases element <;> simp [encode, encodeInteger, size] <;> omega

end ElementType

end SharedRing
