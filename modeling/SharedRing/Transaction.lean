import SharedRing.Descriptor

/-!
# Transactions

The bytes that a read or write touches: one span of the ring, or two where the request crosses the
ring's end. `Transaction.ofRing` splits a request; its second span, if there is one, starts at the
ring's first byte and is not empty.
-/

namespace SharedRing

/-- A contiguous run of bytes. -/
structure Span where
  address : Nat
  length : Nat
deriving DecidableEq, Repr

def Span.isEmpty (span : Span) : Bool := span.length = 0

def Span.debug (span : Span) : String :=
  Text.record "Span" [("ptr", "0x" ++ Text.hex span.address), ("len", toString span.length)]

structure Transaction where
  first : Span
  second : Option Span
deriving DecidableEq, Repr

namespace Transaction

def spans (transaction : Transaction) : List Span :=
  transaction.first :: transaction.second.toList

def length (transaction : Transaction) : Except Fault Nat :=
  addWords transaction.first.length ((transaction.second.map (·.length)).getD 0)

def isEmpty (transaction : Transaction) : Except Fault Bool :=
  transaction.length.map (· = 0)

def wraps (transaction : Transaction) : Bool := transaction.second.isSome

def debug (transaction : Transaction) : String :=
  let second := match transaction.second with
    | some span => Text.wrapped "Some" span.debug
    | none => "None"
  Text.record "Transaction" [("first", transaction.first.debug), ("second", second)]

/-- `transaction`: the spans of `count` bytes of a ring that starts at `base`, from a counter's position on. The
position counts on past the ring's end, so it stands for its remainder. -/
def ofRing (base ringBytes position count : Nat) : Transaction :=
  let offset := position % ringBytes
  let contiguous := ringBytes - offset
  if contiguous < count then
    ⟨⟨base + offset, contiguous⟩, some ⟨base, count - contiguous⟩⟩
  else ⟨⟨base + offset, count⟩, none⟩

end Transaction

end SharedRing
