import SharedRing.Memory

/-!
# Operations as sequences of memory accesses

An operation on shared memory is a tree of single accesses: load a word, store a word, copy bytes in,
copy bytes out. What it does next depends only on what it has loaded. `run` performs all accesses in
one go; `step?` performs one, so that the accesses of several operations can be interleaved in any
order.
-/

namespace SharedRing

inductive Access (α : Type) where
  | done (result : α)
  | load (place : Address) (next : UInt64 → Access α)
  | store (place : Address) (value : UInt64) (next : Access α)
  | copyIn (place : Address) (bytes : List UInt8) (next : Access α)
  | copyOut (place : Address) (count : Nat) (next : List UInt8 → Access α)

namespace Access

variable {α β : Type}

/-- Go on with another operation after the last access. -/
def andThen (operation : Access α) (next : α → Access β) : Access β :=
  match operation with
  | .done result => next result
  | .load place rest => .load place fun value => (rest value).andThen next
  | .store place value rest => .store place value (rest.andThen next)
  | .copyIn place bytes rest => .copyIn place bytes (rest.andThen next)
  | .copyOut place count rest => .copyOut place count fun bytes => (rest bytes).andThen next

instance : Monad Access where
  pure := .done
  bind := andThen

def loadWord (place : Address) : Access UInt64 := .load place .done

def storeWord (place : Address) (value : UInt64) : Access Unit := .store place value (.done ())

def putBytes (place : Address) (bytes : List UInt8) : Access Unit := .copyIn place bytes (.done ())

def takeBytes (place : Address) (count : Nat) : Access (List UInt8) := .copyOut place count .done

/-- Perform one access. -/
def step? (operation : Access α) (memory : Memory) : Option (Access α × Memory) :=
  match operation with
  | .done _ => none
  | .load place next => some (next (memory.word place), memory)
  | .store place value next => some (next, memory.setWord place value)
  | .copyIn place bytes next => some (next, memory.setBytes place bytes)
  | .copyOut place count next => some (next (memory.bytes place count), memory)

/-- Perform all accesses. -/
def run (operation : Access α) (memory : Memory) : α × Memory :=
  match operation with
  | .done result => (result, memory)
  | .load place next => (next (memory.word place)).run memory
  | .store place value next => next.run (memory.setWord place value)
  | .copyIn place bytes next => next.run (memory.setBytes place bytes)
  | .copyOut place count next => (next (memory.bytes place count)).run memory

@[simp] theorem run_pure (result : α) (memory : Memory) :
    (pure result : Access α).run memory = (result, memory) := rfl

@[simp] theorem run_loadWord (place : Address) (memory : Memory) :
    (loadWord place).run memory = (memory.word place, memory) := rfl

@[simp] theorem run_storeWord (place : Address) (value : UInt64) (memory : Memory) :
    (storeWord place value).run memory = ((), memory.setWord place value) := rfl

@[simp] theorem run_putBytes (place : Address) (bytes : List UInt8) (memory : Memory) :
    (putBytes place bytes).run memory = ((), memory.setBytes place bytes) := rfl

@[simp] theorem run_takeBytes (place : Address) (count : Nat) (memory : Memory) :
    (takeBytes place count).run memory = (memory.bytes place count, memory) := rfl

@[simp] theorem run_bind (operation : Access α) (next : α → Access β) (memory : Memory) :
    (operation >>= next).run memory =
      (next (operation.run memory).1).run (operation.run memory).2 := by
  change (operation.andThen next).run memory = _
  induction operation generalizing memory with
  | done => rfl
  | load _ _ ih => simp [andThen, run, ih]
  | store _ _ _ ih => simp [andThen, run, ih]
  | copyIn _ _ _ ih => simp [andThen, run, ih]
  | copyOut _ _ _ ih => simp [andThen, run, ih]

end Access

end SharedRing
