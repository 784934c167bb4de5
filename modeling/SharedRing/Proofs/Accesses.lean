import SharedRing.Queue.Ring

/-!
# Trees of accesses

Operations compose as monads do, so an operation that is put together from smaller ones has one tree of
accesses, whatever the nesting; `write_eq` and `read_eq` give those of a write and of a read. `fills` and
`drains` are the bytes that the next access copies into or out of, and `Acts` says that the next access
changes something or copies.
-/

namespace SharedRing

namespace Access

variable {α β γ : Type}

theorem andThen_assoc (operation : Access α) (next : α → Access β) (last : β → Access γ) :
    (operation.andThen next).andThen last = operation.andThen fun result => (next result).andThen last := by
  induction operation with
  | done _ => rfl
  | load place _ ih => exact congrArg (Access.load place) (funext ih)
  | store place value _ ih => exact congrArg (Access.store place value) ih
  | copyIn place bytes _ ih => exact congrArg (Access.copyIn place bytes) ih
  | copyOut place count _ ih => exact congrArg (Access.copyOut place count) (funext ih)

theorem andThen_done (operation : Access α) : operation.andThen .done = operation := by
  induction operation with
  | done _ => rfl
  | load place _ ih => exact congrArg (Access.load place) (funext ih)
  | store place value _ ih => exact congrArg (Access.store place value) ih
  | copyIn place bytes _ ih => exact congrArg (Access.copyIn place bytes) ih
  | copyOut place count _ ih => exact congrArg (Access.copyOut place count) (funext ih)

instance : LawfulMonad Access :=
  .mk' Access andThen_done (fun _ _ => rfl) andThen_assoc

@[simp] theorem run_map (finish : α → β) (operation : Access α) (memory : Memory) :
    (finish <$> operation).run memory = (finish (operation.run memory).1, (operation.run memory).2) :=
  run_bind operation (pure ∘ finish) memory

/-! ## The first access of a sequence -/

theorem load_bind (place : Address) (rest : UInt64 → Access α) (next : α → Access β) :
    .load place rest >>= next = .load place fun value => rest value >>= next := rfl

theorem copyIn_bind (place : Address) (bytes : List UInt8) (rest : Access α) (next : α → Access β) :
    .copyIn place bytes rest >>= next = .copyIn place bytes (rest >>= next) := rfl

theorem copyOut_bind (place : Address) (count : Nat) (rest : List UInt8 → Access α) (next : α → Access β) :
    .copyOut place count rest >>= next = .copyOut place count fun bytes => rest bytes >>= next := rfl

theorem loadWord_bind (place : Address) (next : UInt64 → Access α) :
    loadWord place >>= next = .load place next := rfl

theorem storeWord_bind (place : Address) (value : UInt64) (next : Unit → Access α) :
    storeWord place value >>= next = .store place value (next ()) := rfl

theorem putBytes_bind (place : Address) (bytes : List UInt8) (next : Unit → Access α) :
    putBytes place bytes >>= next = .copyIn place bytes (next ()) := rfl

theorem takeBytes_bind (place : Address) (count : Nat) (next : List UInt8 → Access α) :
    takeBytes place count >>= next = .copyOut place count next := rfl

/-! ## What the next access does -/

/-- The bytes that the next access copies into. -/
def fills : Access α → List Address
  | .copyIn place bytes _ => (List.range bytes.length).map place.advance
  | _ => []

/-- The bytes that the next access copies out of. -/
def drains : Access α → List Address
  | .copyOut place count _ => (List.range count).map place.advance
  | _ => []

/-- The next access copies, or stores a counter. -/
def Acts : Access α → Prop
  | .store .. | .copyIn .. | .copyOut .. => True
  | .done _ | .load .. => False

end Access

/-! ## A write and a read -/

namespace Ring

theorem write_eq (ring : Ring) {source : List UInt8} (nonempty : source ≠ []) :
    ring.write source =
      .load ring.writeCounter fun written =>
      .load ring.readCounter fun read =>
        if ring.bytes - (written - read).toNat < source.length then .done false
        else
          .load ring.readCounter fun _ =>
          .load ring.writeCounter fun position =>
            ring.copyIn (ring.transaction position source.length).spans source >>= fun copied =>
              .load ring.writeCounter fun own =>
              .store ring.writeCounter (own + .ofNat copied) (.done (copied == source.length)) := by
  simp only [write, List.isEmpty_iff, nonempty, ↓reduceIte, availableToWrite, availableToRead, writeBytes,
    beginWrite, commitWrite, bind_assoc, Access.loadWord_bind, Access.load_bind, Access.storeWord_bind, pure_bind]
  rfl

theorem read_eq (ring : Ring) {buffer : List UInt8} (nonempty : buffer ≠ []) :
    ring.read buffer =
      if ring.bytes < buffer.length then .done (false, buffer)
      else
        .load ring.writeCounter fun written =>
        .load ring.readCounter fun read =>
          if (written - read).toNat < buffer.length then .done (false, buffer)
          else
            .load ring.writeCounter fun _ =>
            .load ring.readCounter fun position =>
              ring.copyOut (ring.transaction position buffer.length).spans buffer >>= fun copied =>
                .load ring.readCounter fun own =>
                .store ring.readCounter (own + .ofNat copied.1) (.done (copied.1 == buffer.length, copied.2)) := by
  simp only [read, List.isEmpty_iff, nonempty, ↓reduceIte, availableToRead, readBytes, beginRead, commitRead,
    bind_assoc, Access.loadWord_bind, Access.load_bind, Access.storeWord_bind, pure_bind]
  rfl

end Ring

end SharedRing
