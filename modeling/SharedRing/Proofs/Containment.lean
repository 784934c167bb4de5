import SharedRing.Proofs.Accesses
import SharedRing.Proofs.Elements
import SharedRing.Proofs.Opening

/-!
# Whatever the counters say

The other side may put anything into the counters at any time, so each load of a call may return any
word. `Trace` are the accesses of a call under this assumption alone. A call of a valid queue still
changes nothing, or copies as many bytes as were asked for within the ring and then stores its own
counter (`Confined`, `trace_write`, `trace_read`).

`checkedWrite` and `checkedRead` are the same calls with a check before every step that could overflow,
divide by zero or leave the ring or the buffer. Their trees of accesses are those of the calls
(`run_checkedWrite`, `run_checkedRead`), so no check fails, whatever is loaded.
-/

namespace SharedRing

/-! ## Accesses under any loads -/

namespace Access

/-- An access, with what it loaded, stored or copied. -/
inductive Event where
  | loaded (place : Address) (value : UInt64)
  | stored (place : Address) (value : UInt64)
  | copiedIn (place : Address) (bytes : List UInt8)
  | copiedOut (place : Address) (bytes : List UInt8)

/-- The accesses of an operation, if each load and each copy may return anything. -/
inductive Trace {α : Type} : Access α → List Event → α → Prop where
  | done (result : α) : Trace (.done result) [] result
  | load {place : Address} {next : UInt64 → Access α} {events : List Event} {result : α} (value : UInt64) :
      Trace (next value) events result → Trace (.load place next) (.loaded place value :: events) result
  | store {place : Address} {value : UInt64} {next : Access α} {events : List Event} {result : α} :
      Trace next events result → Trace (.store place value next) (.stored place value :: events) result
  | copyIn {place : Address} {bytes : List UInt8} {next : Access α} {events : List Event} {result : α} :
      Trace next events result → Trace (.copyIn place bytes next) (.copiedIn place bytes :: events) result
  | copyOut {place : Address} {count : Nat} {next : List UInt8 → Access α} {events : List Event} {result : α}
      (bytes : List UInt8) : bytes.length = count → Trace (next bytes) events result →
      Trace (.copyOut place count next) (.copiedOut place bytes :: events) result

/-- What memory returns is among what it may return. -/
theorem exists_trace_run {α : Type} (operation : Access α) (memory : Memory) :
    ∃ events, Trace operation events (operation.run memory).1 := by
  induction operation generalizing memory with
  | done result => exact ⟨_, .done result⟩
  | load place next ih =>
    obtain ⟨events, trace⟩ := ih (memory.word place) memory
    exact ⟨_, .load _ trace⟩
  | store place value next ih =>
    obtain ⟨events, trace⟩ := ih (memory.setWord place value)
    exact ⟨_, .store trace⟩
  | copyIn place bytes next ih =>
    obtain ⟨events, trace⟩ := ih (memory.setBytes place bytes)
    exact ⟨_, .copyIn trace⟩
  | copyOut place count next ih =>
    obtain ⟨events, trace⟩ := ih (memory.bytes place count) memory
    exact ⟨_, .copyOut _ (Memory.length_bytes _ _ _) trace⟩

theorem trace_map {α β : Type} {finish : α → β} : ∀ {operation : Access α} {events : List Event} {result : β},
    Trace (operation >>= fun raw => pure (finish raw)) events result →
      ∃ raw, Trace operation events raw ∧ result = finish raw
  | .done raw, _, _, trace => by
    cases trace
    exact ⟨raw, .done raw, rfl⟩
  | .load _ _, _, _, trace => by
    obtain _ | ⟨value, trace⟩ := trace
    obtain ⟨raw, trace, finished⟩ := trace_map trace
    exact ⟨raw, .load value trace, finished⟩
  | .store _ _ _, _, _, trace => by
    cases trace with
    | store trace =>
      obtain ⟨raw, trace, finished⟩ := trace_map trace
      exact ⟨raw, .store trace, finished⟩
  | .copyIn _ _ _, _, _, trace => by
    cases trace with
    | copyIn trace =>
      obtain ⟨raw, trace, finished⟩ := trace_map trace
      exact ⟨raw, .copyIn trace, finished⟩
  | .copyOut _ _ _, _, _, trace => by
    cases trace with
    | copyOut bytes bytes_eq trace =>
      obtain ⟨raw, trace, finished⟩ := trace_map trace
      exact ⟨raw, .copyOut bytes bytes_eq trace, finished⟩

/-- The accesses other than loads. -/
def effects (events : List Event) : List Event :=
  events.filter fun
    | .loaded .. => false
    | .stored .. | .copiedIn .. | .copiedOut .. => true

/-- What was loaded last from a place. -/
def lastLoaded (place : Address) (events : List Event) : Option UInt64 :=
  events.reverse.findSome? fun
    | .loaded other value => if other = place then some value else none
    | .stored .. | .copiedIn .. | .copiedOut .. => none

end Access

namespace Ring

open Access

def Encloses (ring : Ring) (place : Address) (count : Nat) : Prop :=
  place.object = ring.data.object ∧ ring.data.offset ≤ place.offset ∧
    place.offset + count ≤ ring.data.offset + ring.bytes

instance (ring : Ring) (place : Address) (count : Nat) : Decidable (ring.Encloses place count) :=
  inferInstanceAs (Decidable (_ ∧ _ ∧ _))

/-- All that was done is to copy the payload within the ring and then to move the own counter on from
where it was seen last. -/
def Confined (ring : Ring) (own : Address) (copied : Address → List UInt8 → Event) (payload : List UInt8)
    (events : List Event) : Prop :=
  ∃ (copies : List (Address × List UInt8)) (last : UInt64),
    effects events = copies.map (fun copy => copied copy.1 copy.2) ++
      [.stored own (last + .ofNat payload.length)] ∧
    lastLoaded own events = some last ∧ (∀ copy ∈ copies, ring.Encloses copy.1 copy.2.length) ∧
    copies.flatMap (·.2) = payload

theorem StartsAt.encloses {ring : Ring} {p : Nat} {span : Span} (h : ring.StartsAt p span) :
    ring.Encloses (ring.place span) span.length := by
  have le := h.le
  refine ⟨rfl, ?_, ?_⟩
  · rw [place, h.address_eq]
    exact Nat.le_add_right _ _
  · rw [place, h.address_eq]
    simp only
    omega

theorem trace_copyIn {α : Type} {ring : Ring} {p n : Nat} {spans : List Span} (covers : ring.Covers p spans n) :
    ∀ {source : List UInt8} {next : Nat → Access α} {events : List Event} {result : α}, source.length = n →
      Trace (ring.copyIn spans source >>= next) events result →
      ∃ (copies : List (Address × List UInt8)) (rest : List Event),
        events = copies.map (fun copy => .copiedIn copy.1 copy.2) ++ rest ∧
        (∀ copy ∈ copies, ring.Encloses copy.1 copy.2.length) ∧ copies.flatMap (·.2) = source ∧
        Trace (next n) rest result := by
  induction covers with
  | nil =>
    intro source next events result length_eq trace
    exact ⟨[], events, rfl, by simp, (List.length_eq_zero_iff.1 length_eq).symm, trace⟩
  | @cons p n span spans starts _ ih =>
    intro source next events result length_eq trace
    simp only [copyIn, putBytes_bind, copyIn_bind, bind_assoc, pure_bind] at trace
    cases trace with
    | copyIn trace =>
      obtain ⟨copies, rest, rfl, enclosed, flat, last⟩ := ih (by simp; omega) trace
      have front : (source.take span.length).length = span.length := by simp; omega
      refine ⟨(ring.place span, source.take span.length) :: copies, rest, rfl, ?_, ?_, last⟩
      · exact List.forall_mem_cons.2 ⟨by rw [front]; exact starts.encloses, enclosed⟩
      · rw [List.flatMap_cons, flat, List.take_append_drop]

theorem trace_copyOut {α : Type} {ring : Ring} {p n : Nat} {spans : List Span} (covers : ring.Covers p spans n) :
    ∀ {buffer : List UInt8} {next : Nat × List UInt8 → Access α} {events : List Event} {result : α},
      buffer.length = n → Trace (ring.copyOut spans buffer >>= next) events result →
      ∃ (copies : List (Address × List UInt8)) (rest : List Event),
        events = copies.map (fun copy => .copiedOut copy.1 copy.2) ++ rest ∧
        (∀ copy ∈ copies, ring.Encloses copy.1 copy.2.length) ∧ (copies.flatMap (·.2)).length = n ∧
        Trace (next (n, copies.flatMap (·.2))) rest result := by
  induction covers with
  | nil =>
    intro buffer next events result length_eq trace
    obtain rfl := List.length_eq_zero_iff.1 length_eq
    exact ⟨[], events, rfl, by simp, rfl, trace⟩
  | @cons p n span spans starts _ ih =>
    intro buffer next events result length_eq trace
    simp only [copyOut, takeBytes_bind, copyOut_bind, bind_assoc, pure_bind] at trace
    cases trace with
    | copyOut bytes bytes_eq trace =>
      obtain ⟨copies, rest, rfl, enclosed, flat, last⟩ := ih (by simp; omega) trace
      refine ⟨(ring.place span, bytes) :: copies, rest, rfl, ?_, ?_, last⟩
      · exact List.forall_mem_cons.2 ⟨by rw [bytes_eq]; exact starts.encloses, enclosed⟩
      · rw [List.flatMap_cons, List.length_append, bytes_eq, flat]

theorem confined_of_events {ring : Ring} {own : Address} {copied : Address → List UInt8 → Event}
    (copies_are : ∀ place bytes,
      copied place bytes = .copiedIn place bytes ∨ copied place bytes = .copiedOut place bytes)
    {copies : List (Address × List UInt8)} {loads : List Event} (loading : effects loads = []) {last : UInt64}
    {count : Nat} (enclosed : ∀ copy ∈ copies, ring.Encloses copy.1 copy.2.length)
    (count_eq : (copies.flatMap (·.2)).length = count) :
    ring.Confined own copied (copies.flatMap (·.2)) (loads ++ (copies.map (fun copy => copied copy.1 copy.2) ++
      [.loaded own last, .stored own (last + .ofNat count)])) := by
  have copying : effects (copies.map fun copy => copied copy.1 copy.2) =
      copies.map fun copy => copied copy.1 copy.2 := by
    refine List.filter_eq_self.2 fun event member => ?_
    obtain ⟨copy, _, rfl⟩ := List.mem_map.1 member
    rcases copies_are copy.1 copy.2 with same | same <;> rw [same]
  refine ⟨copies, last, ?_, ?_, enclosed, rfl⟩
  · rw [effects, List.filter_append, List.filter_append, ← effects, ← effects, loading, copying, count_eq]
    rfl
  · simp [lastLoaded]

/-- **A write is confined, or changes nothing.** -/
theorem trace_write {ring : Ring} (positive : 0 < ring.bytes) {source : List UInt8} {events : List Event}
    {wrote : Bool} (trace : Trace (ring.write source) events wrote) :
    effects events = [] ∧ (wrote = false ∨ source = []) ∨
      wrote = true ∧ ring.Confined ring.writeCounter .copiedIn source events := by
  by_cases empty : source = []
  · subst empty
    cases trace
    exact .inl ⟨rfl, .inr rfl⟩
  have length_pos := List.length_pos_iff.2 empty
  rw [write_eq ring empty] at trace
  obtain _ | ⟨written, trace⟩ := trace
  obtain _ | ⟨read, trace⟩ := trace
  by_cases full : ring.bytes - (written - read).toNat < source.length
  · simp only [full, ↓reduceIte] at trace
    cases trace
    exact .inl ⟨rfl, .inl rfl⟩
  simp only [full, ↓reduceIte] at trace
  -- the loads that begin the write say nothing of the check
  obtain _ | ⟨read', trace⟩ := trace
  obtain _ | ⟨position, trace⟩ := trace
  have covers := ring.covers_transaction position positive (show source.length ≤ ring.bytes by omega)
  obtain ⟨copies, rest, rfl, enclosed, rfl, last⟩ := trace_copyIn covers rfl trace
  obtain _ | ⟨own, last⟩ := last
  cases last with
  | store last =>
    cases last
    exact .inr ⟨beq_self_eq_true _, @confined_of_events ring _ .copiedIn (fun _ _ => .inl rfl) copies
      [.loaded ring.writeCounter written, .loaded ring.readCounter read, .loaded ring.readCounter read',
        .loaded ring.writeCounter position] rfl own _ enclosed rfl⟩

/-- **A read is confined, or changes nothing.** -/
theorem trace_read {ring : Ring} (positive : 0 < ring.bytes) {buffer : List UInt8} {events : List Event}
    {result : Bool × List UInt8} (trace : Trace (ring.read buffer) events result) :
    effects events = [] ∧ result.2 = buffer ∧ (result.1 = false ∨ buffer = []) ∨
      result.1 = true ∧ result.2.length = buffer.length ∧
        ring.Confined ring.readCounter .copiedOut result.2 events := by
  by_cases empty : buffer = []
  · subst empty
    cases trace
    exact .inl ⟨rfl, rfl, .inr rfl⟩
  rw [read_eq ring empty] at trace
  by_cases long : ring.bytes < buffer.length
  · simp only [long, ↓reduceIte] at trace
    cases trace
    exact .inl ⟨rfl, rfl, .inl rfl⟩
  simp only [long, ↓reduceIte] at trace
  obtain _ | ⟨written, trace⟩ := trace
  obtain _ | ⟨read, trace⟩ := trace
  by_cases short : (written - read).toNat < buffer.length
  · simp only [short, ↓reduceIte] at trace
    cases trace
    exact .inl ⟨rfl, rfl, .inl rfl⟩
  simp only [short, ↓reduceIte] at trace
  -- the loads that begin the read say nothing of the check
  obtain _ | ⟨written', trace⟩ := trace
  obtain _ | ⟨position, trace⟩ := trace
  have covers := ring.covers_transaction position positive (show buffer.length ≤ ring.bytes by omega)
  obtain ⟨copies, rest, rfl, enclosed, length_eq, last⟩ := trace_copyOut covers rfl trace
  obtain _ | ⟨own, last⟩ := last
  cases last with
  | store last =>
    cases last
    exact .inr ⟨beq_self_eq_true _, length_eq, @confined_of_events ring _ .copiedOut (fun _ _ => .inr rfl) copies
      [.loaded ring.writeCounter written, .loaded ring.readCounter read, .loaded ring.writeCounter written',
        .loaded ring.readCounter position] rfl own _ enclosed length_eq⟩

/-! ## Checks before every step -/

/-- What a step of a call could do wrong. -/
inductive Breach where
  | divideByZero
  | underflow
  | overflow
  /-- A span reaches beyond the ring. -/
  | outsideRing
  /-- A span is longer than what is left of the source or the buffer. -/
  | overrun

/-- Accesses that end where a check fails. -/
abbrev Checked := ExceptT Breach Access

def check (condition : Prop) [Decidable condition] (breach : Breach) : Checked Unit :=
  if condition then pure () else throw breach

def checkedTransaction (ring : Ring) (position : UInt64) (count : Nat) : Checked Transaction := do
  check (ring.bytes ≠ 0) .divideByZero
  let offset := position.toNat % ring.bytes
  check (offset ≤ ring.bytes) .underflow
  let contiguous := ring.bytes - offset
  check (ring.data.offset + offset < wordLimit) .overflow
  if contiguous < count then
    check (contiguous ≤ count) .underflow
    return ⟨⟨ring.data.offset + offset, contiguous⟩, some ⟨ring.data.offset, count - contiguous⟩⟩
  else return ⟨⟨ring.data.offset + offset, count⟩, none⟩

def checkSpan (ring : Ring) (span : Span) (copied capacity : Nat) : Checked Unit := do
  check (ring.Encloses (ring.place span) span.length) .outsideRing
  check (copied + span.length < wordLimit) .overflow
  check (copied + span.length ≤ capacity) .overrun

def checkedCopyIn (ring : Ring) (capacity : Nat) : Nat → List Span → List UInt8 → Checked Nat
  | copied, [], _ => return copied
  | copied, span :: spans, source => do
    ring.checkSpan span copied capacity
    putBytes (ring.place span) (source.take span.length)
    checkedCopyIn ring capacity (copied + span.length) spans (source.drop span.length)

def checkedCopyOut (ring : Ring) (capacity : Nat) : Nat → List Span → List UInt8 → Checked (Nat × List UInt8)
  | copied, [], buffer => return (copied, buffer)
  | copied, span :: spans, buffer => do
    ring.checkSpan span copied capacity
    let bytes ← takeBytes (ring.place span) span.length
    let (total, tail) ← checkedCopyOut ring capacity (copied + span.length) spans (buffer.drop span.length)
    return (total, bytes ++ tail)

def checkedWrite (ring : Ring) (source : List UInt8) : Checked Bool := do
  if source.isEmpty then return true
  if (← ring.availableToWrite) < source.length then return false
  let _ ← loadWord ring.readCounter
  let position ← loadWord ring.writeCounter
  let transaction ← ring.checkedTransaction position source.length
  let copied ← ring.checkedCopyIn source.length 0 transaction.spans source
  ring.commitWrite copied
  return copied == source.length

def checkedRead (ring : Ring) (buffer : List UInt8) : Checked (Bool × List UInt8) := do
  if buffer.isEmpty then return (true, buffer)
  if ring.bytes < buffer.length then return (false, buffer)
  if (← ring.availableToRead) < buffer.length then return (false, buffer)
  let _ ← loadWord ring.writeCounter
  let position ← loadWord ring.readCounter
  let transaction ← ring.checkedTransaction position buffer.length
  let (copied, filled) ← ring.checkedCopyOut buffer.length 0 transaction.spans buffer
  ring.commitRead copied
  return (copied == buffer.length, filled)

theorem run_check_bind {α : Type} {condition : Prop} [Decidable condition] (h : condition) (breach : Breach)
    (next : Unit → Checked α) : (check condition breach >>= next).run = (next ()).run := by
  rw [check, if_pos h]
  rfl

theorem run_liftM_bind {α β : Type} (operation : Access α) (next : α → Checked β) :
    ((liftM operation : Checked α) >>= next).run = operation >>= fun result => (next result).run :=
  ExceptT.run_bind_lift operation next

/-- No check of a request's spans fails, whatever the position. -/
theorem run_checkedTransaction {α : Type} {ring : Ring} (positive : 0 < ring.bytes)
    (fits : ring.data.offset + ring.bytes < wordLimit) (position : UInt64) (count : Nat)
    (next : Transaction → Checked α) :
    (ring.checkedTransaction position count >>= next).run = (next (ring.transaction position count)).run := by
  have below := Nat.mod_lt position.toNat positive
  simp only [checkedTransaction, bind_assoc]
  rw [run_check_bind (by omega), run_check_bind (by omega), run_check_bind (by omega), transaction,
    Transaction.ofRing]
  by_cases wraps : ring.bytes - position.toNat % ring.bytes < count
  · simp only [wraps, ↓reduceIte, bind_assoc, pure_bind]
    rw [run_check_bind (by omega)]
  · simp only [wraps, ↓reduceIte, pure_bind]

theorem run_checkSpan {α : Type} {ring : Ring} {p copied capacity : Nat} {span : Span}
    (starts : ring.StartsAt p span) (le : copied + span.length ≤ capacity) (small : capacity < wordLimit) (next : Unit → Checked α) :
    (ring.checkSpan span copied capacity >>= next).run = (next ()).run := by
  simp only [checkSpan, bind_assoc]
  rw [run_check_bind starts.encloses, run_check_bind (by omega), run_check_bind le]

theorem run_checkedCopyIn {α : Type} {ring : Ring} {p n capacity : Nat} {spans : List Span}
    (covers : ring.Covers p spans n) (small : capacity < wordLimit) :
    ∀ {copied : Nat} {source : List UInt8} {next : Nat → Checked α}, copied + n ≤ capacity →
      (ring.checkedCopyIn capacity copied spans source >>= next).run =
        ring.copyIn spans source >>= fun rest => (next (copied + rest)).run := by
  induction covers with
  | nil =>
    intro copied source next le
    rfl
  | @cons p n span spans starts _ ih =>
    intro copied source next le
    simp only [checkedCopyIn, copyIn, bind_assoc]
    rw [run_checkSpan starts (by omega) small]
    have rest := @ih (copied + span.length) (source.drop span.length) next (by omega)
    refine congrArg (Access.copyIn _ _) (rest.trans ?_)
    simp only [Nat.add_assoc]
    rfl

theorem run_checkedCopyOut {α : Type} {ring : Ring} {p n capacity : Nat} {spans : List Span}
    (covers : ring.Covers p spans n) (small : capacity < wordLimit) :
    ∀ {copied : Nat} {buffer : List UInt8} {next : Nat × List UInt8 → Checked α}, copied + n ≤ capacity →
      (ring.checkedCopyOut capacity copied spans buffer >>= next).run =
        ring.copyOut spans buffer >>= fun rest => (next (copied + rest.1, rest.2)).run := by
  induction covers with
  | nil =>
    intro copied buffer next le
    rfl
  | @cons p n span spans starts _ ih =>
    intro copied buffer next le
    simp only [checkedCopyOut, copyOut, bind_assoc]
    rw [run_checkSpan starts (by omega) small]
    refine congrArg (Access.copyOut _ _) (funext fun bytes => ?_)
    have rest := @ih (copied + span.length) (buffer.drop span.length)
      (fun result => next (result.1, bytes ++ result.2)) (by omega)
    refine rest.trans ?_
    simp only [Nat.add_assoc]
    rfl

/-- **No step of a write breaches anything, whatever is loaded.** -/
theorem run_checkedWrite {ring : Ring} (positive : 0 < ring.bytes) (fits : ring.data.offset + ring.bytes < wordLimit)
    (source : List UInt8) : (ring.checkedWrite source).run = .ok <$> ring.write source := by
  by_cases empty : source = []
  · subst empty
    rfl
  have length_pos := List.length_pos_iff.2 empty
  rw [write_eq ring empty, checkedWrite, if_neg (by simpa using empty)]
  simp only [run_liftM_bind, availableToWrite, availableToRead, loadWord_bind, load_bind, pure_bind]
  refine congrArg (Access.load _) (funext fun written => congrArg (Access.load _) (funext fun read => ?_))
  by_cases full : ring.bytes - (written - read).toNat < source.length
  · simp only [full, ↓reduceIte]
    rfl
  simp only [full, ↓reduceIte, run_liftM_bind, loadWord_bind]
  refine congrArg (Access.load _) (funext fun _ => congrArg (Access.load _) (funext fun position => ?_))
  have covers := ring.covers_transaction position positive (show source.length ≤ ring.bytes by omega)
  rw [run_checkedTransaction positive fits, run_checkedCopyIn covers (by omega) (by omega)]
  simp only [Nat.zero_add, run_liftM_bind, commitWrite, loadWord_bind, storeWord_bind, load_bind]
  change _ = (ring.copyIn _ _ >>= _) >>= _
  rw [bind_assoc]
  rfl

/-- **No step of a read breaches anything, whatever is loaded.** -/
theorem run_checkedRead {ring : Ring} (positive : 0 < ring.bytes) (fits : ring.data.offset + ring.bytes < wordLimit)
    (buffer : List UInt8) : (ring.checkedRead buffer).run = .ok <$> ring.read buffer := by
  by_cases empty : buffer = []
  · subst empty
    rfl
  rw [read_eq ring empty, checkedRead, if_neg (by simpa using empty)]
  by_cases long : ring.bytes < buffer.length
  · rw [if_pos long, if_pos long]
    rfl
  rw [if_neg long, if_neg long]
  simp only [run_liftM_bind, availableToRead, loadWord_bind, load_bind, pure_bind]
  refine congrArg (Access.load _) (funext fun written => congrArg (Access.load _) (funext fun read => ?_))
  by_cases short : (written - read).toNat < buffer.length
  · simp only [short, ↓reduceIte]
    rfl
  simp only [short, ↓reduceIte, run_liftM_bind, loadWord_bind]
  refine congrArg (Access.load _) (funext fun _ => congrArg (Access.load _) (funext fun position => ?_))
  have covers := ring.covers_transaction position positive (show buffer.length ≤ ring.bytes by omega)
  rw [run_checkedTransaction positive fits, run_checkedCopyOut covers (by omega) (by omega)]
  simp only [Nat.zero_add, run_liftM_bind, commitRead, loadWord_bind, storeWord_bind, load_bind]
  change _ = (ring.copyOut _ _ >>= _) >>= _
  rw [bind_assoc]
  rfl

end Ring

/-! ## Valid queues -/

namespace MessageQueue

open RegionDescriptor Access

/-- A valid queue's ring is the start of its data grantor, which ends at an offset. -/
theorem openRing_data {page : Nat} {request : Nat → MapRequest} {descriptor : RegionDescriptor} {size : Nat}
    {ring : Ring} (h : openRing page request descriptor size = .ok ring) :
    ∃ grantor, descriptor.grantor? dataSlot = some grantor ∧ ring.data.offset = grantor.offset ∧
      ring.bytes = descriptor.ringBytes ∧ descriptor.ringBytes ≤ grantor.extent ∧
      grantor.offset + grantor.extent ≤ maxOffset := by
  obtain ⟨accepted, _, _, _, _, _, mapped, rfl⟩ := openRing_eq_ok h
  obtain ⟨grantor, _, _, slotted, _, _, _, start_eq⟩ := mapSlot_eq_ok mapped
  obtain ⟨_, _, grantor', _, _, slotted', _, _, holds⟩ := accepted.slots
  obtain rfl : grantor' = grantor := Option.some.inj (slotted'.symm.trans slotted)
  refine ⟨grantor', slotted, ?_, rfl, holds, (accepted.fits grantor' (List.mem_of_getElem? slotted)).2⟩
  simp only [start_eq]

/-- **No counter pushes a call of a valid queue outside its ring.** Each of its steps passes its check; a
call that is refused changes nothing, and one that is carried out copies exactly what was asked for,
within the first `ringBytes` bytes of the data grantor, and then moves its own counter on by as much. -/
theorem valid_queue_contained {page : Nat} {request : Nat → MapRequest} {element : ElementType}
    {descriptor : RegionDescriptor} {queue : MessageQueue} {ring : Ring}
    (made : ofDescriptor page request element descriptor = .ok queue) (valid : queue.ring = some ring) :
    (∃ grantor, descriptor.grantor? dataSlot = some grantor ∧ ring.data.offset = grantor.offset ∧
      ring.bytes = descriptor.ringBytes ∧ descriptor.ringBytes ≤ grantor.extent) ∧
    (∀ elements, (ring.checkedWrite (element.encodeAll elements)).run = .ok <$> queue.write elements) ∧
    (∀ elements events wrote, Trace (queue.write elements) events wrote →
      effects events = [] ∧ (wrote = false ∨ elements = []) ∨
        wrote = true ∧ ring.Confined ring.writeCounter .copiedIn (element.encodeAll elements) events) ∧
    (∀ buffer, ((fun result => (result.1, element.decodeAll buffer.length result.2)) <$>
      ring.checkedRead (element.encodeAll buffer)).run = .ok <$> queue.read buffer) ∧
    ∀ buffer events filled elements, Trace (queue.read buffer) events (filled, elements) →
      effects events = [] ∧ elements = element.decodeAll buffer.length (element.encodeAll buffer) ∧
          (filled = false ∨ buffer = []) ∨
        filled = true ∧ ∃ bytes, elements = element.decodeAll buffer.length bytes ∧
          bytes.length = (element.encodeAll buffer).length ∧
          ring.Confined ring.readCounter .copiedOut bytes events := by
  obtain ⟨rfl, -, ring_iff⟩ := ofDescriptor_eq_ok made
  have opened := (ring_iff ring).1 valid
  have accepted := (openRing_eq_ok opened).1
  obtain ⟨grantor, slotted, offset_eq, bytes_eq, holds, ends⟩ := openRing_data opened
  have positive : 0 < ring.bytes := bytes_eq ▸ accepted.ringBytes_pos
  have word : maxOffset < wordLimit := by decide
  have fits : ring.data.offset + ring.bytes < wordLimit := by omega
  have size_pos : 0 < queue.element.size := accepted.size_eq ▸ accepted.size_pos
  have write_eq : ∀ elements, queue.write elements = ring.write (queue.element.encodeAll elements) :=
    fun elements => by rw [MessageQueue.write, valid]
  have read_eq : ∀ buffer, queue.read buffer = ring.read (queue.element.encodeAll buffer) >>= fun result =>
      pure (result.1, queue.element.decodeAll buffer.length result.2) := fun buffer => by
    rw [MessageQueue.read, valid]
  refine ⟨⟨grantor, slotted, offset_eq, bytes_eq, holds⟩, ?_, ?_, ?_, ?_⟩
  · intro elements
    rw [write_eq]
    exact Ring.run_checkedWrite positive fits _
  · intro elements events wrote trace
    rw [write_eq] at trace
    rcases Ring.trace_write positive trace with ⟨nothing, refused⟩ | carried
    · exact .inl ⟨nothing, refused.imp_right (ElementType.encodeAll_eq_nil_iff size_pos).1⟩
    · exact .inr carried
  · intro buffer
    rw [read_eq, ExceptT.run_map, Ring.run_checkedRead positive fits, Functor.map_map]
    simp only [map_eq_pure_bind, bind_assoc, pure_bind]
    rfl
  · intro buffer events filled elements trace
    rw [read_eq] at trace
    obtain ⟨⟨filled', bytes⟩, raw, same⟩ := trace_map trace
    obtain ⟨rfl, rfl⟩ := Prod.mk.inj same
    rcases Ring.trace_read positive raw with ⟨nothing, rfl, refused⟩ | ⟨rfl, length_eq, confined⟩
    · exact .inl ⟨nothing, rfl, refused.imp_right (ElementType.encodeAll_eq_nil_iff size_pos).1⟩
    · exact .inr ⟨rfl, bytes, rfl, length_eq, confined⟩

/-- The write counter changes between the check and the copies, and again before it is stored. -/
theorem valid_queue_contained_under_changes :
    let layout : QueueLayout := { quantumSize := 8, quantumCount := 3, ringBytes := 24 }
    let ring := ringOf (fun _ => 0) (layout.descriptor 3)
    let queue : MessageQueue := { element := .unsigned 8, descriptor := layout.descriptor 3, ring := some ring }
    let events : List Event := [.loaded ring.writeCounter 0, .loaded ring.readCounter 0, .loaded ring.readCounter 7,
      .loaded ring.writeCounter 20, .copiedIn ⟨0, 148⟩ [1, 0, 0, 0],
      .copiedIn ⟨0, 128⟩ [0, 0, 0, 0, 2, 0, 0, 0, 0, 0, 0, 0], .loaded ring.writeCounter (-1),
      .stored ring.writeCounter (-1 + .ofNat 16)]
    Trace (queue.write [.integer 1, .integer 2]) events true ∧
      ring.Confined ring.writeCounter .copiedIn [1, 0, 0, 0, 0, 0, 0, 0, 2, 0, 0, 0, 0, 0, 0, 0] events := by
  intro layout ring queue events
  have made := @ofDescriptor_of_granted pageSize (by decide) _ _ (honest_const 0) (layout.descriptor 3)
    (.unsigned 8) rfl (by decide)
  have trace : Trace (queue.write [.integer 1, .integer 2]) events true :=
    .load 0 (.load 0 (.load 7 (.load 20 (.copyIn (.copyIn (.load (-1) (.store (.done true))))))))
  rcases (valid_queue_contained made rfl).2.2.1 _ _ _ trace with ⟨nothing, _⟩ | ⟨_, confined⟩
  · exact absurd nothing (by simp [events, effects])
  · exact ⟨trace, confined⟩

end MessageQueue

end SharedRing
