import SharedRing.Proofs.Containment
import SharedRing.Proofs.Sessions

/-!
# A layout and the object behind it

The allocating side computes a layout, and whoever opens a queue validates a descriptor; each guards
against overflow in its own way. They agree for all sizes: a layout is refused exactly if its object
would be too long, and the descriptor of one that is not passes for its element size and no other. A
segment's object is as long as its layout, so a queue on it touches only bytes that are there, for as
long as nobody truncates the object (`layout_is_backed`).
-/

namespace SharedRing

/-! ## What a call touches -/

namespace Access

variable {α β : Type} {inside : Event → Prop}

/-- Whatever is loaded, each access of the operation is one of these. -/
def Within (inside : Event → Prop) (operation : Access α) : Prop :=
  ∀ events result, Trace operation events result → ∀ event ∈ events, inside event

theorem within_done (result : α) : Within inside (.done result) := by
  intro events result trace
  cases trace
  exact List.forall_mem_nil _

theorem within_load {place : Address} {next : UInt64 → Access α} (here : ∀ value, inside (.loaded place value))
    (rest : ∀ value, Within inside (next value)) : Within inside (.load place next) := by
  intro events result trace
  obtain _ | ⟨value, trace⟩ := trace
  exact List.forall_mem_cons.2 ⟨here value, rest value _ _ trace⟩

theorem within_store {place : Address} {value : UInt64} {next : Access α} (here : inside (.stored place value))
    (rest : Within inside next) : Within inside (.store place value next) := by
  intro events result trace
  cases trace with
  | store trace => exact List.forall_mem_cons.2 ⟨here, rest _ _ trace⟩

theorem within_copyIn {place : Address} {bytes : List UInt8} {next : Access α}
    (here : inside (.copiedIn place bytes)) (rest : Within inside next) :
    Within inside (.copyIn place bytes next) := by
  intro events result trace
  cases trace with
  | copyIn trace => exact List.forall_mem_cons.2 ⟨here, rest _ _ trace⟩

theorem within_map {operation : Access α} (finish : α → β) (h : Within inside operation) :
    Within inside (operation >>= fun raw => pure (finish raw)) := by
  intro events result trace
  obtain ⟨raw, trace, _⟩ := trace_map trace
  exact h events raw trace

theorem Within.mono {operation : Access α} (h : Within inside operation) {wider : Event → Prop}
    (le : ∀ event, inside event → wider event) : Within wider operation :=
  fun events result trace event member => le event (h events result trace event member)

/-- The bytes of the access lie in the first `length` bytes of the object. -/
def Event.InObject (object length : Nat) : Event → Prop
  | .loaded place _ | .stored place _ => place.object = object ∧ place.offset + counterSize ≤ length
  | .copiedIn place bytes | .copiedOut place bytes => place.object = object ∧ place.offset + bytes.length ≤ length

end Access

namespace Ring

open Access

variable {ring : Ring}

/-- The words that are accessed are the counters, and the bytes that are copied lie within the ring. -/
def Owns (ring : Ring) : Event → Prop
  | .loaded place _ | .stored place _ => place = ring.readCounter ∨ place = ring.writeCounter
  | .copiedIn place bytes | .copiedOut place bytes => ring.Encloses place bytes.length

theorem within_copyIn {α : Type} {p n : Nat} {spans : List Span} (covers : ring.Covers p spans n)
    {source : List UInt8} (length_eq : source.length = n) {next : Nat → Access α}
    (rest : ∀ copied, Within ring.Owns (next copied)) : Within ring.Owns (ring.copyIn spans source >>= next) := by
  intro events result trace
  obtain ⟨copies, after, rfl, enclosed, _, trace⟩ := trace_copyIn covers length_eq trace
  refine List.forall_mem_append.2 ⟨?_, rest n _ _ trace⟩
  intro event member
  obtain ⟨copy, copied, rfl⟩ := List.mem_map.1 member
  exact enclosed copy copied

theorem within_copyOut {α : Type} {p n : Nat} {spans : List Span} (covers : ring.Covers p spans n)
    {buffer : List UInt8} (length_eq : buffer.length = n) {next : Nat × List UInt8 → Access α}
    (rest : ∀ copied, Within ring.Owns (next copied)) : Within ring.Owns (ring.copyOut spans buffer >>= next) := by
  intro events result trace
  obtain ⟨copies, after, rfl, enclosed, _, trace⟩ := trace_copyOut covers length_eq trace
  refine List.forall_mem_append.2 ⟨?_, rest _ _ _ trace⟩
  intro event member
  obtain ⟨copy, copied, rfl⟩ := List.mem_map.1 member
  exact enclosed copy copied

theorem within_availableToRead : Within ring.Owns ring.availableToRead :=
  within_load (fun _ => .inr rfl) fun _ => within_load (fun _ => .inl rfl) fun _ => within_done _

theorem within_availableToWrite : Within ring.Owns ring.availableToWrite :=
  within_map _ within_availableToRead

/-- **A write accesses the counters and the ring, and nothing else.** -/
theorem within_write (positive : 0 < ring.bytes) (source : List UInt8) : Within ring.Owns (ring.write source) := by
  by_cases empty : source = []
  · subst empty
    exact within_done true
  rw [write_eq ring empty]
  refine within_load (fun _ => .inr rfl) fun written => within_load (fun _ => .inl rfl) fun read => ?_
  split
  · exact within_done false
  · rename_i room
    refine within_load (fun _ => .inl rfl) fun _ => within_load (fun _ => .inr rfl) fun position => ?_
    have covers := ring.covers_transaction position positive (show source.length ≤ ring.bytes by omega)
    refine within_copyIn covers rfl fun copied => ?_
    exact within_load (fun _ => .inr rfl) fun _ => within_store (.inr rfl) (within_done _)

/-- **A read accesses the counters and the ring, and nothing else.** -/
theorem within_read (positive : 0 < ring.bytes) (buffer : List UInt8) : Within ring.Owns (ring.read buffer) := by
  by_cases empty : buffer = []
  · subst empty
    exact within_done (true, [])
  rw [read_eq ring empty]
  split
  · exact within_done (false, buffer)
  · rename_i fits
    refine within_load (fun _ => .inr rfl) fun written => within_load (fun _ => .inl rfl) fun read => ?_
    split
    · exact within_done (false, buffer)
    · refine within_load (fun _ => .inr rfl) fun _ => within_load (fun _ => .inl rfl) fun position => ?_
      have covers := ring.covers_transaction position positive (show buffer.length ≤ ring.bytes by omega)
      refine within_copyOut covers rfl fun copied => ?_
      exact within_load (fun _ => .inl rfl) fun _ => within_store (.inl rfl) (within_done _)

end Ring

namespace MessageQueue

open Access

/-- Whatever is loaded, each access of each call of the queue is one of these. -/
structure Touches (queue : MessageQueue) (inside : Event → Prop) : Prop where
  toRead : Within inside queue.availableToRead
  toWrite : Within inside queue.availableToWrite
  write : ∀ elements, Within inside (queue.write elements)
  read : ∀ buffer, Within inside (queue.read buffer)

theorem touches_of_ring {queue : MessageQueue} {ring : Ring} (valid : queue.ring = some ring)
    (positive : 0 < ring.bytes) : queue.Touches ring.Owns := by
  constructor
  case toRead => rw [availableToRead, valid]; exact ring.within_availableToRead
  case toWrite => rw [availableToWrite, valid]; exact ring.within_availableToWrite
  case write =>
    intro elements
    rw [MessageQueue.write, valid]
    exact ring.within_write positive _
  case read =>
    intro buffer
    rw [MessageQueue.read, valid]
    exact within_map _ (ring.within_read positive _)

/-- A queue that is not valid touches nothing. -/
theorem touches_of_invalid {queue : MessageQueue} (invalid : queue.ring = none) (inside : Event → Prop) :
    queue.Touches inside := by
  constructor
  case toRead => rw [availableToRead, invalid]; exact within_done 0
  case toWrite => rw [availableToWrite, invalid]; exact within_done 0
  case write =>
    intro elements
    rw [MessageQueue.write, invalid]
    exact within_done false
  case read =>
    intro buffer
    rw [MessageQueue.read, invalid]
    exact within_done (false, buffer)

theorem Touches.mono {queue : MessageQueue} {inside wider : Event → Prop} (h : queue.Touches inside)
    (le : ∀ event, inside event → wider event) : queue.Touches wider :=
  ⟨h.toRead.mono le, h.toWrite.mono le, fun elements => (h.write elements).mono le,
    fun buffer => (h.read buffer).mono le⟩

end MessageQueue

/-! ## Layouts -/

/-- The slices have no byte in common, if they are of one object. -/
def Grantor.Disjoint (grantor other : Grantor) : Prop :=
  grantor.offset + grantor.extent ≤ other.offset ∨ other.offset + other.extent ≤ grantor.offset

namespace QueueLayout

open RegionDescriptor

variable {quantumSize quantumCount : Nat} {layout : QueueLayout}

/-- The checked product and the checked sum are the exact ones. -/
theorem ringBytes?_eq (quantumSize quantumCount : Nat) : ringBytes? quantumSize quantumCount =
    if quantumSize * quantumCount + dataOffset ≤ maxOffset then some (quantumSize * quantumCount) else none := by
  have word : maxOffset < wordLimit := by decide
  unfold ringBytes? multiplyWords addWords
  generalize quantumSize * quantumCount = bytes
  by_cases small : bytes + dataOffset ≤ maxOffset
  · have sum : bytes + dataOffset < wordLimit := Nat.lt_of_le_of_lt small word
    have product : bytes < wordLimit := Nat.lt_of_le_of_lt (Nat.le_add_right bytes dataOffset) sum
    simp [Except.toOption, Option.filter, product, sum, small]
  · rw [if_neg small]
    by_cases product : bytes < wordLimit
    · by_cases sum : bytes + dataOffset < wordLimit
      · simp [Except.toOption, Option.filter, product, sum, small]
      · simp [Except.toOption, Option.filter, product, sum]
    · simp [Except.toOption, product]

/-- A layout is that of its geometry. -/
theorem ofGeometry_eq_ok_iff : ofGeometry quantumSize quantumCount = .ok layout ↔
    quantumSize ≠ 0 ∧ quantumCount ≠ 0 ∧ quantumSize * quantumCount + dataOffset ≤ maxOffset ∧
      layout = { quantumSize, quantumCount, ringBytes := quantumSize * quantumCount } := by
  rw [ofGeometry, ringBytes?_eq]
  by_cases empty : quantumSize = 0 ∨ quantumCount = 0
  · simp only [empty, ↓reduceIte, reduceCtorEq, false_iff]
    rintro ⟨size, count, _⟩
    exact empty.elim size count
  · rw [if_neg empty]
    rw [not_or] at empty
    by_cases small : quantumSize * quantumCount + dataOffset ≤ maxOffset
    · simp [empty, small, eq_comm]
    · simp [small]

/-- What a layout is like, if there is one. -/
structure Representable (layout : QueueLayout) : Prop where
  size_pos : 0 < layout.quantumSize
  count_pos : 0 < layout.quantumCount
  ringBytes_eq : layout.ringBytes = layout.quantumSize * layout.quantumCount
  total_le : layout.totalSize ≤ maxOffset

theorem representable_of_ofGeometry (h : ofGeometry quantumSize quantumCount = .ok layout) :
    layout.Representable ∧ layout.quantumSize = quantumSize := by
  obtain ⟨size, count, small, rfl⟩ := ofGeometry_eq_ok_iff.1 h
  exact ⟨⟨Nat.pos_of_ne_zero size, Nat.pos_of_ne_zero count, rfl, by rw [totalSize, Nat.add_comm]; exact small⟩, rfl⟩

theorem Representable.ringBytes_lt (h : layout.Representable) : layout.ringBytes < wordLimit := by
  have word : maxOffset < wordLimit := by decide
  have le := h.total_le
  rw [totalSize] at le
  omega

theorem pairwise_disjoint_grantors (layout : QueueLayout) : layout.grantors.Pairwise Grantor.Disjoint := by
  have counters : readCounterOffset + counterSize ≤ writeCounterOffset := by decide
  have read_data : readCounterOffset + counterSize ≤ dataOffset := by decide
  have write_data : writeCounterOffset + counterSize ≤ dataOffset := by decide
  simp [grantors, Grantor.Disjoint, counters, read_data, write_data]

/-- All regions are in the one object of the handle. -/
theorem fdIndex_eq_zero {grantor : Grantor} (member : grantor ∈ layout.grantors) : grantor.fdIndex = 0 := by
  simp only [grantors, List.mem_cons, List.not_mem_nil, or_false] at member
  rcases member with rfl | rfl | rfl <;> rfl

theorem grantor_end_le {grantor : Grantor} (member : grantor ∈ layout.grantors) :
    grantor.offset + grantor.extent ≤ layout.totalSize := by
  have counters : writeCounterOffset + counterSize ≤ dataOffset := by decide
  have first : readCounterOffset + counterSize ≤ dataOffset := by decide
  simp only [grantors, List.mem_cons, List.not_mem_nil, or_false] at member
  rcases member with rfl | rfl | rfl
  · exact Nat.le_add_right_of_le first
  · exact Nat.le_add_right_of_le counters
  · exact Nat.le_refl _

/-- **The descriptor of a layout passes for its element size, and for no other.** -/
theorem validate_descriptor_iff (h : layout.Representable) (fd : Int) (expected : Nat) :
    (layout.descriptor fd).validate expected = .ok () ↔ 0 ≤ fd ∧ expected = layout.quantumSize := by
  rw [validate_eq_ok_iff]
  have handle : (layout.descriptor fd).handle.isValid = true ↔ 0 ≤ fd := by
    simp [descriptor, Handle.isValid]
  constructor
  · intro accepted
    exact ⟨handle.1 accepted.handle, accepted.size_eq.symm⟩
  · rintro ⟨nonneg, rfl⟩
    have bytes_eq : (layout.descriptor fd).ringBytes = layout.ringBytes := h.ringBytes_eq.symm
    constructor
    case handle => exact handle.2 nonneg
    case size_eq => rfl
    case size_pos => exact h.size_pos
    case count_pos => exact h.count_pos
    case bytes_le =>
      rw [bytes_eq]
      exact Nat.le_trans (Nat.le_add_left _ _) h.total_le
    case fits =>
      intro grantor member
      refine ⟨?_, Nat.le_trans (grantor_end_le member) h.total_le⟩
      rw [fdIndex_eq_zero member]
      exact Nat.one_pos
    case slots =>
      exact ⟨_, _, _, rfl, rfl, rfl, ⟨Nat.le_refl _, rfl⟩, ⟨Nat.le_refl _, rfl⟩, Nat.le_of_eq bytes_eq⟩

theorem ringBytes?_descriptor (h : layout.Representable) (fd : Int) :
    (layout.descriptor fd).ringBytes? = some layout.ringBytes := by
  have small := h.ringBytes_lt
  rw [h.ringBytes_eq] at small ⊢
  exact if_pos small

theorem addWords_totalSize (h : layout.Representable) : addWords dataOffset layout.ringBytes = .ok layout.totalSize :=
  if_pos (Nat.lt_of_le_of_lt h.total_le (by decide))

/-! ## The object behind a segment -/

/-- What the ring of a layout's descriptor owns lies within an object that is as long as the layout. -/
theorem inObject_of_owns (h : layout.Representable) {objects : Int → Nat} {fd : Int} {length : Nat}
    (le : layout.totalSize ≤ length) (event : Access.Event)
    (owned : (MessageQueue.ringOf objects (layout.descriptor fd)).Owns event) :
    event.InObject (objects fd) length := by
  have counters : writeCounterOffset + counterSize ≤ dataOffset := by decide
  have first : readCounterOffset + counterSize ≤ dataOffset := by decide
  have bytes_eq := h.ringBytes_eq
  rw [totalSize] at le
  have counter : ∀ place, place = (MessageQueue.ringOf objects (layout.descriptor fd)).readCounter ∨
      place = (MessageQueue.ringOf objects (layout.descriptor fd)).writeCounter →
      place.object = objects fd ∧ place.offset + counterSize ≤ length := by
    rintro place (rfl | rfl)
    · exact ⟨rfl, Nat.le_trans first (by omega)⟩
    · exact ⟨rfl, Nat.le_trans counters (by omega)⟩
  have data : ∀ place count, (MessageQueue.ringOf objects (layout.descriptor fd)).Encloses place count →
      place.object = objects fd ∧ place.offset + count ≤ length := by
    rintro place count ⟨object, _, ends⟩
    change _ ≤ dataOffset + layout.quantumSize * layout.quantumCount at ends
    exact ⟨object, by omega⟩
  cases event with
  | loaded place value => exact counter place owned
  | stored place value => exact counter place owned
  | copiedIn place bytes => exact data place bytes.length owned
  | copiedOut place bytes => exact data place bytes.length owned

/-- **A queue on a layout's descriptor touches only bytes of the object**, if the object is as long as the
layout. -/
theorem touches_inObject (h : layout.Representable) {objects : Int → Nat} {fd : Int} {length : Nat}
    (le : layout.totalSize ≤ length) {page : Nat} {request : Nat → MapRequest}
    (honest : MessageQueue.Honest objects request) {element : ElementType} {queue : MessageQueue}
    (made : MessageQueue.ofDescriptor page request element (layout.descriptor fd) = .ok queue) :
    queue.Touches (Access.Event.InObject (objects fd) length) := by
  obtain ⟨rfl, -, ring_iff⟩ := MessageQueue.ofDescriptor_eq_ok made
  cases valid : queue.ring with
  | none => exact MessageQueue.touches_of_invalid valid _
  | some ring =>
    have opened := (ring_iff ring).1 valid
    have positive := (MessageQueue.openRing_eq_ok opened).1.ringBytes_pos
    obtain rfl := MessageQueue.openRing_eq_ringOf honest opened
    exact (MessageQueue.touches_of_ring valid positive).mono fun event => inObject_of_owns h le event

/-- **The allocating and the consuming side agree on every layout.** A geometry has a layout exactly if it is
not empty and its object's length is an offset. The descriptor of the layout then passes for its element size
and for no other, both sides count the same bytes, and the regions lie apart within the object. Behind every
segment that is returned there is an object of that length, and whoever makes a queue on its descriptor
touches only bytes of the object, until it is truncated. -/
theorem layout_is_backed (quantumSize quantumCount : Nat) :
    ((∃ layout, ofGeometry quantumSize quantumCount = .ok layout) ↔
      quantumSize ≠ 0 ∧ quantumCount ≠ 0 ∧ quantumSize * quantumCount + dataOffset ≤ maxOffset) ∧
    ∀ layout, ofGeometry quantumSize quantumCount = .ok layout →
      (∀ fd expected, (layout.descriptor fd).validate expected = .ok () ↔ 0 ≤ fd ∧ expected = quantumSize) ∧
      (∀ fd, (layout.descriptor fd).ringBytes? = some layout.ringBytes) ∧
      layout.grantors.Pairwise Grantor.Disjoint ∧
      (∀ grantor ∈ layout.grantors, grantor.offset + grantor.extent ≤ layout.totalSize) ∧
      addWords dataOffset layout.ringBytes = .ok layout.totalSize ∧
      ∀ before after segment, QueueSegment.Outcome before (after, .ok segment) → segment.layout = layout →
        ∃ object, after.object? segment.fd = some object ∧ layout.totalSize ≤ after.length object ∧
          ∀ (session : Session) steps, session.system = after → (∀ step ∈ steps, ¬ step.Truncates) →
            ∀ page request objects element queue, MessageQueue.Honest objects request →
              objects segment.fd = object →
              MessageQueue.ofDescriptor page request element segment.descriptor = .ok queue →
              queue.Touches (Access.Event.InObject object ((session.run steps).2.system.length object)) := by
  refine ⟨?_, ?_⟩
  · constructor
    · rintro ⟨layout, made⟩
      obtain ⟨size, count, small, _⟩ := ofGeometry_eq_ok_iff.1 made
      exact ⟨size, count, small⟩
    · rintro ⟨size, count, small⟩
      exact ⟨_, ofGeometry_eq_ok_iff.2 ⟨size, count, small, rfl⟩⟩
  · intro layout made
    obtain ⟨representable, rfl⟩ := representable_of_ofGeometry made
    refine ⟨validate_descriptor_iff representable, ringBytes?_descriptor representable,
      pairwise_disjoint_grantors layout, fun _ member => grantor_end_le member, addWords_totalSize representable, ?_⟩
    rintro before after segment outcome rfl
    rcases outcome.holds_or_undone with ⟨segment', object, same, holds, long⟩ | ⟨⟨error, failed⟩, _⟩
    · obtain rfl := Except.ok.inj same
      refine ⟨object, holds.object?_fd, long, ?_⟩
      rintro session steps rfl kept page request objects element queue honest rfl opened
      have still := session.length_le_run kept (objects segment.fd)
      exact touches_inObject representable (Nat.le_trans long still) honest opened
    · cases failed

/-- A segment of 24 ring bytes that was opened by its name, and a queue that the system made on it: after a
row of steps that leaves the object 200 bytes long, the queue touches nothing beyond. -/
theorem layout_is_backed_when_opened :
    let layout : QueueLayout := ⟨8, 3, 24⟩
    let created := QueueSegment.create .empty true "ring" layout
    let opened := QueueSegment.openNamed created.1 "ring" layout
    let segment : QueueSegment := ⟨"ring", 4, layout, true, false⟩
    let session : Session := ⟨opened.1, [("b", segment)], [], []⟩
    let steps : List Step := [.limit (some 100), .reset "b", .poke "b" 199 [7], .drop "b"]
    opened.2.toOption = some segment ∧ ∃ queue, queue.isValid = true ∧
      MessageQueue.ofDescriptor pageSize (fun _ => opened.1.request) (.unsigned 8) segment.descriptor = .ok queue ∧
      (session.run steps).2.system.length 0 = 200 ∧ queue.Touches (Access.Event.InObject 0 200) := by
  intro layout created opened segment session steps
  have returned : opened.2.toOption = some segment := by decide +kernel
  have long : (session.run steps).2.system.length 0 = 200 := by decide +kernel
  have outcome : QueueSegment.Outcome created.1 (opened.1, .ok segment) := by
    have whole : opened = (opened.1, .ok segment) := Prod.ext rfl (toOption_eq_some_iff.1 returned)
    exact whole ▸ .opened "ring" layout
  obtain ⟨passes, _, _, _, _, backed⟩ := (layout_is_backed 8 3).2 layout rfl
  obtain ⟨object, found, _, touches⟩ := backed created.1 opened.1 segment outcome rfl
  have honest := opened.1.honest_request
  have granted : MessageQueue.Granted pageSize (fun _ => opened.1.request) segment.descriptor := by decide +kernel
  have made := @MessageQueue.ofDescriptor_of_granted pageSize (by decide) _ _ honest segment.descriptor
    (.unsigned 8) ((passes 4 8).2 ⟨by decide, rfl⟩) granted
  obtain rfl : object = 0 := Option.some.inj (found.symm.trans (by decide +kernel))
  refine ⟨returned, _, rfl, made, long, ?_⟩
  have kept : ∀ step ∈ steps, ¬ step.Truncates := by simp [steps, Step.Truncates]
  have zero : opened.1.objects segment.fd = 0 := by decide +kernel
  exact long ▸ touches session steps rfl kept _ _ _ _ _ honest zero made

end QueueLayout

end SharedRing
