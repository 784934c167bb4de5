import SharedRing.Proofs.Items
import SharedRing.Proofs.Opening
import SharedRing.Proofs.Sides

/-!
# A producer and a consumer, access by access

`Exchange.turn` lets one of two sides go on by a single access, in any order. A side may also begin a
call at any time, with any valid queue on the descriptor: if one of its calls is still under way, that
call has stopped for ever and a fresh queue takes its place. A write counts as sent once its counter is
stored, and a read as received likewise.

`Sound` is what every turn keeps (`turn_sound`): the ring streams what is sent and not yet received, and
the two calls under way rest on it. From it come the order of the counters, that the sides never copy at
one place, that a check once passed stays so, and that what is received is what is sent
(`exchange_safe`).
-/

namespace SharedRing

/-- A call under way: the accesses that are left of it. -/
structure Call (α : Type) where
  queue : MessageQueue
  /-- The source of a write, and the buffer of a read. -/
  elements : List Element
  rest : Access α

structure Exchange where
  memory : Memory
  writing : Option (Call Bool)
  reading : Option (Call (Bool × List Element))
  /-- What has been written, oldest first. -/
  sent : List Item
  /-- What has been read, oldest first. -/
  received : List Item

inductive Turn where
  /-- The producer begins a write. -/
  | write (queue : MessageQueue) (elements : List Element)
  /-- The consumer begins a read. -/
  | read (queue : MessageQueue) (buffer : List Element)
  | producer
  | consumer

/-- Of a turn it is asked that queues are valid and elements values of their types. -/
def Turn.Admissible (objects : Int → Nat) (descriptor : RegionDescriptor) : Turn → Prop
  | .write queue elements =>
    MessageQueue.OpenedOn objects descriptor queue ∧ ∀ element ∈ elements, queue.element.Holds element
  | .read queue _ => MessageQueue.OpenedOn objects descriptor queue
  | .producer | .consumer => True

/-- What a turn brings. -/
def Turn.items : Turn → List Item
  | .write queue elements => Item.ofElements queue.element elements
  | .read .. | .producer | .consumer => []

namespace Exchange

open scoped List

def start (memory : Memory) : Exchange := { memory, writing := none, reading := none, sent := [], received := [] }

/-- Go on with a write, and count it in when nothing is left of it. -/
def goOnWriting (exchange : Exchange) (call : Call Bool) : Exchange :=
  match call.rest with
  | .done wrote =>
    { exchange with
      writing := none
      sent := exchange.sent ++ if wrote then Item.ofElements call.queue.element call.elements else [] }
  | _ => { exchange with writing := some call }

/-- Go on with a read, and count it in when nothing is left of it. -/
def goOnReading (exchange : Exchange) (call : Call (Bool × List Element)) : Exchange :=
  match call.rest with
  | .done (filled, elements) =>
    { exchange with
      reading := none
      received := exchange.received ++ if filled then Item.ofElements call.queue.element elements else [] }
  | _ => { exchange with reading := some call }

/-- The producer's next access; without a call under way it passes. -/
def produce (exchange : Exchange) : Exchange :=
  match exchange.writing with
  | none => exchange
  | some call =>
    match call.rest.step? exchange.memory with
    | none => exchange
    | some (rest, memory) => { exchange with memory }.goOnWriting { call with rest }

/-- The consumer's next access; without a call under way it passes. -/
def consume (exchange : Exchange) : Exchange :=
  match exchange.reading with
  | none => exchange
  | some call =>
    match call.rest.step? exchange.memory with
    | none => exchange
    | some (rest, memory) => { exchange with memory }.goOnReading { call with rest }

def turn (exchange : Exchange) : Turn → Exchange
  | .write queue elements => exchange.goOnWriting ⟨queue, elements, queue.write elements⟩
  | .read queue buffer => exchange.goOnReading ⟨queue, buffer, queue.read buffer⟩
  | .producer => exchange.produce
  | .consumer => exchange.consume

theorem produce_cases (exchange : Exchange) :
    exchange.produce = exchange ∨ ∃ call rest memory, exchange.writing = some call ∧
      call.rest.step? exchange.memory = some (rest, memory) ∧
      exchange.produce = { exchange with memory }.goOnWriting { call with rest } := by
  cases found : exchange.writing with
  | none => exact .inl (by simp only [produce, found])
  | some call =>
    cases stepped : call.rest.step? exchange.memory with
    | none => exact .inl (by simp only [produce, found, stepped])
    | some next => exact .inr ⟨call, next.1, next.2, rfl, stepped, by simp only [produce, found, stepped]⟩

theorem consume_cases (exchange : Exchange) :
    exchange.consume = exchange ∨ ∃ call rest memory, exchange.reading = some call ∧
      call.rest.step? exchange.memory = some (rest, memory) ∧
      exchange.consume = { exchange with memory }.goOnReading { call with rest } := by
  cases found : exchange.reading with
  | none => exact .inl (by simp only [consume, found])
  | some call =>
    cases stepped : call.rest.step? exchange.memory with
    | none => exact .inl (by simp only [consume, found, stepped])
    | some next => exact .inr ⟨call, next.1, next.2, rfl, stepped, by simp only [consume, found, stepped]⟩

def run (exchange : Exchange) (turns : List Turn) : Exchange := turns.foldl turn exchange

def filling (exchange : Exchange) : List Address :=
  match exchange.writing with
  | some call => call.rest.fills
  | none => []

def draining (exchange : Exchange) : List Address :=
  match exchange.reading with
  | some call => call.rest.drains
  | none => []

/-! ## What every turn keeps -/

/-- The ring streams what is sent and not yet received, and the calls under way rest on it. -/
structure Sound (ring : Ring) (size : Nat) (exchange : Exchange) (unread : List UInt8) : Prop where
  sent_eq : Item.stream exchange.sent = Item.stream exchange.received ++ unread
  streams : ring.Streams exchange.memory (Item.stream exchange.received).length unread
  fits : ∀ item ∈ exchange.sent ++ exchange.received, item.Fits ∧ item.type.size = size
  writes_on : ∀ call, exchange.writing = some call → call.queue.ring = some ring ∧ call.queue.element.size = size ∧
    ∀ element ∈ call.elements, call.queue.element.Holds element
  writing : ∀ call, exchange.writing = some call →
    ring.Writing exchange.memory (Item.stream exchange.received).length
      ((Item.stream exchange.received).length + unread.length) (call.queue.element.encodeAll call.elements) call.rest
  reads_on : ∀ call, exchange.reading = some call → call.queue.ring = some ring ∧ call.queue.element.size = size
  reading : ∀ call, exchange.reading = some call →
    ring.Reading (Item.stream exchange.received).length unread (call.queue.element.encodeAll call.elements).length
      (call.queue.element.decodeAll call.elements.length) call.rest

theorem start_sound {ring : Ring} {size : Nat} {memory : Memory} (read_zero : memory.word ring.readCounter = 0)
    (write_zero : memory.word ring.writeCounter = 0) : Sound ring size (start memory) [] where
  sent_eq := rfl
  streams := Ring.streams_nil read_zero write_zero
  fits := by simp [start]
  writes_on := nofun
  writing := nofun
  reads_on := nofun
  reading := nofun

section
variable {ring : Ring} {size : Nat} {exchange : Exchange} {unread : List UInt8}

/-- A write that is still under way, or refused. -/
theorem Sound.goOnWriting (h : Sound ring size exchange unread) {memory : Memory}
    (streams : ring.Streams memory (Item.stream exchange.received).length unread) {call : Call Bool}
    (on : call.queue.ring = some ring ∧ call.queue.element.size = size ∧
      ∀ element ∈ call.elements, call.queue.element.Holds element)
    (writing : ring.Writing memory (Item.stream exchange.received).length
      ((Item.stream exchange.received).length + unread.length) (call.queue.element.encodeAll call.elements) call.rest) :
    Sound ring size ({ exchange with memory }.goOnWriting call) unread := by
  unfold Exchange.goOnWriting
  split
  · rename_i wrote finished
    rw [finished] at writing
    obtain ⟨_, _, _, _, _, refused⟩ := writing
    obtain rfl : wrote = false := refused
    simp only [Bool.false_eq_true, ↓reduceIte, List.append_nil]
    exact { h with streams, writes_on := nofun, writing := nofun }
  · refine { h with streams, writes_on := ?_, writing := ?_ }
    · rintro _ ⟨⟩
      exact on
    · rintro _ ⟨⟩
      exact writing

/-- A write that has been carried out. -/
theorem Sound.wrote (h : Sound ring size exchange unread) {memory : Memory} {call : Call Bool}
    (finished : call.rest = .done true) (size_eq : call.queue.element.size = size)
    (holds : ∀ element ∈ call.elements, call.queue.element.Holds element)
    (streams : ring.Streams memory (Item.stream exchange.received).length
      (unread ++ call.queue.element.encodeAll call.elements)) :
    Sound ring size ({ exchange with memory }.goOnWriting call)
      (unread ++ call.queue.element.encodeAll call.elements) := by
  have new : ∀ item ∈ Item.ofElements call.queue.element call.elements, item.Fits ∧ item.type.size = size :=
    fun item member => ⟨Item.fits_ofElements holds item member, Item.size_ofElements size_eq item member⟩
  obtain ⟨old, old'⟩ := List.forall_mem_append.1 h.fits
  simp only [Exchange.goOnWriting, finished, ↓reduceIte]
  refine { h with sent_eq := ?_, streams, fits := ?_, writes_on := nofun, writing := nofun, reading := ?_ }
  · rw [Item.stream_append, Item.stream_ofElements, h.sent_eq, List.append_assoc]
  · exact List.forall_mem_append.2 ⟨List.forall_mem_append.2 ⟨old, new⟩, old'⟩
  · exact fun call found => (h.reading call found).append _

/-- A read that is still under way, or refused. -/
theorem Sound.goOnReading (h : Sound ring size exchange unread) {memory : Memory}
    (streams : ring.Streams memory (Item.stream exchange.received).length unread)
    (kept : ∀ p n, ring.contents memory p n = ring.contents exchange.memory p n)
    {call : Call (Bool × List Element)} (on : call.queue.ring = some ring ∧ call.queue.element.size = size)
    (reading : ring.Reading (Item.stream exchange.received).length unread
      (call.queue.element.encodeAll call.elements).length (call.queue.element.decodeAll call.elements.length) call.rest) :
    Sound ring size ({ exchange with memory }.goOnReading call) unread := by
  have writing := fun other found => (h.writing other found).release (Nat.le_refl _) kept
  unfold Exchange.goOnReading
  split
  · rename_i filled elements finished
    rw [finished] at reading
    obtain ⟨_, _, _, _, refused⟩ := reading
    obtain rfl : filled = false := refused
    simp only [Bool.false_eq_true, ↓reduceIte, List.append_nil]
    exact { h with streams, writing, reads_on := nofun, reading := nofun }
  · refine { h with streams, writing, reads_on := ?_, reading := ?_ }
    · rintro _ ⟨⟩
      exact on
    · rintro _ ⟨⟩
      exact reading

/-- A read that has been carried out. -/
theorem Sound.took (h : Sound ring size exchange unread) {memory : Memory} {call : Call (Bool × List Element)}
    {taken rest : List UInt8} (unread_eq : unread = taken ++ rest)
    (length_eq : taken.length = call.elements.length * call.queue.element.size)
    (finished : call.rest = .done (true, call.queue.element.decodeAll call.elements.length taken))
    (size_eq : call.queue.element.size = size)
    (streams : ring.Streams memory ((Item.stream exchange.received).length + taken.length) rest)
    (kept : ∀ p n, ring.contents memory p n = ring.contents exchange.memory p n) :
    Sound ring size ({ exchange with memory }.goOnReading call) rest := by
  have new : ∀ item ∈ Item.ofElements call.queue.element (call.queue.element.decodeAll call.elements.length taken),
      item.Fits ∧ item.type.size = size := fun item member =>
    ⟨Item.fits_ofElements (ElementType.holds_decodeAll length_eq) item member,
      Item.size_ofElements size_eq item member⟩
  obtain ⟨old, old'⟩ := List.forall_mem_append.1 h.fits
  have stream_eq : Item.stream (exchange.received ++ Item.ofElements call.queue.element
      (call.queue.element.decodeAll call.elements.length taken)) = Item.stream exchange.received ++ taken := by
    rw [Item.stream_append, Item.stream_ofElements, ElementType.encodeAll_decodeAll length_eq]
  simp only [Exchange.goOnReading, finished, ↓reduceIte]
  refine { h with sent_eq := ?_, streams := ?_, fits := ?_, writing := ?_, reads_on := nofun, reading := nofun }
  · rw [stream_eq, h.sent_eq, unread_eq, List.append_assoc]
  · rw [stream_eq, List.length_append]
    exact streams
  · exact List.forall_mem_append.2 ⟨old, List.forall_mem_append.2 ⟨old', new⟩⟩
  · intro other found
    have writing := (h.writing other found).release (Nat.le_add_right _ taken.length) kept
    rw [unread_eq, List.length_append, ← Nat.add_assoc] at writing
    rw [stream_eq, List.length_append]
    exact writing

/-! ## Turns -/

theorem sent_goOnWriting (exchange : Exchange) (call : Call Bool) :
    exchange.sent <+: (exchange.goOnWriting call).sent := by
  unfold Exchange.goOnWriting
  split
  · exact List.prefix_append _ _
  · exact List.prefix_rfl

theorem sent_goOnReading (exchange : Exchange) (call : Call (Bool × List Element)) :
    (exchange.goOnReading call).sent = exchange.sent := by
  unfold Exchange.goOnReading
  split <;> rfl

theorem sent_turn (exchange : Exchange) (turn : Turn) : exchange.sent <+: (exchange.turn turn).sent := by
  cases turn with
  | write queue elements => exact sent_goOnWriting _ _
  | read queue buffer => exact (sent_goOnReading _ _).symm ▸ List.prefix_rfl
  | producer =>
    change _ <+: exchange.produce.sent
    rcases produce_cases exchange with same | ⟨call, rest, memory, _, _, next⟩
    · exact same.symm ▸ List.prefix_rfl
    · rw [next]
      exact sent_goOnWriting { exchange with memory } _
  | consumer =>
    change _ <+: exchange.consume.sent
    rcases consume_cases exchange with same | ⟨call, rest, memory, _, _, next⟩
    · exact same.symm ▸ List.prefix_rfl
    · have sent_eq : exchange.consume.sent = exchange.sent := by rw [next, sent_goOnReading]
      exact sent_eq.symm ▸ List.prefix_rfl

theorem sent_run (exchange : Exchange) (turns : List Turn) : exchange.sent <+: (exchange.run turns).sent := by
  induction turns generalizing exchange with
  | nil => exact List.prefix_rfl
  | cons turn turns ih => exact (sent_turn exchange turn).trans (ih _)

/-- What is sent, and then what the write under way brings. -/
def offered (exchange : Exchange) : List Item :=
  exchange.sent ++ match exchange.writing with
    | some call => Item.ofElements call.queue.element call.elements
    | none => []

theorem offered_goOnWriting (exchange : Exchange) (call : Call Bool) :
    (exchange.goOnWriting call).offered <+ exchange.sent ++ Item.ofElements call.queue.element call.elements := by
  unfold Exchange.goOnWriting
  split
  · simp only [offered, List.append_nil]
    split
    · exact List.Sublist.refl _
    · exact (List.nil_sublist _).append_left _
  · exact List.Sublist.refl _

theorem offered_goOnReading (exchange : Exchange) (call : Call (Bool × List Element)) :
    (exchange.goOnReading call).offered = exchange.offered := by
  unfold Exchange.goOnReading
  split <;> rfl

theorem offered_turn (exchange : Exchange) (turn : Turn) :
    (exchange.turn turn).offered <+ exchange.offered ++ turn.items := by
  cases turn with
  | write queue elements =>
    exact (offered_goOnWriting _ _).trans ((List.sublist_append_left _ _).append_right _)
  | read queue buffer =>
    change (exchange.goOnReading _).offered <+ _
    rw [offered_goOnReading]
    exact List.sublist_append_left _ _
  | producer =>
    change exchange.produce.offered <+ _
    rw [Turn.items, List.append_nil]
    rcases produce_cases exchange with same | ⟨call, rest, memory, found, _, next⟩
    · exact same.symm ▸ List.Sublist.refl _
    · have offers := offered_goOnWriting { exchange with memory } { call with rest }
      rw [next, show exchange.offered = exchange.sent ++ Item.ofElements call.queue.element call.elements by
        rw [offered, found]]
      exact offers
  | consumer =>
    change exchange.consume.offered <+ _
    rw [Turn.items, List.append_nil]
    rcases consume_cases exchange with same | ⟨call, rest, memory, _, _, next⟩
    · exact same.symm ▸ List.Sublist.refl _
    · have offered_eq : exchange.consume.offered = exchange.offered := by
        rw [next, offered_goOnReading]
        rfl
      exact offered_eq.symm ▸ List.Sublist.refl _

/-- What is sent is among what the writes bring, in their order. -/
theorem sent_sublist (exchange : Exchange) (turns : List Turn) :
    (exchange.run turns).sent <+ exchange.offered ++ turns.flatMap Turn.items := by
  have offers : (exchange.run turns).offered <+ exchange.offered ++ turns.flatMap Turn.items := by
    induction turns generalizing exchange with
    | nil => exact List.sublist_append_left _ _
    | cons turn turns ih =>
      rw [List.flatMap_cons, ← List.append_assoc]
      exact (ih _).trans ((offered_turn exchange turn).append_right _)
  exact (List.sublist_append_left _ _).trans offers

theorem Sound.beginWrite (h : Sound ring size exchange unread) (positive : 0 < ring.bytes) {queue : MessageQueue}
    {elements : List Element} (ring_eq : queue.ring = some ring) (size_eq : queue.element.size = size)
    (holds : ∀ element ∈ elements, queue.element.Holds element) :
    ∃ unread', Sound ring size (exchange.turn (.write queue elements)) unread' := by
  have call_eq : queue.write elements = ring.write (queue.element.encodeAll elements) := by
    rw [MessageQueue.write, ring_eq]
  by_cases empty : queue.element.encodeAll elements = []
  · refine ⟨_, @Sound.wrote _ _ _ _ h _ ⟨queue, elements, queue.write elements⟩ ?_ size_eq holds ?_⟩
    · rw [call_eq, empty]
      rfl
    · rw [empty, List.append_nil]
      exact h.streams
  · refine ⟨unread, h.goOnWriting h.streams ⟨ring_eq, size_eq, holds⟩ ?_⟩
    rw [call_eq]
    exact ⟨_, Nat.le_refl _, 0, Nat.zero_le _, rfl, Ring.producing_write positive empty h.streams.small _⟩

theorem Sound.beginRead (h : Sound ring size exchange unread) (positive : 0 < ring.bytes) {queue : MessageQueue}
    (buffer : List Element) (ring_eq : queue.ring = some ring) (size_eq : queue.element.size = size) :
    Sound ring size (exchange.turn (.read queue buffer)) unread := by
  have call_eq : queue.read buffer = ring.read (queue.element.encodeAll buffer) >>= fun result =>
      pure (result.1, queue.element.decodeAll buffer.length result.2) := by
    rw [MessageQueue.read, ring_eq]
  by_cases empty : queue.element.encodeAll buffer = []
  · have none : buffer.length * queue.element.size = 0 := by
      rw [← ElementType.length_encodeAll, empty, List.length_nil]
    refine @Sound.took _ _ _ _ h _ ⟨queue, buffer, queue.read buffer⟩ [] unread rfl none.symm ?_ size_eq h.streams
      fun _ _ => rfl
    rw [call_eq, empty]
    rfl
  · refine h.goOnReading h.streams (fun _ _ => rfl) ⟨ring_eq, size_eq⟩ ?_
    rw [call_eq]
    exact ⟨_, Nat.le_refl _, [], List.nil_prefix, (Ring.consuming_read positive empty _ _).map _⟩

theorem Sound.produce (h : Sound ring size exchange unread) (sep : ring.Separate) (positive : 0 < ring.bytes)
    (small : (Item.stream exchange.produce.sent).length < wordLimit) :
    ∃ unread', Sound ring size exchange.produce unread' := by
  rcases produce_cases exchange with same | ⟨call, rest, memory, found, stepped, next⟩
  · exact ⟨unread, same.symm ▸ h⟩
  obtain ⟨ring_eq, size_eq, holds⟩ := h.writes_on call found
  rw [next] at small ⊢
  rcases (h.writing call found).step sep positive h.streams stepped with ⟨rfl, streams⟩ | ⟨streams, writing⟩
  · have sent_eq : (Item.stream exchange.received).length +
        (unread.length + (call.queue.element.encodeAll call.elements).length) < wordLimit := by
      simp only [Exchange.goOnWriting, ↓reduceIte] at small
      rw [Item.stream_append, Item.stream_ofElements, h.sent_eq, List.length_append, List.length_append] at small
      omega
    exact ⟨_, h.wrote rfl size_eq holds (streams sent_eq)⟩
  · exact ⟨unread, h.goOnWriting streams ⟨ring_eq, size_eq, holds⟩ writing⟩

theorem Sound.consume (h : Sound ring size exchange unread) (sep : ring.Separate) (positive : 0 < ring.bytes) :
    ∃ unread', Sound ring size exchange.consume unread' := by
  rcases consume_cases exchange with same | ⟨call, rest, memory, found, stepped, next⟩
  · exact ⟨unread, same.symm ▸ h⟩
  obtain ⟨ring_eq, size_eq⟩ := h.reads_on call found
  rw [next]
  obtain ⟨kept, ⟨rfl, enough, streams⟩ | ⟨streams, reading⟩⟩ :=
    (h.reading call found).step sep positive h.streams stepped
  · have length_eq := List.length_take_of_le enough
    refine ⟨_, h.took (List.take_append_drop _ unread).symm ?_ rfl size_eq ?_ kept⟩
    · rw [length_eq, ElementType.length_encodeAll]
    · rw [length_eq]
      exact streams
  · exact ⟨unread, h.goOnReading streams kept ⟨ring_eq, size_eq⟩ reading⟩

/-- The counters of a sound exchange count what is received and what is sent. -/
theorem Sound.counters (h : Sound ring size exchange unread) :
    (exchange.memory.word ring.readCounter).toNat = (Item.stream exchange.received).length ∧
      (exchange.memory.word ring.writeCounter).toNat = (Item.stream exchange.sent).length := by
  have small := h.streams.small
  rw [h.streams.read_eq, h.streams.write_eq, Ring.toNat_ofNat_of_small (by omega), Ring.toNat_ofNat_of_small small,
    h.sent_eq, List.length_append]
  exact ⟨rfl, rfl⟩

/-- They are at most a ring apart. -/
theorem Sound.counters_le (h : Sound ring size exchange unread) :
    (exchange.memory.word ring.readCounter).toNat ≤ (exchange.memory.word ring.writeCounter).toNat ∧
      (exchange.memory.word ring.writeCounter).toNat ≤
        (exchange.memory.word ring.readCounter).toNat + ring.bytes := by
  obtain ⟨read_eq, write_eq⟩ := h.counters
  rw [read_eq, write_eq, h.sent_eq, List.length_append]
  exact ⟨Nat.le_add_right _ _, Nat.add_le_add_left h.streams.le _⟩

theorem Sound.disjoint (h : Sound ring size exchange unread) : ∀ place ∈ exchange.filling, place ∉ exchange.draining := by
  intro place filled drained
  match found : exchange.writing, found' : exchange.reading with
  | some write, some read =>
    simp only [filling, draining, found, found'] at filled drained
    exact (h.writing write found).disjoint (h.reading read found') place filled drained
  | none, _ => simp [filling, found] at filled
  | some _, none => simp [draining, found'] at drained

/-- The check that a write has passed would pass again. -/
theorem Sound.room (h : Sound ring size exchange unread) {call : Call Bool} (found : exchange.writing = some call)
    (acts : call.rest.Acts) :
    call.elements.length * size ≤ (call.queue.availableToWrite.run exchange.memory).1 := by
  obtain ⟨ring_eq, size_eq, _⟩ := h.writes_on call found
  have room := (h.writing call found).room acts
  rw [ElementType.length_encodeAll, size_eq] at room
  rw [MessageQueue.availableToWrite, ring_eq, Ring.run_availableToWrite, h.streams.unread_eq]
  simp only
  omega

/-- The check that a read has passed would pass again. -/
theorem Sound.enough (h : Sound ring size exchange unread) {call : Call (Bool × List Element)}
    (found : exchange.reading = some call) (acts : call.rest.Acts) :
    call.elements.length * size ≤ (call.queue.availableToRead.run exchange.memory).1 := by
  obtain ⟨ring_eq, size_eq⟩ := h.reads_on call found
  have enough := (h.reading call found).enough acts
  rw [ElementType.length_encodeAll, size_eq] at enough
  rw [MessageQueue.availableToRead, ring_eq, Ring.run_availableToRead, h.streams.unread_eq]
  exact enough

/-- What is received begins what is sent, item for item if all are of one type. -/
theorem Sound.received_prefix (h : Sound ring size exchange unread) (positive : 0 < size) {type : ElementType}
    (types : ∀ item ∈ exchange.sent ++ exchange.received, item.type = type) : exchange.received <+: exchange.sent := by
  obtain ⟨types, types'⟩ := List.forall_mem_append.1 types
  obtain ⟨fits, fits'⟩ := List.forall_mem_append.1 h.fits
  by_cases empty : exchange.received = []
  · exact empty ▸ List.nil_prefix
  · obtain ⟨first, among⟩ := List.exists_mem_of_ne_nil _ empty
    have size_eq : type.size = size := by rw [← types' first among, (fits' first among).2]
    have streamed : Item.stream exchange.received <+: Item.stream exchange.sent := ⟨unread, h.sent_eq.symm⟩
    exact Item.prefix_of_stream_prefix (size_eq ▸ positive)
      (fun item member => ⟨(fits' item member).1, types' item member⟩)
      (fun item member => ⟨(fits item member).1, types item member⟩) streamed

end

section
open MessageQueue RegionDescriptor

variable {objects : Int → Nat} {descriptor : RegionDescriptor} {size : Nat} {exchange : Exchange}
  {unread : List UInt8}

/-- **One turn.** -/
theorem turn_sound (accepted : Accepted descriptor size) (sep : (ringOf objects descriptor).Separate)
    (h : Sound (ringOf objects descriptor) descriptor.quantumSize exchange unread) {turn : Turn}
    (admissible : turn.Admissible objects descriptor)
    (small : (Item.stream (exchange.turn turn).sent).length < wordLimit) :
    ∃ unread', Sound (ringOf objects descriptor) descriptor.quantumSize (exchange.turn turn) unread' := by
  have positive := (sized_ringOf accepted sep).bytes_pos
  cases turn with
  | write queue elements =>
    obtain ⟨opened, ring_eq⟩ := admissible.1.accepted_and_ring_eq
    exact h.beginWrite positive ring_eq opened.size_eq.symm admissible.2
  | read queue buffer =>
    obtain ⟨opened, ring_eq⟩ := admissible.accepted_and_ring_eq
    exact ⟨unread, h.beginRead positive buffer ring_eq opened.size_eq.symm⟩
  | producer => exact h.produce sep positive small
  | consumer => exact h.consume sep positive

/-- **All turns.** -/
theorem run_sound (accepted : Accepted descriptor size) (sep : (ringOf objects descriptor).Separate)
    (h : Sound (ringOf objects descriptor) descriptor.quantumSize exchange unread) {turns : List Turn}
    (admissible : ∀ turn ∈ turns, turn.Admissible objects descriptor)
    (small : (Item.stream (exchange.run turns).sent).length < wordLimit) :
    ∃ unread', Sound (ringOf objects descriptor) descriptor.quantumSize (exchange.run turns) unread' := by
  induction turns generalizing exchange unread with
  | nil => exact ⟨unread, h⟩
  | cons turn turns ih =>
    have le := Item.length_stream_le (sent_run (exchange.turn turn) turns).sublist
    obtain ⟨unread', next⟩ := turn_sound accepted sep h (admissible turn (by simp)) (Nat.lt_of_le_of_lt le small)
    exact ih next (fun other member => admissible other (List.mem_cons_of_mem turn member)) small

/-- **A producer and a consumer are safe at every point of every interleaving.** The counters count what
is received and what is sent, and are at most a ring apart; the two sides never copy at one place; a
check that a call has passed would pass again when the call copies and when it stores its counter; and
what is received is what was sent, in its order. -/
theorem exchange_safe {descriptor : RegionDescriptor} {size : Nat} (validated : descriptor.validate size = .ok ())
    {objects : Int → Nat} (sep : (ringOf objects descriptor).Separate) {memory : Memory}
    (read_zero : memory.word (ringOf objects descriptor).readCounter = 0)
    (write_zero : memory.word (ringOf objects descriptor).writeCounter = 0) {turns : List Turn}
    (admissible : ∀ turn ∈ turns, turn.Admissible objects descriptor)
    (small : (Item.stream ((start memory).run turns).sent).length < wordLimit) :
    let exchange := (start memory).run turns
    let ring := ringOf objects descriptor
    let read := (exchange.memory.word ring.readCounter).toNat
    let written := (exchange.memory.word ring.writeCounter).toNat
    (read = (Item.stream exchange.received).length ∧ written = (Item.stream exchange.sent).length) ∧
    (read ≤ written ∧ written ≤ read + descriptor.ringBytes) ∧
    (∀ place ∈ exchange.filling, place ∉ exchange.draining) ∧
    (∀ call, exchange.writing = some call → call.rest.Acts →
      call.elements.length * size ≤ (call.queue.availableToWrite.run exchange.memory).1) ∧
    (∀ call, exchange.reading = some call → call.rest.Acts →
      call.elements.length * size ≤ (call.queue.availableToRead.run exchange.memory).1) ∧
    Item.stream exchange.received <+: Item.stream exchange.sent ∧
    ∀ type, (∀ item ∈ exchange.sent ++ exchange.received, item.type = type) →
      exchange.received <+: exchange.sent := by
  intro exchange ring read written
  have accepted := (validate_eq_ok_iff _ _).1 validated
  obtain rfl := accepted.size_eq
  obtain ⟨unread, sound⟩ := run_sound accepted sep (start_sound read_zero write_zero) admissible small
  exact ⟨sound.counters, sound.counters_le, sound.disjoint, fun _ => sound.room, fun _ => sound.enough,
    ⟨unread, sound.sent_eq.symm⟩, fun _ => sound.received_prefix accepted.size_pos⟩

/-- A write is given up before its counter is stored, and a fresh queue writes something else; a read is
under way all the time. -/
theorem exchange_safe_after_stop :
    let layout : QueueLayout := { quantumSize := 8, quantumCount := 3, ringBytes := 24 }
    let ring := ringOf (fun _ => 0) (layout.descriptor 3)
    let queue : MessageQueue := { element := .unsigned 8, descriptor := layout.descriptor 3, ring := some ring }
    let turns := [.read queue [.integer 0], .consumer, .write queue [.integer 1, .integer 2]] ++
      List.replicate 5 .producer ++ [.write queue [.integer 3]] ++ List.replicate 7 .producer ++
      [.consumer, .consumer]
    let exchange := (start .zero).run turns
    Item.stream exchange.received <+: Item.stream exchange.sent ∧
      ∀ place ∈ exchange.filling, place ∉ exchange.draining := by
  intro layout ring queue turns exchange
  have opened : OpenedOn (fun _ => 0) (layout.descriptor 3) queue :=
    @openedOn_of_granted pageSize (by decide) _ _ (honest_const 0) _ _ rfl (by decide)
  have admissible : ∀ turn ∈ turns, turn.Admissible (fun _ => 0) (layout.descriptor 3) := by
    simp [turns, Turn.Admissible, opened, ElementType.Holds, valueCount, queue]
  have small : (Item.stream exchange.sent).length < wordLimit :=
    Nat.lt_of_le_of_lt (Item.length_stream_le (sent_sublist (start .zero) turns)) (by decide)
  have safe := exchange_safe (show (layout.descriptor 3).validate 8 = .ok () from rfl)
    (separate_layout _ layout 3) (Memory.word_zero _) (Memory.word_zero _) admissible small
  exact ⟨safe.2.2.2.2.2.1, safe.2.2.1⟩

end

end Exchange

end SharedRing
