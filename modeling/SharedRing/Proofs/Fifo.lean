import SharedRing.Proofs.Construction
import SharedRing.Proofs.Items
import SharedRing.Proofs.Stream

/-!
# Queues on a descriptor are a bounded first-in-first-out list

Programs make and drop queues on one descriptor and call them, in any order. `Clients.act` is what the
queues do, each call performed on the shared memory; `Fifo.act` is what a list of at most
`quantumCount` items does. Started with zeroed counters, both give the same replies to every row of
actions (`clients_run_eq_fifo_run`): a write appends or is refused, a read removes what is oldest or is
refused, and what is available is the length of the list, and the rest of its capacity.

The relation `Simulates` carries the induction. It holds the list's bytes to be what the ring streams,
and each queue to be on the descriptor's ring or invalid; `act_simulates` is one action.
-/

namespace SharedRing

/-- What a program does with the queues on a descriptor. Each variable that holds a queue has an id, and
`types` gives the element type of its queue. -/
inductive Action where
  /-- `new` of `MessageQueue`. -/
  | new (id : Nat) (request : Nat → MapRequest)
  /-- `try_new`. -/
  | tryNew (id : Nat) (request : Nat → MapRequest)
  | drop (id : Nat)
  | write (id : Nat) (elements : List Element)
  | writeOne (id : Nat) (element : Element)
  | read (id : Nat) (buffer : List Element)
  | readOne (id : Nat) (buffer : Element)
  | available (id : Nat)

inductive Reply where
  | noQueue
  | made (valid : Bool)
  | faulted (fault : Fault)
  | dropped
  | wrote (done : Bool)
  | filled (done : Bool) (buffer : List Element)
  | available (toRead toWrite : Nat)
deriving DecidableEq, Repr

/-- Bind or free an id. -/
def assign {α : Type} (table : Nat → Option α) (id : Nat) (value : Option α) : Nat → Option α :=
  fun other => if other = id then value else table other

/-! ## Queues on shared memory -/

structure Clients where
  memory : Memory
  /-- The queues that there are. -/
  queues : Nat → Option MessageQueue

namespace Clients

def start (memory : Memory) : Clients := ⟨memory, fun _ => none⟩

/-- Call the queue of an id, if there is one. -/
def call {α : Type} (clients : Clients) (id : Nat) (operation : MessageQueue → Access α) (reply : α → Reply) :
    Reply × Clients :=
  match clients.queues id with
  | none => (.noQueue, clients)
  | some queue =>
    let (result, memory) := (operation queue).run clients.memory
    (reply result, { clients with memory })

variable (page : Nat) (types : Nat → ElementType) (descriptor : RegionDescriptor)

def act (clients : Clients) : Action → Reply × Clients
  | .new id request =>
    match MessageQueue.ofDescriptor page request (types id) descriptor with
    | .ok queue => (.made queue.isValid, { clients with queues := assign clients.queues id (some queue) })
    | .error fault => (.faulted fault, clients)
  | .tryNew id request =>
    match MessageQueue.ofDescriptor? page request (types id) descriptor with
    | .ok queue => (.made queue.isValid, { clients with queues := assign clients.queues id (some queue) })
    | .error (.faulted fault) => (.faulted fault, clients)
    | .error (.failed _) => (.made false, clients)
  | .drop id =>
    match clients.queues id with
    | none => (.noQueue, clients)
    | some _ => (.dropped, { clients with queues := assign clients.queues id none })
  | .write id elements => clients.call id (·.write elements) .wrote
  | .writeOne id element => clients.call id (·.writeOne element) .wrote
  | .read id buffer => clients.call id (·.read buffer) fun (done, filled) => .filled done filled
  | .readOne id buffer => clients.call id (·.readOne buffer) fun (done, filled) => .filled done filled
  | .available id =>
    clients.call id (fun queue => do return (← queue.availableToRead, ← queue.availableToWrite))
      fun (toRead, toWrite) => .available toRead toWrite

def run (clients : Clients) : List Action → List Reply × Clients
  | [] => ([], clients)
  | action :: actions =>
    let (reply, next) := clients.act page types descriptor action
    let (replies, last) := next.run actions
    (reply :: replies, last)

end Clients

/-! ## The list -/

structure Fifo where
  queues : Nat → Option Bool
  /-- What is written and not yet read, oldest first. -/
  items : List Item
  /-- The number of items ever written. -/
  written : Nat

namespace Fifo

def empty : Fifo := { queues := fun _ => none, items := [], written := 0 }

/-- Append elements, if all of them have a place. -/
def push (capacity : Nat) (type : ElementType) (elements : List Element) (fifo : Fifo) : Reply × Fifo :=
  if fifo.items.length + elements.length ≤ capacity then
    (.wrote true,
      { fifo with
        items := fifo.items ++ Item.ofElements type elements
        written := fifo.written + elements.length })
  else (.wrote false, fifo)

/-- Remove as many of the oldest items as the buffer has places, if there are so many. -/
def pop (type : ElementType) (buffer : List Element) (fifo : Fifo) : Reply × Fifo :=
  if buffer.length ≤ fifo.items.length then
    (.filled true ((fifo.items.take buffer.length).map (Item.readAs type)),
      { fifo with items := fifo.items.drop buffer.length })
  else (.filled false buffer, fifo)

def call (fifo : Fifo) (id : Nat) (refusal : Reply) (operation : Fifo → Reply × Fifo) : Reply × Fifo :=
  match fifo.queues id with
  | none => (.noQueue, fifo)
  | some false => (refusal, fifo)
  | some true => operation fifo

variable (page : Nat) (types : Nat → ElementType) (descriptor : RegionDescriptor)

/-- A queue is valid if its elements are quanta and the system maps the regions. -/
def opens (id : Nat) (request : Nat → MapRequest) : Bool :=
  (types id).size = descriptor.quantumSize ∧ MessageQueue.Granted page request descriptor

def act (fifo : Fifo) : Action → Reply × Fifo
  | .new id request =>
    let valid := opens page types descriptor id request
    (.made valid, { fifo with queues := assign fifo.queues id (some valid) })
  | .tryNew id request =>
    if opens page types descriptor id request then
      (.made true, { fifo with queues := assign fifo.queues id (some true) })
    else (.made false, fifo)
  | .drop id =>
    match fifo.queues id with
    | none => (.noQueue, fifo)
    | some _ => (.dropped, { fifo with queues := assign fifo.queues id none })
  | .write id elements => fifo.call id (.wrote false) (push descriptor.quantumCount (types id) elements)
  | .writeOne id element => fifo.call id (.wrote false) (push descriptor.quantumCount (types id) [element])
  | .read id buffer => fifo.call id (.filled false buffer) (pop (types id) buffer)
  | .readOne id buffer => fifo.call id (.filled false [buffer]) (pop (types id) [buffer])
  | .available id =>
    fifo.call id (.available 0 0) fun fifo =>
      (.available (fifo.items.length * descriptor.quantumSize)
        ((descriptor.quantumCount - fifo.items.length) * descriptor.quantumSize), fifo)

def run (fifo : Fifo) : List Action → List Reply × Fifo
  | [] => ([], fifo)
  | action :: actions =>
    let (reply, next) := fifo.act page types descriptor action
    let (replies, last) := next.run actions
    (reply :: replies, last)

end Fifo

/-! ## The list in the ring -/

/-- The ring streams the list's items, which are values of one size. -/
structure Stocks (ring : Ring) (size : Nat) (memory : Memory) (fifo : Fifo) : Prop where
  streams : ∃ start, ring.Streams memory start (Item.stream fifo.items) ∧
    start + (Item.stream fifo.items).length = fifo.written * size
  fits : ∀ item ∈ fifo.items, item.Fits
  sizes : ∀ item ∈ fifo.items, item.type.size = size

namespace Stocks

variable {ring : Ring} {size capacity : Nat} {memory : Memory} {fifo : Fifo} {type : ElementType}

/-- A ring with zeroed counters stocks nothing. -/
theorem empty (read_zero : memory.word ring.readCounter = 0) (write_zero : memory.word ring.writeCounter = 0) :
    Stocks ring size memory Fifo.empty :=
  ⟨⟨0, Ring.streams_nil read_zero write_zero, by simp [Item.stream, Fifo.empty]⟩, by simp [Fifo.empty],
    by simp [Fifo.empty]⟩

theorem length_stream (h : Stocks ring size memory fifo) :
    (Item.stream fifo.items).length = fifo.items.length * size :=
  Item.length_stream h.sizes

/-- Bytes have room in the ring exactly if items have room in the list. -/
theorem le_bytes_iff (h : Stocks ring size memory fifo) (sized : ring.Sized size capacity) (count : Nat) :
    (Item.stream fifo.items).length + count * size ≤ ring.bytes ↔ fifo.items.length + count ≤ capacity := by
  rw [h.length_stream, ← Nat.add_mul, sized.bytes_eq, Nat.mul_comm size]
  exact Nat.mul_le_mul_right_iff sized.size_pos

theorem le_capacity (h : Stocks ring size memory fifo) (sized : ring.Sized size capacity) :
    fifo.items.length ≤ capacity := by
  obtain ⟨start, streams, _⟩ := h.streams
  exact (h.le_bytes_iff sized 0).1 (by simpa using streams.le)

/-- **A write is a push.** -/
theorem push (h : Stocks ring size memory fifo) (sized : ring.Sized size capacity) (size_eq : type.size = size)
    {elements : List Element} (holds : ∀ element ∈ elements, type.Holds element)
    (small : (fifo.push capacity type elements).2.written * size < wordLimit) :
    let call := (ring.write (type.encodeAll elements)).run memory
    (fifo.push capacity type elements).1 = .wrote call.1 ∧
      Stocks ring size call.2 (fifo.push capacity type elements).2 := by
  obtain ⟨start, streams, counted⟩ := h.streams
  have room := h.le_bytes_iff sized elements.length
  rw [← size_eq, ← ElementType.length_encodeAll] at room
  unfold Fifo.push at small ⊢
  by_cases fits : fifo.items.length + elements.length ≤ capacity
  · simp only [fits, ↓reduceIte] at small ⊢
    have unwrapped : start + ((Item.stream fifo.items).length + (type.encodeAll elements).length) < wordLimit := by
      rw [← Nat.add_assoc, counted, ElementType.length_encodeAll, size_eq, ← Nat.add_mul]
      exact small
    obtain ⟨after, ran, streams'⟩ := streams.write sized.separate sized.bytes_pos (room.2 fits) unwrapped
    rw [ran]
    refine ⟨rfl, ⟨start, ?_, ?_⟩, ?_, ?_⟩
    · rw [Item.stream_append, Item.stream_ofElements]
      exact streams'
    · rw [Item.stream_append, Item.stream_ofElements, List.length_append, ← Nat.add_assoc, counted,
        ElementType.length_encodeAll, size_eq, Nat.add_mul]
    · exact List.forall_mem_append.2 ⟨h.fits, Item.fits_ofElements holds⟩
    · exact List.forall_mem_append.2 ⟨h.sizes, Item.size_ofElements size_eq⟩
  · simp only [fits, ↓reduceIte]
    rw [streams.write_refused (by omega)]
    exact ⟨rfl, h⟩

/-- **A read is a pop.** -/
theorem pop (h : Stocks ring size memory fifo) (sized : ring.Sized size capacity) (size_eq : type.size = size)
    {buffer : List Element} (holds : ∀ element ∈ buffer, type.Holds element) :
    let call := (ring.read (type.encodeAll buffer)).run memory
    (fifo.pop type buffer).1 = .filled call.1.1 (type.decodeAll buffer.length call.1.2) ∧
      Stocks ring size call.2 (fifo.pop type buffer).2 := by
  obtain ⟨start, streams, counted⟩ := h.streams
  have length_eq := h.length_stream
  have bytes_eq := ElementType.length_encodeAll type buffer
  rw [size_eq] at bytes_eq
  unfold Fifo.pop
  by_cases enough : buffer.length ≤ fifo.items.length
  · simp only [enough, ↓reduceIte]
    have there : (type.encodeAll buffer).length ≤ (Item.stream fifo.items).length := by
      rw [bytes_eq, length_eq]
      exact Nat.mul_le_mul_right size enough
    obtain ⟨after, ran, streams'⟩ := streams.read sized.separate sized.bytes_pos there
    rw [bytes_eq, Item.stream_take h.sizes] at ran
    rw [bytes_eq, Item.stream_drop h.sizes] at streams'
    rw [ran]
    refine ⟨?_, ⟨_, streams', ?_⟩, ?_, ?_⟩
    · have fits : ∀ item ∈ fifo.items.take buffer.length, item.Fits := fun item member =>
        h.fits item (List.mem_of_mem_take member)
      have sizes : ∀ item ∈ fifo.items.take buffer.length, item.type.size = type.size := fun item member =>
        size_eq ▸ h.sizes item (List.mem_of_mem_take member)
      have decoded := Item.decodeAll_stream sizes fits
      rw [List.length_take, Nat.min_eq_left enough] at decoded
      rw [decoded]
    · rw [← counted, ← Item.stream_drop h.sizes, List.length_drop]
      omega
    · exact fun item member => h.fits item (List.mem_of_mem_drop member)
    · exact fun item member => h.sizes item (List.mem_of_mem_drop member)
  · simp only [enough, ↓reduceIte]
    have short : (Item.stream fifo.items).length < (type.encodeAll buffer).length := by
      rw [bytes_eq, length_eq]
      exact Nat.mul_lt_mul_of_pos_right (by omega) sized.size_pos
    rw [streams.read_refused short, ElementType.decodeAll_encodeAll holds]
    exact ⟨rfl, h⟩

theorem with_queues (h : Stocks ring size memory fifo) (queues : Nat → Option Bool) :
    Stocks ring size memory { fifo with queues } :=
  ⟨h.streams, h.fits, h.sizes⟩

/-- What is available is the list's length, and the rest of its capacity. -/
theorem available (h : Stocks ring size memory fifo) (sized : ring.Sized size capacity) :
    ring.unread memory = fifo.items.length * size ∧
      ring.bytes - fifo.items.length * size = (capacity - fifo.items.length) * size := by
  obtain ⟨start, streams, _⟩ := h.streams
  rw [streams.unread_eq, h.length_stream, sized.bytes_eq, Nat.sub_mul, Nat.mul_comm size]
  exact ⟨rfl, rfl⟩

end Stocks

/-! ## Queues and the list -/

/-- What the list knows of a queue: that there is one of its type, and that it is on the ring or
invalid. -/
def Mirrors (ring : Ring) (size : Nat) (type : ElementType) : Option MessageQueue → Option Bool → Prop
  | none, none => True
  | some queue, some true => queue.element = type ∧ type.size = size ∧ queue.ring = some ring
  | some queue, some false => queue.ring = none
  | _, _ => False

/-- The queues on shared memory are at the list. -/
structure Simulates (ring : Ring) (size : Nat) (types : Nat → ElementType) (clients : Clients) (fifo : Fifo) :
    Prop where
  queues : ∀ id, Mirrors ring size (types id) (clients.queues id) (fifo.queues id)
  stocks : Stocks ring size clients.memory fifo

/-- What is asked of an action: the system is honest, and the elements are values of the queue's type. -/
def Action.Admissible (objects : Int → Nat) (types : Nat → ElementType) : Action → Prop
  | .new _ request | .tryNew _ request => MessageQueue.Honest objects request
  | .write id elements => ∀ element ∈ elements, (types id).Holds element
  | .read id buffer => ∀ element ∈ buffer, (types id).Holds element
  | .writeOne id element | .readOne id element => (types id).Holds element
  | .drop _ | .available _ => True

section
variable {ring : Ring} {size : Nat} {types : Nat → ElementType} {clients : Clients} {fifo : Fifo}

theorem mirrors_assign {table : Nat → Option MessageQueue} {table' : Nat → Option Bool}
    (h : ∀ id, Mirrors ring size (types id) (table id) (table' id)) {id : Nat} {queue : Option MessageQueue}
    {valid : Option Bool} (new : Mirrors ring size (types id) queue valid) (other : Nat) :
    Mirrors ring size (types other) (assign table id queue other) (assign table' id valid other) := by
  unfold assign
  by_cases same : other = id
  · subst same
    simpa using new
  · simpa [same] using h other

/-- A call of a queue is a call of the list, if it is one on the ring. -/
theorem call_simulates {α : Type} (h : Simulates ring size types clients fifo) (id : Nat)
    {operation : MessageQueue → Access α} {reply : α → Reply} {refusal : Reply} {next : Fifo → Reply × Fifo}
    (refused : ∀ queue, queue.ring = none → ∃ result, operation queue = pure result ∧ reply result = refusal)
    (carried : ∀ queue, fifo.queues id = some true → queue.element = types id → (types id).size = size →
      queue.ring = some ring → (next fifo).1 = reply ((operation queue).run clients.memory).1 ∧
        Stocks ring size ((operation queue).run clients.memory).2 (next fifo).2 ∧
        (next fifo).2.queues = fifo.queues) :
    (clients.call id operation reply).1 = (fifo.call id refusal next).1 ∧
      Simulates ring size types (clients.call id operation reply).2 (fifo.call id refusal next).2 := by
  have mirrors := h.queues id
  unfold Clients.call Fifo.call
  match found : clients.queues id, found' : fifo.queues id, mirrors with
  | none, none, _ => exact ⟨rfl, h⟩
  | some queue, some false, invalid =>
    obtain ⟨result, done, reply_eq⟩ := refused queue invalid
    simp only [done, Access.run_pure]
    exact ⟨reply_eq, h⟩
  | some queue, some true, ⟨element_eq, size_eq, ring_eq⟩ =>
    obtain ⟨reply_eq, stocks, queues_eq⟩ := carried queue found' element_eq size_eq ring_eq
    exact ⟨reply_eq.symm, fun other => queues_eq ▸ h.queues other, stocks⟩

theorem push_queues (capacity : Nat) (type : ElementType) (elements : List Element) (fifo : Fifo) :
    (fifo.push capacity type elements).2.queues = fifo.queues := by
  unfold Fifo.push
  split <;> rfl

theorem pop_queues (type : ElementType) (buffer : List Element) (fifo : Fifo) :
    (fifo.pop type buffer).2.queues = fifo.queues := by
  unfold Fifo.pop
  split <;> rfl

theorem write_simulates {capacity : Nat} (sized : ring.Sized size capacity)
    (h : Simulates ring size types clients fifo) (id : Nat) {elements : List Element}
    (holds : ∀ element ∈ elements, (types id).Holds element)
    (small : (fifo.call id (.wrote false) (Fifo.push capacity (types id) elements)).2.written * size < wordLimit) :
    let next := fifo.call id (.wrote false) (Fifo.push capacity (types id) elements)
    (clients.call id (·.write elements) .wrote).1 = next.1 ∧
      Simulates ring size types (clients.call id (·.write elements) .wrote).2 next.2 := by
  refine call_simulates h id (fun queue invalid => ⟨false, ?_, rfl⟩)
    fun queue valid element_eq size_eq ring_eq => ?_
  · simp [MessageQueue.write, invalid]
  · rw [Fifo.call, valid] at small
    obtain ⟨reply_eq, stocks⟩ := h.stocks.push sized size_eq holds small
    rw [MessageQueue.write, ring_eq, element_eq]
    exact ⟨reply_eq, stocks, push_queues _ _ _ _⟩

theorem read_simulates {capacity : Nat} (sized : ring.Sized size capacity)
    (h : Simulates ring size types clients fifo) (id : Nat) {buffer : List Element}
    (holds : ∀ element ∈ buffer, (types id).Holds element) :
    let next := fifo.call id (.filled false buffer) (Fifo.pop (types id) buffer)
    let call := clients.call id (·.read buffer) fun (done, filled) => .filled done filled
    call.1 = next.1 ∧ Simulates ring size types call.2 next.2 := by
  refine call_simulates h id (fun queue invalid => ⟨(false, buffer), ?_, rfl⟩)
    fun queue _ element_eq size_eq ring_eq => ?_
  · simp [MessageQueue.read, invalid]
  · obtain ⟨reply_eq, stocks⟩ := h.stocks.pop sized size_eq holds
    rw [MessageQueue.read, ring_eq, element_eq]
    simp only [Access.run_bind, Access.run_pure]
    exact ⟨reply_eq, stocks, pop_queues _ _ _⟩

theorem available_simulates {capacity : Nat} (sized : ring.Sized size capacity)
    (h : Simulates ring size types clients fifo) (id : Nat) :
    let next := fifo.call id (.available 0 0) fun fifo =>
      (.available (fifo.items.length * size) ((capacity - fifo.items.length) * size), fifo)
    let call := clients.call id (fun queue => do return (← queue.availableToRead, ← queue.availableToWrite))
      fun (toRead, toWrite) => .available toRead toWrite
    call.1 = next.1 ∧ Simulates ring size types call.2 next.2 := by
  refine call_simulates h id (fun queue invalid => ⟨(0, 0), ?_, rfl⟩) fun queue _ _ _ ring_eq => ?_
  · simp only [MessageQueue.availableToRead, MessageQueue.availableToWrite, invalid]
    rfl
  · obtain ⟨toRead, toWrite⟩ := h.stocks.available sized
    simp only [MessageQueue.availableToRead, MessageQueue.availableToWrite, ring_eq, Access.run_bind, Access.run_pure,
      Ring.run_availableToRead, Ring.run_availableToWrite, toRead, toWrite]
    exact ⟨trivial, h.stocks, trivial⟩

end

section
open RegionDescriptor MessageQueue

variable {page : Nat} {types : Nat → ElementType} {descriptor : RegionDescriptor} {objects : Int → Nat} {size : Nat}

/-- A new queue is on the ring or invalid, as the list says. -/
theorem ofDescriptor_mirrors (aligned : counterSize ∣ page) (accepted : Accepted descriptor size) {id : Nat}
    {request : Nat → MapRequest} (honest : Honest objects request) {queue : MessageQueue}
    (made : ofDescriptor page request (types id) descriptor = .ok queue) :
    Mirrors (ringOf objects descriptor) descriptor.quantumSize (types id) (some queue)
      (some (Fifo.opens page types descriptor id request)) ∧
    queue.isValid = Fifo.opens page types descriptor id request := by
  obtain ⟨element_eq, -, ring_iff⟩ := ofDescriptor_eq_ok made
  by_cases opens : (types id).size = descriptor.quantumSize ∧ Granted page request descriptor
  · have fitting : Accepted descriptor (types id).size := { accepted with size_eq := opens.1.symm }
    have ring_eq := (ring_iff _).2 ((openRing_eq_ok_iff aligned honest).2 ⟨fitting, opens.2, rfl⟩)
    simp only [Fifo.opens, opens, isValid, ring_eq]
    exact ⟨⟨element_eq, opens.1, ring_eq⟩, rfl⟩
  · have ring_eq : queue.ring = none := by
      cases found : queue.ring with
      | none => rfl
      | some ring =>
        obtain ⟨fitting, granted, _⟩ := (openRing_eq_ok_iff aligned honest).1 ((ring_iff ring).1 found)
        exact absurd ⟨fitting.size_eq.symm, granted⟩ opens
    simp only [Fifo.opens, opens, isValid, ring_eq]
    exact ⟨ring_eq, rfl⟩

/-- **One action.** -/
theorem act_simulates (aligned : counterSize ∣ page) (positive : 0 < page) (accepted : Accepted descriptor size)
    (sep : (ringOf objects descriptor).Separate) {clients : Clients} {fifo : Fifo}
    (h : Simulates (ringOf objects descriptor) descriptor.quantumSize types clients fifo) {action : Action}
    (admissible : action.Admissible objects types)
    (small : (fifo.act page types descriptor action).2.written * descriptor.quantumSize < wordLimit) :
    (clients.act page types descriptor action).1 = (fifo.act page types descriptor action).1 ∧
      Simulates (ringOf objects descriptor) descriptor.quantumSize types
        (clients.act page types descriptor action).2 (fifo.act page types descriptor action).2 := by
  have sized := sized_ringOf accepted sep
  cases action with
  | new id request =>
    obtain ⟨queue, made⟩ := exists_ofDescriptor_eq_ok aligned positive request (types id) descriptor
    obtain ⟨mirrors, valid_eq⟩ := ofDescriptor_mirrors aligned accepted admissible made
    simp only [Clients.act, Fifo.act, made]
    exact ⟨by rw [valid_eq], mirrors_assign h.queues mirrors, h.stocks.with_queues _⟩
  | tryNew id request =>
    obtain ⟨queue, made⟩ := exists_ofDescriptor_eq_ok aligned positive request (types id) descriptor
    obtain ⟨mirrors, valid_eq⟩ := ofDescriptor_mirrors aligned accepted admissible made
    rw [← valid_eq] at mirrors
    simp only [Clients.act, Fifo.act, ← valid_eq]
    cases valid : queue.isValid with
    | true =>
      rw [valid] at mirrors
      rw [ofDescriptor?_eq_ok_iff.2 ⟨made, valid⟩]
      exact ⟨by simp [valid], mirrors_assign h.queues mirrors, h.stocks.with_queues _⟩
    | false =>
      obtain ⟨error, reported⟩ := ofDescriptor?_eq_failed made valid
      rw [reported]
      exact ⟨rfl, h⟩
  | drop id =>
    have mirrors := h.queues id
    simp only [Clients.act, Fifo.act]
    match found : clients.queues id, found' : fifo.queues id, mirrors with
    | none, none, _ => exact ⟨rfl, h⟩
    | some _, some _, _ => exact ⟨rfl, mirrors_assign h.queues trivial, h.stocks.with_queues _⟩
  | write id elements => exact write_simulates sized h id admissible small
  | writeOne id element => exact write_simulates sized h id (List.forall_mem_singleton.2 admissible) small
  | read id buffer => exact read_simulates sized h id admissible
  | readOne id buffer => exact read_simulates sized h id (List.forall_mem_singleton.2 admissible)
  | available id => exact available_simulates sized h id

/-! ## Rows of actions -/

theorem written_le_call {fifo : Fifo} {next : Fifo → Reply × Fifo} (le : fifo.written ≤ (next fifo).2.written)
    (id : Nat) (refusal : Reply) : fifo.written ≤ (fifo.call id refusal next).2.written := by
  unfold Fifo.call
  split
  · exact Nat.le_refl _
  · exact Nat.le_refl _
  · exact le

theorem written_le_push (capacity : Nat) (type : ElementType) (elements : List Element) (fifo : Fifo) :
    fifo.written ≤ (fifo.push capacity type elements).2.written := by
  unfold Fifo.push
  split
  · exact Nat.le_add_right _ _
  · exact Nat.le_refl _

theorem written_le_pop (type : ElementType) (buffer : List Element) (fifo : Fifo) :
    fifo.written ≤ (fifo.pop type buffer).2.written := by
  unfold Fifo.pop
  split <;> exact Nat.le_refl _

/-- The number of items ever written does not go down. -/
theorem written_le_act (fifo : Fifo) (action : Action) :
    fifo.written ≤ (fifo.act page types descriptor action).2.written := by
  cases action with
  | new id request => exact Nat.le_refl _
  | tryNew id request =>
    unfold Fifo.act
    simp only
    split <;> exact Nat.le_refl _
  | drop id =>
    unfold Fifo.act
    simp only
    split <;> exact Nat.le_refl _
  | write id elements => exact written_le_call (written_le_push _ _ _ _) id _
  | writeOne id element => exact written_le_call (written_le_push _ _ _ _) id _
  | read id buffer => exact written_le_call (written_le_pop _ _ _) id _
  | readOne id buffer => exact written_le_call (written_le_pop _ _ _) id _
  | available id => exact written_le_call (Nat.le_refl _) id _

theorem written_le_run (fifo : Fifo) (actions : List Action) :
    fifo.written ≤ (fifo.run page types descriptor actions).2.written := by
  induction actions generalizing fifo with
  | nil => exact Nat.le_refl _
  | cons action actions ih => exact Nat.le_trans (written_le_act fifo action) (ih _)

/-- **A row of actions.** -/
theorem run_simulates (aligned : counterSize ∣ page) (positive : 0 < page) (accepted : Accepted descriptor size)
    (sep : (ringOf objects descriptor).Separate) {clients : Clients} {fifo : Fifo}
    (h : Simulates (ringOf objects descriptor) descriptor.quantumSize types clients fifo) {actions : List Action}
    (admissible : ∀ action ∈ actions, action.Admissible objects types)
    (small : (fifo.run page types descriptor actions).2.written * descriptor.quantumSize < wordLimit) :
    (clients.run page types descriptor actions).1 = (fifo.run page types descriptor actions).1 ∧
      Simulates (ringOf objects descriptor) descriptor.quantumSize types
        (clients.run page types descriptor actions).2 (fifo.run page types descriptor actions).2 := by
  induction actions generalizing clients fifo with
  | nil => exact ⟨rfl, h⟩
  | cons action actions ih =>
    have le := @written_le_run page types descriptor (fifo.act page types descriptor action).2 actions
    have small' := Nat.lt_of_le_of_lt (Nat.mul_le_mul_right descriptor.quantumSize le) small
    obtain ⟨reply_eq, next⟩ := act_simulates aligned positive accepted sep h (admissible action (by simp)) small'
    obtain ⟨replies_eq, last⟩ :=
      ih next (fun other member => admissible other (List.mem_cons_of_mem action member)) small
    refine ⟨?_, last⟩
    simp only [Clients.run, Fifo.run, reply_eq, replies_eq]

/-- Zeroed counters and no queues yet simulate the empty list. -/
theorem start_simulates {memory : Memory} (read_zero : memory.word (ringOf objects descriptor).readCounter = 0)
    (write_zero : memory.word (ringOf objects descriptor).writeCounter = 0) :
    Simulates (ringOf objects descriptor) size types (Clients.start memory) Fifo.empty :=
  ⟨fun _ => trivial, .empty read_zero write_zero⟩

/-- **The queues on a descriptor are a list of at most `quantumCount` items.** Whatever a row of actions
does, each of its replies is the list's, and at its end a valid queue has as much to read as the list
holds, and room for the rest. -/
theorem clients_run_eq_fifo_run {page : Nat} (aligned : counterSize ∣ page) (positive : 0 < page)
    {descriptor : RegionDescriptor} {size : Nat} (validated : descriptor.validate size = .ok ())
    {objects : Int → Nat} (sep : (ringOf objects descriptor).Separate) {memory : Memory}
    (read_zero : memory.word (ringOf objects descriptor).readCounter = 0)
    (write_zero : memory.word (ringOf objects descriptor).writeCounter = 0) {types : Nat → ElementType}
    {actions : List Action} (admissible : ∀ action ∈ actions, action.Admissible objects types)
    (small : (Fifo.empty.run page types descriptor actions).2.written * size < wordLimit) :
    let clients := (Clients.start memory).run page types descriptor actions
    let fifo := Fifo.empty.run page types descriptor actions
    clients.1 = fifo.1 ∧ fifo.2.items.length ≤ descriptor.quantumCount ∧
      ∀ id queue, clients.2.queues id = some queue → queue.isValid = true →
        (queue.availableToRead.run clients.2.memory).1 = fifo.2.items.length * size ∧
        (queue.availableToWrite.run clients.2.memory).1 =
          (descriptor.quantumCount - fifo.2.items.length) * size := by
  have accepted := (validate_eq_ok_iff _ _).1 validated
  obtain rfl := accepted.size_eq
  have sized := sized_ringOf accepted sep
  obtain ⟨replies_eq, last⟩ := run_simulates aligned positive accepted sep
    (start_simulates read_zero write_zero) admissible small
  refine ⟨replies_eq, last.stocks.le_capacity sized, fun id queue found valid => ?_⟩
  have mirrors := last.queues id
  rw [found] at mirrors
  have ring_eq : queue.ring = some (ringOf objects descriptor) := by
    match known : (Fifo.empty.run page types descriptor actions).2.queues id, mirrors with
    | some true, mirrors => exact mirrors.2.2
    | some false, invalid => simp [isValid, show queue.ring = none from invalid] at valid
  obtain ⟨toRead, toWrite⟩ := last.stocks.available sized
  simp only [MessageQueue.availableToRead, MessageQueue.availableToWrite, ring_eq, Ring.run_availableToRead,
    Ring.run_availableToWrite, toRead, toWrite]
  exact ⟨trivial, trivial⟩

/-- Two queues of words on a ring of three: the second write goes around the ring's end, and the third
is refused. -/
theorem clients_run_around_end :
    let layout : QueueLayout := { quantumSize := 8, quantumCount := 3, ringBytes := 24 }
    let request : Nat → MapRequest := fun _ _ _ => .ok 0
    ((Clients.start .zero).run pageSize (fun _ => .unsigned 8) (layout.descriptor 3)
      [.new 0 request, .write 0 [.integer 1, .integer 2], .tryNew 1 request, .readOne 1 (.integer 0),
        .write 0 [.integer 3, .integer 4], .writeOne 1 (.integer 5), .drop 0,
        .read 1 [.integer 0, .integer 0, .integer 0], .available 1]).1 =
      [.made true, .wrote true, .made true, .filled true [.integer 1], .wrote true, .wrote false, .dropped,
        .filled true [.integer 2, .integer 3, .integer 4], .available 0 24] := by
  intro layout request
  have honest : Honest (fun _ => 0) request := honest_const 0
  have validated : (layout.descriptor 3).validate 8 = .ok () := rfl
  have sep := separate_layout (fun _ => 0) layout 3
  refine (clients_run_eq_fifo_run (by decide) (by decide) validated sep (Memory.word_zero _) (Memory.word_zero _) ?_
    (by decide +kernel)).1.trans (by decide +kernel)
  simp [Action.Admissible, honest, ElementType.Holds, valueCount]

end

end SharedRing
