import SharedRing.Proofs.Creations
import SharedRing.Proofs.Fifo
import SharedRing.Proofs.Layouts
import SharedRing.Proofs.Wraparound

/-!
# Channels between two segments of one name

One party creates a named segment and another opens it, each with a layout of its own. Opening compares the object's
length with what its layout needs, and nothing else, so the layouts that get in are exactly those that are not longer
than the one the object was made for (`openNamed_isOk_iff`).

Queues on the two segments share their counters and their first cells, but each ring starts again where its own layout
ends. Until a position reaches the shorter end, they agree on every cell, and a producer on one segment and a consumer
on the other are a list (`run_eq_listRun`). What is written next goes to one cell and is looked for in another
(`exists_strayed`); a consumer whose ring is the shorter one gets the first element again (`run_first_again`). So with
layouts of one length the two are a list until the counters wrap, and with others up to the shorter end, where a read
goes astray (`opened_channel_is_list_up_to_shorter_end`). What was written on the creator's segment before the other
one was opened is in the list from the start.
-/

namespace SharedRing

/-! ## Rings at one place -/

namespace Ring

/-- The same places with another length. -/
def withBytes (ring : Ring) (bytes : Nat) : Ring := { ring with bytes }

variable {ring : Ring} {memory : Memory}

/-- Positions before both ends stand for the same cells. -/
theorem cell_withBytes {bytes position : Nat} (below : position < ring.bytes) (below' : position < bytes) :
    (ring.withBytes bytes).cell position = ring.cell position := by
  simp only [cell, withBytes, Nat.mod_eq_of_lt below, Nat.mod_eq_of_lt below']

theorem contents_withBytes {bytes p n : Nat} (inside : p + n ≤ ring.bytes) (inside' : p + n ≤ bytes) :
    (ring.withBytes bytes).contents memory p n = ring.contents memory p n := by
  apply List.map_congr_left
  intro i member
  have below := List.mem_range.1 member
  rw [cell_withBytes (by omega) (by omega)]

theorem Streams.withBytes {start bytes : Nat} {stream : List UInt8} (h : ring.Streams memory start stream)
    (inside : start + stream.length ≤ ring.bytes) (inside' : start + stream.length ≤ bytes) :
    (ring.withBytes bytes).Streams memory start stream := by
  refine ⟨h.read_eq, h.write_eq, h.small, Nat.le_of_add_left_le inside', ?_⟩
  rw [contents_withBytes inside inside', h.contents_eq]

/-- One quantum past the end of the shorter ring, that one starts again and the longer one goes on. -/
theorem mod_ne_mod_of_longer {size count count' i j : Nat} (positive : 0 < count) (longer : count < count')
    (hi : i < size) (hj : j < size) : (count * size + i) % (size * count) ≠ (count * size + j) % (size * count') := by
  have whole : size ≤ size * count := Nat.le_mul_of_pos_right size positive
  have next : size * count + size ≤ size * count' := by
    rw [← Nat.mul_succ]
    exact Nat.mul_le_mul_left size longer
  rw [Nat.mul_comm count size, Nat.add_mod_left, Nat.mod_eq_of_lt (by omega), Nat.mod_eq_of_lt (by omega)]
  omega

/-- The quantum past the shorter end is in one place for the one ring and in another for the other. -/
theorem cell_withBytes_ne {size capacity capacity' i j : Nat} (sized : ring.Sized size capacity)
    (positive : 0 < capacity') (differ : capacity ≠ capacity') (hi : i < size) (hj : j < size) :
    (ring.withBytes (size * capacity')).cell (min capacity capacity' * size + i) ≠
      ring.cell (min capacity capacity' * size + j) := by
  intro same
  simp only [cell, withBytes, sized.bytes_eq, Address.mk.injEq, true_and, Nat.add_left_cancel_iff] at same
  rcases Nat.lt_or_gt_of_ne differ with longer | shorter
  · rw [Nat.min_eq_left (Nat.le_of_lt longer)] at same
    exact mod_ne_mod_of_longer sized.count_pos longer hj hi same.symm
  · rw [Nat.min_eq_right (Nat.le_of_lt shorter)] at same
    exact mod_ne_mod_of_longer positive shorter hi hj same

/-- So a quantum that the one puts there leaves the place where the other one looks. -/
theorem Wrote.contents_withBytes {size capacity capacity' : Nat} (sized : ring.Sized size capacity)
    (sized' : (ring.withBytes (size * capacity')).Sized size capacity') (differ : capacity ≠ capacity')
    {after : Memory} {source : List UInt8} (wrote : ring.Wrote memory after source) (length_eq : source.length = size)
    (at_end : (memory.word ring.writeCounter).toNat = min capacity capacity' * size) :
    (ring.withBytes (size * capacity')).contents after (min capacity capacity' * size) size =
      (ring.withBytes (size * capacity')).contents memory (min capacity capacity' * size) size := by
  apply contents_congr
  intro i hi
  apply wrote.others
  · intro j hj
    exact (sized'.separate.cell_ne_write sized'.bytes_pos hj _).symm
  · intro j hj
    rw [at_end]
    exact cell_withBytes_ne sized sized'.count_pos differ hi (length_eq ▸ hj)

end Ring

/-- What a ring stocks is stocked by one of another length, too, as long as it has not reached either end. -/
theorem Stocks.withBytes {ring : Ring} {size bytes : Nat} {memory : Memory} {fifo : Fifo}
    (h : Stocks ring size memory fifo)
    (agree : ring.bytes = bytes ∨ fifo.written * size ≤ ring.bytes ∧ fifo.written * size ≤ bytes) :
    Stocks (ring.withBytes bytes) size memory fifo := by
  rcases agree with rfl | ⟨inside, inside'⟩
  · exact h
  · obtain ⟨start, streams, counted⟩ := h.streams
    rw [← counted] at inside inside'
    exact ⟨⟨start, streams.withBytes inside inside', counted⟩, h.fits, h.sizes⟩

/-- What a layout's ring stocks is stocked in every memory with the same bytes of its object. -/
theorem Stocks.of_byte_eq {layout : QueueLayout} {object size : Nat} {memory after : Memory} {fifo : Fifo}
    (h : Stocks (layout.ring object) size memory fifo)
    (byte_eq : ∀ place, place.object = object → after.byte place = memory.byte place) :
    Stocks (layout.ring object) size after fifo := by
  obtain ⟨start, streams, counted⟩ := h.streams
  have word_eq : ∀ offset, after.word ⟨object, offset⟩ = memory.word ⟨object, offset⟩ := fun offset =>
    Memory.word_congr fun i _ => byte_eq _ rfl
  refine ⟨⟨start, ⟨?_, ?_, streams.small, streams.le, ?_⟩, counted⟩, h.fits, h.sizes⟩
  · exact (word_eq _).trans streams.read_eq
  · exact (word_eq _).trans streams.write_eq
  · exact (Ring.contents_congr fun i _ => byte_eq _ rfl).trans streams.contents_eq

theorem Stocks.length_le_written {ring : Ring} {size : Nat} {memory : Memory} {fifo : Fifo}
    (h : Stocks ring size memory fifo) (positive : 0 < size) : fifo.items.length ≤ fifo.written := by
  obtain ⟨start, _, counted⟩ := h.streams
  rw [h.length_stream] at counted
  exact Nat.le_of_mul_le_mul_right (Nat.le_of_add_left_le (Nat.le_of_eq counted)) positive

theorem ElementType.holds_zero (type : ElementType) : type.Holds type.zero := by
  cases type with
  | unsigned width => exact ⟨Int.le_refl 0, by exact_mod_cast valueCount_pos width⟩
  | signed width =>
    have positive := valueCount_pos width
    constructor <;> omega
  | bytes count => exact List.length_replicate

/-! ## A producer and a consumer -/

/-- A producer's queue and a consumer's. -/
structure Channel where
  producer : MessageQueue
  consumer : MessageQueue

namespace Channel

inductive Use where
  | write (elements : List Element)
  | read (buffer : List Element)

def Admits (channel : Channel) : Use → Prop
  | .write elements => ∀ element ∈ elements, channel.producer.element.Holds element
  | .read buffer => ∀ element ∈ buffer, channel.consumer.element.Holds element

def use (channel : Channel) : Use → Access Reply
  | .write elements => return .wrote (← channel.producer.write elements)
  | .read buffer => do
    let (done, filled) ← channel.consumer.read buffer
    return .filled done filled

def run (channel : Channel) : List Use → Access (List Reply)
  | [] => return []
  | use :: uses => return (← channel.use use) :: (← channel.run uses)

/-- The call of a list with the producer's capacity. -/
def listUse (channel : Channel) (fifo : Fifo) : Use → Reply × Fifo
  | .write elements => fifo.push channel.producer.descriptor.quantumCount channel.producer.element elements
  | .read buffer => fifo.pop channel.consumer.element buffer

def listRun (channel : Channel) (fifo : Fifo) : List Use → List Reply × Fifo
  | [] => ([], fifo)
  | use :: uses =>
    let (reply, next) := channel.listUse fifo use
    let (replies, last) := channel.listRun next uses
    (reply :: replies, last)

/-- As long as at most `limit` elements are written in all, each reply is that of the list. -/
def IsListUpTo (channel : Channel) (memory : Memory) (fifo : Fifo) (limit : Nat) : Prop :=
  ∀ uses, (∀ use ∈ uses, channel.Admits use) → (channel.listRun fifo uses).2.written ≤ limit →
    ((channel.run uses).run memory).1 = (channel.listRun fifo uses).1

/-- With one more element written than `limit`, a read can be given other elements than the list's, when all replies
before it were the list's. -/
def StraysAfter (channel : Channel) (memory : Memory) (fifo : Fifo) (limit : Nat) : Prop :=
  ∃ uses buffer replies given next, (∀ use ∈ uses ++ [.read buffer], channel.Admits use) ∧
    (channel.listRun fifo (uses ++ [.read buffer])).2.written = limit + 1 ∧
    ((channel.run (uses ++ [.read buffer])).run memory).1 = replies ++ [.filled true given] ∧
    (channel.listRun fifo (uses ++ [.read buffer])).1 = replies ++ [.filled true next] ∧ given ≠ next

variable {channel : Channel} {ring : Ring} {size capacity capacity' : Nat} {memory : Memory} {fifo : Fifo}

theorem run_append (channel : Channel) (front back : List Use) (memory : Memory) :
    ((channel.run (front ++ back)).run memory).1 = ((channel.run front).run memory).1 ++
      ((channel.run back).run ((channel.run front).run memory).2).1 := by
  induction front generalizing memory with
  | nil => rfl
  | cons use front ih =>
    simp only [List.cons_append, run, Access.run_bind, Access.run_pure, ih]

theorem listRun_append (channel : Channel) (front back : List Use) (fifo : Fifo) :
    channel.listRun fifo (front ++ back) =
      ((channel.listRun fifo front).1 ++ (channel.listRun (channel.listRun fifo front).2 back).1,
        (channel.listRun (channel.listRun fifo front).2 back).2) := by
  induction front generalizing fifo with
  | nil => rfl
  | cons use front ih => simp only [List.cons_append, listRun, ih]

theorem written_le_listUse (channel : Channel) (fifo : Fifo) (use : Use) :
    fifo.written ≤ (channel.listUse fifo use).2.written := by
  cases use with
  | write elements => exact written_le_push _ _ _ _
  | read buffer => exact written_le_pop _ _ _

theorem written_le_listRun (channel : Channel) (fifo : Fifo) (uses : List Use) :
    fifo.written ≤ (channel.listRun fifo uses).2.written := by
  induction uses generalizing fifo with
  | nil => exact Nat.le_refl _
  | cons use uses ih => exact Nat.le_trans (channel.written_le_listUse fifo use) (ih _)

/-- The queues are on rings at one place, which hold `capacity` quanta for the producer and `capacity'` for the
consumer. -/
structure Links (channel : Channel) (ring : Ring) (size capacity capacity' : Nat) : Prop where
  producer_ring : channel.producer.ring = some ring
  consumer_ring : channel.consumer.ring = some (ring.withBytes (size * capacity'))
  producer_size : channel.producer.element.size = size
  consumer_size : channel.consumer.element.size = size
  count_eq : channel.producer.descriptor.quantumCount = capacity
  sized : ring.Sized size capacity
  sized' : (ring.withBytes (size * capacity')).Sized size capacity'
  bytes_lt : ring.bytes < wordLimit

theorem Links.lt_wordLimit (links : channel.Links ring size capacity capacity') {written : Nat}
    (le : written ≤ min capacity capacity') : written * size < wordLimit := by
  have inside := Nat.mul_le_mul_left size (Nat.le_trans le (Nat.min_le_left _ _))
  rw [← links.sized.bytes_eq, Nat.mul_comm size] at inside
  exact Nat.lt_of_le_of_lt inside links.bytes_lt

theorem Links.length_written (links : channel.Links ring size capacity capacity') (elements : List Element) :
    (channel.producer.element.encodeAll elements).length = elements.length * size := by
  rw [ElementType.length_encodeAll, links.producer_size]

theorem Links.length_asked (links : channel.Links ring size capacity capacity') (buffer : List Element) :
    (channel.consumer.element.encodeAll buffer).length = buffer.length * size := by
  rw [ElementType.length_encodeAll, links.consumer_size]

/-! ## Before the shorter end -/

/-- The rings are the same, or the shorter one has not been filled once. -/
def Agree (capacity capacity' written : Nat) : Prop := capacity = capacity' ∨ written ≤ min capacity capacity'

theorem Agree.symm {written : Nat} (h : Agree capacity capacity' written) : Agree capacity' capacity written :=
  h.imp Eq.symm fun inside => Nat.min_comm capacity capacity' ▸ inside

theorem Agree.mono {written written' : Nat} (h : Agree capacity capacity' written') (le : written ≤ written') :
    Agree capacity capacity' written := h.imp_right (Nat.le_trans le)

theorem Agree.bytes {written : Nat} (h : Agree capacity capacity' written) (size : Nat) :
    size * capacity = size * capacity' ∨ written * size ≤ size * capacity ∧ written * size ≤ size * capacity' := by
  rcases h with rfl | inside
  · exact .inl rfl
  · obtain ⟨le, le'⟩ := Nat.le_min.1 inside
    rw [Nat.mul_comm written]
    exact .inr ⟨Nat.mul_le_mul_left size le, Nat.mul_le_mul_left size le'⟩

/-- **A call of the channel is one of the list**, before the shorter end. -/
theorem use_eq_listUse (links : channel.Links ring size capacity capacity') (h : Stocks ring size memory fifo)
    {use : Use} (admits : channel.Admits use)
    (agree : Agree capacity capacity' (channel.listUse fifo use).2.written)
    (small : (channel.listUse fifo use).2.written * size < wordLimit) :
    ((channel.use use).run memory).1 = (channel.listUse fifo use).1 ∧
      Stocks ring size ((channel.use use).run memory).2 (channel.listUse fifo use).2 := by
  have bytes_eq := links.sized.bytes_eq
  cases use with
  | write elements =>
    simp only [listUse, links.count_eq] at small ⊢
    obtain ⟨reply_eq, stocks⟩ := h.push links.sized links.producer_size admits small
    simp only [Channel.use, MessageQueue.write, links.producer_ring, Access.run_bind, Access.run_pure]
    exact ⟨reply_eq.symm, stocks⟩
  | read buffer =>
    -- the list is in the consumer's ring before the read, and in the producer's after it
    have before := agree.mono (written_le_pop channel.consumer.element buffer fifo)
    have stocked : Stocks (ring.withBytes (size * capacity')) size memory fifo := by
      apply h.withBytes
      rw [bytes_eq]
      exact before.bytes size
    obtain ⟨reply_eq, stocks⟩ := stocked.pop links.sized' links.consumer_size admits
    have back := @Stocks.withBytes _ _ ring.bytes _ _ stocks (by
      rw [bytes_eq, links.sized'.bytes_eq]
      exact (agree.bytes size).imp Eq.symm And.symm)
    simp only [Channel.use, MessageQueue.read, links.consumer_ring, Access.run_bind, Access.run_pure]
    exact ⟨reply_eq.symm, back⟩

/-- **A row of calls of the channel is one of the list**, before the shorter end. -/
theorem run_eq_listRun (links : channel.Links ring size capacity capacity') (h : Stocks ring size memory fifo)
    {uses : List Use} (admits : ∀ use ∈ uses, channel.Admits use)
    (agree : Agree capacity capacity' (channel.listRun fifo uses).2.written)
    (small : (channel.listRun fifo uses).2.written * size < wordLimit) :
    ((channel.run uses).run memory).1 = (channel.listRun fifo uses).1 ∧
      Stocks ring size ((channel.run uses).run memory).2 (channel.listRun fifo uses).2 := by
  induction uses generalizing memory fifo with
  | nil => exact ⟨rfl, h⟩
  | cons use uses ih =>
    have le := channel.written_le_listRun (channel.listUse fifo use).2 uses
    obtain ⟨reply_eq, next⟩ := use_eq_listUse links h (admits use List.mem_cons_self) (agree.mono le)
      (Nat.lt_of_le_of_lt (Nat.mul_le_mul_right size le) small)
    obtain ⟨replies_eq, last⟩ := ih next (fun other member => admits other (List.mem_cons_of_mem use member)) agree small
    simp only [run, listRun, Access.run_bind, Access.run_pure, reply_eq, replies_eq]
    exact ⟨trivial, last⟩

/-! ## Past the shorter end -/

/-- One element past the shorter end, the consumer is given what stood in its own cell before. -/
theorem run_past_end (links : channel.Links ring size capacity capacity') (differ : capacity ≠ capacity')
    (streams : ring.Streams memory (min capacity capacity' * size) []) (element buffer : Element) :
    ((channel.run [.write [element], .read [buffer]]).run memory).1 =
      [.wrote true, .filled true (channel.consumer.element.decodeAll 1
        ((ring.withBytes (size * capacity')).contents memory (min capacity capacity' * size) size))] := by
  have size_le : size ≤ ring.bytes := by
    rw [links.sized.bytes_eq]
    exact Nat.le_mul_of_pos_right size links.sized.count_pos
  have size_le' : size ≤ (ring.withBytes (size * capacity')).bytes :=
    Nat.le_mul_of_pos_right size links.sized'.count_pos
  have source_length := (links.length_written [element]).trans (Nat.one_mul size)
  have buffer_length := (links.length_asked [buffer]).trans (Nat.one_mul size)
  obtain ⟨after, wrote_eq, wrote⟩ := @Ring.run_write ring links.sized.separate links.sized.bytes_pos memory
    (channel.producer.element.encodeAll [element]) (by rw [streams.unread_eq, source_length]; exact size_le)
  have read_eq : after.word ring.readCounter = .ofNat (min capacity capacity' * size) :=
    wrote.read_eq.trans streams.read_eq
  have unread_eq : (ring.withBytes (size * capacity')).unread after = size := by
    change (after.word ring.writeCounter - after.word ring.readCounter).toNat = size
    rw [wrote.write_eq, streams.write_eq, read_eq, List.length_nil, Nat.add_zero, source_length, ← UInt64.ofNat_add]
    exact Ring.toNat_ofNat_add_sub _ (Nat.lt_of_le_of_lt size_le links.bytes_lt)
  obtain ⟨last, took_eq, -⟩ := @Ring.run_read _ links.sized'.separate links.sized'.bytes_pos after
    (channel.consumer.element.encodeAll [buffer]) (by rw [buffer_length]; exact size_le')
    (by rw [buffer_length, unread_eq])
  -- the producer's cells are not the consumer's
  have small := Ring.toNat_ofNat_of_small (Nat.lt_of_le_of_lt (Nat.le_add_right _ _) streams.small)
  have kept := wrote.contents_withBytes links.sized links.sized' differ source_length
    ((congrArg UInt64.toNat streams.write_eq).trans small)
  have position : (after.word (ring.withBytes (size * capacity')).readCounter).toNat = min capacity capacity' * size :=
    (congrArg UInt64.toNat read_eq).trans small
  rw [position, buffer_length, kept] at took_eq
  simp only [run, use, MessageQueue.write, MessageQueue.read, links.producer_ring, links.consumer_ring,
    Access.run_bind, Access.run_pure, wrote_eq, took_eq, List.length_singleton]

theorem listRun_past_end (links : channel.Links ring size capacity capacity') (empty : fifo.items = [])
    {element : Element} (holds : channel.producer.element.Holds element) (buffer : Element) :
    (channel.listRun fifo [.write [element], .read [buffer]]).1 =
      [.wrote true, .filled true (channel.consumer.element.decodeAll 1 (channel.producer.element.encode element))] := by
  have room : 1 ≤ channel.producer.descriptor.quantumCount := links.count_eq ▸ links.sized.count_pos
  have item := @Item.decode_bytes ⟨channel.producer.element, element⟩ holds channel.consumer.element
  have whole : (channel.producer.element.encode element).take channel.consumer.element.size =
      channel.producer.element.encode element := by
    apply List.take_of_length_le
    rw [ElementType.length_encode, links.producer_size, links.consumer_size]
  simp only [Item.bytes] at item
  simp [listRun, listUse, Fifo.push, Fifo.pop, empty, room, Item.ofElements, ElementType.decodeAll, whole, item]

theorem written_past_end (links : channel.Links ring size capacity capacity') (empty : fifo.items = [])
    (element buffer : Element) :
    (channel.listRun fifo [.write [element], .read [buffer]]).2.written = fifo.written + 1 := by
  have room : 1 ≤ channel.producer.descriptor.quantumCount := links.count_eq ▸ links.sized.count_pos
  simp [listRun, listUse, Fifo.push, Fifo.pop, empty, room, Item.ofElements]

theorem exists_byte_ne (byte : UInt8) : ∃ other : UInt8, other ≠ byte := by
  by_cases zero : byte = 0
  · exact ⟨1, by rw [zero]; decide⟩
  · exact ⟨0, Ne.symm zero⟩

/-- **What is written past the shorter end goes astray**: there is an element that the consumer does not get. -/
theorem exists_strayed (links : channel.Links ring size capacity capacity') (differ : capacity ≠ capacity')
    (h : Stocks ring size memory fifo) (empty : fifo.items = []) (at_end : fifo.written = min capacity capacity')
    (buffer : Element) :
    ∃ element given next, channel.producer.element.Holds element ∧
      ((channel.run [.write [element], .read [buffer]]).run memory).1 = [.wrote true, .filled true given] ∧
      (channel.listRun fifo [.write [element], .read [buffer]]).1 = [.wrote true, .filled true next] ∧ given ≠ next := by
  obtain ⟨start, streams, counted⟩ := h.streams
  rw [empty, show Item.stream [] = [] from rfl] at streams
  rw [empty, show Item.stream [] = [] from rfl, List.length_nil, Nat.add_zero, at_end] at counted
  subst counted
  -- the element's bytes differ from what stands where the consumer looks
  obtain ⟨mark, new⟩ := exists_byte_ne
    (memory.byte ((ring.withBytes (size * capacity')).cell (min capacity capacity' * size)))
  have length_eq : (List.replicate size mark).length = channel.producer.element.size := by
    rw [List.length_replicate, links.producer_size]
  have holds := ElementType.holds_decode length_eq
  refine ⟨_, _, _, holds, run_past_end links differ streams _ buffer, listRun_past_end links empty holds buffer, ?_⟩
  rw [ElementType.encode_decode length_eq]
  intro same
  rw [ElementType.decodeAll_inj (by simp [links.consumer_size]) (by simp [links.consumer_size])] at same
  have first := congrArg (·.getD 0 0) same
  simp only [Ring.contents, List.getD_eq_getElem?_getD, List.getElem?_map, List.getElem?_range links.sized.size_pos,
    List.getElem?_replicate, links.sized.size_pos, ↓reduceIte, Option.map_some, Option.getD_some, Nat.add_zero] at first
  exact new first.symm

/-- What fills the shorter ring of the consumer stays in its cells after it has been read. -/
theorem exists_drained (links : channel.Links ring size capacity capacity') (shorter : capacity' ≤ capacity)
    (read_zero : memory.word ring.readCounter = 0) (write_zero : memory.word ring.writeCounter = 0)
    {elements buffer : List Element} (whole : elements.length = capacity') (asked : buffer.length = capacity') :
    ∃ drained, (channel.run [.write elements, .read buffer]).run memory = ([.wrote true,
        .filled true (channel.consumer.element.decodeAll capacity' (channel.producer.element.encodeAll elements))],
        drained) ∧
      ring.Streams drained (capacity' * size) [] ∧
      (ring.withBytes (size * capacity')).contents drained 0 (capacity' * size) =
        channel.producer.element.encodeAll elements := by
  have small : capacity' * size < wordLimit := links.lt_wordLimit (Nat.le_min.2 ⟨shorter, Nat.le_refl capacity'⟩)
  have source_length := whole ▸ links.length_written elements
  have buffer_length := asked ▸ links.length_asked buffer
  have inside : capacity' * size ≤ ring.bytes := by
    rw [links.sized.bytes_eq, Nat.mul_comm]
    exact Nat.mul_le_mul_left size shorter
  have inside' : capacity' * size ≤ size * capacity' := Nat.le_of_eq (Nat.mul_comm _ _)
  obtain ⟨filled, write_ran, wrote⟩ := @Ring.run_write ring links.sized.separate links.sized.bytes_pos memory
    (channel.producer.element.encodeAll elements) (by rw [source_length, Ring.unread, read_zero, write_zero]; exact inside)
  have read_eq : filled.word ring.readCounter = 0 := wrote.read_eq.trans read_zero
  have write_eq : filled.word ring.writeCounter = .ofNat (capacity' * size) := by
    rw [wrote.write_eq, write_zero, source_length, UInt64.zero_add]
  -- what the producer has put is where the consumer looks
  have put : (ring.withBytes (size * capacity')).contents filled 0 (capacity' * size) =
      channel.producer.element.encodeAll elements := by
    have put := wrote.contents_eq
    rw [write_zero, source_length] at put
    rw [Ring.contents_withBytes (by rwa [Nat.zero_add]) (by rwa [Nat.zero_add])]
    exact put
  have unread_eq : (ring.withBytes (size * capacity')).unread filled = capacity' * size := by
    change (filled.word ring.writeCounter - filled.word ring.readCounter).toNat = _
    rw [read_eq, write_eq, UInt64.sub_zero, Ring.toNat_ofNat_of_small small]
  obtain ⟨drained, read_ran, took⟩ := @Ring.run_read _ links.sized'.separate links.sized'.bytes_pos filled
    (channel.consumer.element.encodeAll buffer) (by rw [buffer_length]; exact inside') (by rw [buffer_length, unread_eq])
  have position : (filled.word (ring.withBytes (size * capacity')).readCounter).toNat = 0 := congrArg UInt64.toNat read_eq
  have moved : drained.word ring.readCounter = filled.word ring.readCounter + .ofNat (capacity' * size) :=
    buffer_length ▸ took.read_eq
  rw [read_eq, UInt64.zero_add] at moved
  rw [position, buffer_length, put] at read_ran
  refine ⟨drained, ?_, ⟨moved, took.write_eq.trans write_eq, small, Nat.zero_le _, rfl⟩, ?_⟩
  · simp only [run, use, MessageQueue.write, MessageQueue.read, links.producer_ring, links.consumer_ring,
      Access.run_bind, Access.run_pure, write_ran, read_ran, asked]
  · rw [took.contents_eq links.sized'.separate links.sized'.bytes_pos, put]

/-- A consumer whose ring is the shorter one gets the first element again, whatever is written behind the others. -/
theorem run_first_again (links : channel.Links ring size capacity capacity') (shorter : capacity' < capacity)
    (read_zero : memory.word ring.readCounter = 0) (write_zero : memory.word ring.writeCounter = 0)
    {elements buffer : List Element} (whole : elements.length = capacity') (asked : buffer.length = capacity')
    (element blank : Element) :
    ((channel.run ([.write elements, .read buffer] ++ [.write [element], .read [blank]])).run memory).1 =
      [.wrote true,
        .filled true (channel.consumer.element.decodeAll capacity' (channel.producer.element.encodeAll elements)),
        .wrote true, .filled true (channel.consumer.element.decodeAll 1 (channel.producer.element.encodeAll elements))] := by
  obtain ⟨drained, ran, streams, kept⟩ := exists_drained links (Nat.le_of_lt shorter) read_zero write_zero whole asked
  have at_end : min capacity capacity' = capacity' := Nat.min_eq_right (Nat.le_of_lt shorter)
  have past := run_past_end links (Nat.ne_of_gt shorter) (at_end.symm ▸ streams) element blank
  -- one quantum past its end the consumer is back at its first cells
  have around : capacity' * size % (ring.withBytes (size * capacity')).bytes =
      0 % (ring.withBytes (size * capacity')).bytes := by
    rw [Nat.mul_comm, Nat.zero_mod]
    exact Nat.mod_self _
  have first : (ring.withBytes (size * capacity')).contents drained 0 size =
      (channel.producer.element.encodeAll elements).take size := by
    have split : capacity' * size = size + (capacity' - 1) * size := by
      rw [Nat.sub_mul, Nat.one_mul, Nat.add_sub_cancel' (Nat.le_mul_of_pos_left size links.sized'.count_pos)]
    rw [← kept, split, Ring.contents_add, List.take_left' (Ring.length_contents _ _ _ _)]
  rw [run_append, ran, past, at_end, Ring.contents_of_mod_eq drained around, first]
  simp only [ElementType.decodeAll, links.consumer_size, List.take_take, Nat.min_self, List.cons_append, List.nil_append]

/-! ## The whole row -/

/-- A channel with the same ring on both sides is a list. -/
theorem isListUpTo_of_eq (links : channel.Links ring size capacity capacity)
    (stocked : fifo.written * size < wordLimit → Stocks ring size memory fifo) {limit : Nat}
    (small : limit * size < wordLimit) : channel.IsListUpTo memory fifo limit := by
  intro uses admits written_le
  have inside := Nat.lt_of_le_of_lt (Nat.mul_le_mul_right size written_le) small
  have before := Nat.mul_le_mul_right size (channel.written_le_listRun fifo uses)
  exact (run_eq_listRun links (stocked (Nat.lt_of_le_of_lt before inside)) admits (.inl rfl) inside).1

/-- The calls that write up to the shorter end and leave nothing unread. -/
def fillUpTo (channel : Channel) (fifo : Fifo) (count : Nat) : List Use :=
  [.write (List.replicate (count - fifo.written) channel.producer.element.zero),
    .read (List.replicate (fifo.items.length + (count - fifo.written)) channel.consumer.element.zero)]

theorem admits_fillUpTo (channel : Channel) (fifo : Fifo) (count : Nat) :
    ∀ use ∈ channel.fillUpTo fifo count, channel.Admits use := by
  have holds : ∀ (type : ElementType) (n : Nat), ∀ element ∈ List.replicate n type.zero, type.Holds element := by
    intro type n element member
    rw [List.eq_of_mem_replicate member]
    exact type.holds_zero
  simp only [fillUpTo, List.forall_mem_cons, Admits]
  exact ⟨holds _ _, holds _ _, fun _ none => nomatch none⟩

theorem listRun_fillUpTo {count : Nat} (reached : fifo.written ≤ count)
    (room : fifo.items.length + (count - fifo.written) ≤ channel.producer.descriptor.quantumCount) :
    (channel.listRun fifo (channel.fillUpTo fifo count)).2 = { fifo with items := [], written := count } := by
  have whole : (fifo.items ++ Item.ofElements channel.producer.element
      (List.replicate (count - fifo.written) channel.producer.element.zero)).length =
      fifo.items.length + (count - fifo.written) := by
    rw [List.length_append, Item.ofElements, List.length_map, List.length_replicate]
  simp only [fillUpTo, listRun, listUse, Fifo.push, Fifo.pop, List.length_replicate, room, ↓reduceIte, whole,
    Nat.le_refl, Nat.add_sub_cancel' reached, List.drop_of_length_le (Nat.le_of_eq whole)]

theorem straysAfter_end (links : channel.Links ring size capacity capacity') (differ : capacity ≠ capacity')
    (h : Stocks ring size memory fifo) (reached : fifo.written ≤ min capacity capacity') :
    channel.StraysAfter memory fifo (min capacity capacity') := by
  have there := h.length_le_written links.sized.size_pos
  have least : min capacity capacity' ≤ channel.producer.descriptor.quantumCount := by
    rw [links.count_eq]
    exact Nat.min_le_left _ _
  have filled := @listRun_fillUpTo channel fifo _ reached (by omega)
  obtain ⟨replies_eq, stocks⟩ := run_eq_listRun links h (channel.admits_fillUpTo fifo (min capacity capacity'))
    (.inr (by rw [filled])) (by rw [filled]; exact links.lt_wordLimit (Nat.le_refl _))
  rw [filled] at stocks
  obtain ⟨element, given, next, holds, run_eq, list_eq, strayed⟩ :=
    exists_strayed links differ stocks rfl rfl channel.consumer.element.zero
  refine ⟨channel.fillUpTo fifo (min capacity capacity') ++ [.write [element]], [channel.consumer.element.zero],
    (channel.listRun fifo (channel.fillUpTo fifo (min capacity capacity'))).1 ++ [.wrote true], given, next, ?_⟩
  simp only [List.append_assoc, List.cons_append, List.nil_append]
  refine ⟨?_, ?_, ?_, ?_, strayed⟩
  · rw [List.forall_mem_append]
    exact ⟨channel.admits_fillUpTo fifo _, by simp [Admits, holds, ElementType.holds_zero]⟩
  · rw [listRun_append, filled]
    exact written_past_end links rfl element channel.consumer.element.zero
  · rw [run_append, replies_eq, run_eq]
  · rw [listRun_append, filled, list_eq]

/-- A channel with two rings is a list exactly up to the shorter end. -/
theorem isListUpTo_iff (links : channel.Links ring size capacity capacity') (h : Stocks ring size memory fifo)
    (reached : fifo.written ≤ min capacity capacity') (differ : capacity ≠ capacity') (limit : Nat) :
    channel.IsListUpTo memory fifo limit ↔ limit ≤ min capacity capacity' := by
  constructor
  · intro list
    apply Nat.le_of_not_lt
    intro past
    obtain ⟨uses, buffer, replies, given, next, admits, written_eq, run_eq, list_eq, strayed⟩ :=
      straysAfter_end links differ h reached
    have same := list _ admits (by omega)
    rw [run_eq, list_eq] at same
    simp only [List.append_cancel_left_eq, List.cons.injEq, Reply.filled.injEq, true_and, and_true] at same
    exact strayed same
  · intro le uses admits written_le
    have inside := Nat.le_trans written_le le
    exact (run_eq_listRun links h admits (.inr inside) (links.lt_wordLimit inside)).1

/-- **How far a channel is a list**: with one ring until the counters wrap, with two up to the shorter end. -/
theorem list_up_to_end (links : channel.Links ring size capacity capacity')
    (stocked : fifo.written * size < wordLimit → Agree capacity capacity' fifo.written → Stocks ring size memory fifo) :
    (capacity = capacity' → ∀ limit, limit * size < wordLimit → channel.IsListUpTo memory fifo limit) ∧
      (capacity ≠ capacity' → fifo.written ≤ min capacity capacity' →
        (∀ limit, channel.IsListUpTo memory fifo limit ↔ limit ≤ min capacity capacity') ∧
          channel.StraysAfter memory fifo (min capacity capacity')) := by
  constructor
  · rintro rfl limit small
    exact isListUpTo_of_eq links (fun small => stocked small (.inl rfl)) small
  · intro differ reached
    have stocks := stocked (links.lt_wordLimit reached) (.inr reached)
    exact ⟨isListUpTo_iff links stocks reached differ, straysAfter_end links differ stocks reached⟩

end Channel

/-! ## Opening a name that another has made -/

namespace QueueLayout

variable {size count : Nat} {layout : QueueLayout}

theorem quantumCount_eq (laid : ofGeometry size count = .ok layout) : layout.quantumCount = count := by
  obtain ⟨-, -, -, rfl⟩ := ofGeometry_eq_ok_iff.1 laid
  rfl

theorem totalSize_eq (laid : ofGeometry size count = .ok layout) : layout.totalSize = dataOffset + size * count := by
  obtain ⟨-, -, -, rfl⟩ := ofGeometry_eq_ok_iff.1 laid
  rfl

theorem sized_ring (laid : ofGeometry size count = .ok layout) (object : Nat) :
    (layout.ring object).Sized size count ∧ (layout.ring object).bytes < wordLimit := by
  obtain ⟨size_ne, count_ne, le, rfl⟩ := ofGeometry_eq_ok_iff.1 laid
  have word : maxOffset < wordLimit := by decide
  exact ⟨⟨QueueLayout.separate_ring _ object, Nat.pos_of_ne_zero size_ne, Nat.pos_of_ne_zero count_ne, rfl⟩,
    Nat.lt_of_le_of_lt (Nat.le_of_add_right_le le) word⟩

/-- All layouts put their ring at the same place of an object. -/
theorem ring_eq_withBytes (laid : ofGeometry size count = .ok layout) (other : QueueLayout) (object : Nat) :
    layout.ring object = (other.ring object).withBytes (size * count) := by
  obtain ⟨-, -, -, rfl⟩ := ofGeometry_eq_ok_iff.1 laid
  rfl

end QueueLayout

namespace QueueSegment

open Creation

/-- **A name can be opened exactly if it is a proper one and its object is as long as the layout needs.** -/
theorem openNamed_isOk_iff (system : System) (name : String) (layout : QueueLayout) :
    (∃ opened segment, openNamed system name layout = (opened, .ok segment)) ↔
      Proper true name ∧ ∃ object, system.named? name = some object ∧ layout.totalSize ≤ system.length object := by
  simp only [openNamed, System.openNamed, Proper]
  cases QueueSegment.checkName name with
  | error fault => simp
  | ok checked =>
    by_cases long : System.maxSystemNameLength < name.utf8ByteSize
    · simp [long, Nat.not_le_of_lt long]
    · cases directory : System.isDirectoryName name with
      | true => simp [long]
      | false =>
        cases found : system.named? name with
        | none => simp [long]
        | some object =>
          have length_eq : (system.openObject object).2.length? (system.openObject object).1 = .ok (system.length object) := by
            have opened : (system.openObject object).2.object? (system.openObject object).1 = some object := by
              rw [System.object?_openObject]
              exact if_pos rfl
            rw [System.length?, opened]
            rfl
          by_cases short : system.length object < layout.totalSize
          · simp [long, length_eq, short, Nat.not_le_of_lt short]
          · simp [long, length_eq, short, Nat.le_of_not_lt long, Nat.le_of_not_lt short]

variable {before created now : System} {name : String} {layout : QueueLayout} {maker : QueueSegment}

/-- What a name leads to after its creation and calls on its segment, whatever others do to objects of their own in the
meantime. -/
theorem reached_by_name (made : create before true name layout = (created, .ok maker)) {α : Type} {calls : Access α}
    (kept : (created.perform calls).2.Keeps now) (named : now.named? name = created.named? name) :
    now.named? name = some before.lengths.length ∧ now.length before.lengths.length = layout.totalSize ∧
      ∀ place, place.object = before.lengths.length →
        now.memory.byte place = (calls.run created.memory).2.byte place := by
  obtain ⟨holds, length_eq⟩ := create_eq_ok made
  rw [System.perform_eq] at kept
  refine ⟨?_, ?_, ?_⟩
  · rw [named, holds.named?_eq, if_pos]
    rw [holds.segment_eq]
    exact ⟨rfl, rfl, rfl⟩
  · exact (kept.length_eq _ holds.known).trans length_eq
  · rintro ⟨_, offset⟩ rfl
    exact kept.byte_eq _ holds.known

end QueueSegment

namespace Channel

open MessageQueue

/-- One queue is on the one segment and one on the other, either way around. -/
def Joins (channel : Channel) (objects : Int → Nat) (segment other : QueueSegment) : Prop :=
  OpenedOn objects segment.descriptor channel.producer ∧ OpenedOn objects other.descriptor channel.consumer ∨
    OpenedOn objects other.descriptor channel.producer ∧ OpenedOn objects segment.descriptor channel.consumer

theorem links_of_openedOn {channel : Channel} {system : System} {object size count count' : Nat}
    {segment other : QueueSegment} (laid : QueueLayout.ofGeometry size count = .ok segment.layout)
    (laid' : QueueLayout.ofGeometry size count' = .ok other.layout) (held : system.object? segment.fd = some object)
    (held' : system.object? other.fd = some object)
    (source : OpenedOn system.objects segment.descriptor channel.producer)
    (sink : OpenedOn system.objects other.descriptor channel.consumer) :
    channel.Links (segment.layout.ring object) size count count' := by
  obtain ⟨accepted, ring_eq⟩ := source.accepted_and_ring_eq
  obtain ⟨accepted', ring_eq'⟩ := sink.accepted_and_ring_eq
  obtain ⟨sized, bytes_lt⟩ := QueueLayout.sized_ring laid object
  have same_place := QueueLayout.ring_eq_withBytes laid' segment.layout object
  constructor
  case producer_ring => rw [ring_eq, QueueSegment.ringOf_descriptor held]
  case consumer_ring => rw [ring_eq', QueueSegment.ringOf_descriptor held', same_place]
  case producer_size => exact accepted.size_eq.symm.trans (QueueLayout.representable_of_ofGeometry laid).2
  case consumer_size => exact accepted'.size_eq.symm.trans (QueueLayout.representable_of_ofGeometry laid').2
  case count_eq =>
    obtain ⟨page, request, -, -, opened, -⟩ := source
    rw [(ofDescriptor_eq_ok opened).2.1]
    exact QueueLayout.quantumCount_eq laid
  case sized => exact sized
  case sized' => exact same_place ▸ (QueueLayout.sized_ring laid' object).1
  case bytes_lt => exact bytes_lt

/-- What has been written on the creator's segment is in its ring when the name is opened. -/
theorem stocks_earlier {size count : Nat} {layout : QueueLayout} (laid : QueueLayout.ofGeometry size count = .ok layout)
    {before created now : System} {name : String} {maker : QueueSegment}
    (made : QueueSegment.create before true name layout = (created, .ok maker)) {early : Channel}
    {earlier : List Use} (alone : earlier ≠ [] → early.Joins created.objects maker maker)
    (admits : ∀ use ∈ earlier, early.Admits use) (kept : (created.perform (early.run earlier)).2.Keeps now)
    (named : now.named? name = created.named? name) (small : (early.listRun .empty earlier).2.written * size < wordLimit) :
    Stocks (layout.ring before.lengths.length) size now.memory (early.listRun .empty earlier).2 := by
  obtain ⟨rfl, held, read_zero, write_zero⟩ := QueueSegment.create_zeroed made
  have stocks : Stocks (maker.layout.ring before.lengths.length) size ((early.run earlier).run created.memory).2
      (early.listRun .empty earlier).2 := by
    cases earlier with
    | nil => exact .empty read_zero write_zero
    | cons use uses =>
      obtain ⟨source, sink⟩ := or_self_iff.1 (alone (List.cons_ne_nil use uses))
      have links := links_of_openedOn laid laid held held source sink
      exact (run_eq_listRun links (.empty read_zero write_zero) admits (.inl rfl) small).2
  exact stocks.of_byte_eq (QueueSegment.reached_by_name made kept named).2.2

end Channel

/-- A queue of words on each of two segments that hold the first object. -/
def wordChannel (segment other : QueueSegment) : Channel where
  producer := ⟨.unsigned 4, segment.descriptor, some (segment.layout.ring 0)⟩
  consumer := ⟨.unsigned 4, other.descriptor, some (other.layout.ring 0)⟩

theorem joins_wordChannel {system : System} {segment other : QueueSegment} (held : system.object? segment.fd = some 0)
    (held' : system.object? other.fd = some 0) (validated : segment.descriptor.validate 4 = .ok ())
    (validated' : other.descriptor.validate 4 = .ok ())
    (granted : MessageQueue.Granted pageSize (fun _ => system.request) segment.descriptor)
    (granted' : MessageQueue.Granted pageSize (fun _ => system.request) other.descriptor) :
    (wordChannel segment other).Joins system.objects segment other :=
  .inl ⟨segment.openedOn_ring held validated granted, other.openedOn_ring held' validated' granted'⟩

/-- **A name can be opened exactly with the layouts that are no longer than the one it was made with, and as long as
no more is written than the shorter ring holds, the channel is a list**, which starts with what has been written on the
creator's segment before and not been read there. With two layouts of one length it stays one until the counters wrap;
with others it ends at the shorter end, where a read is given something else than the next element. -/
theorem opened_channel_is_list_up_to_shorter_end {size count count' : Nat} {layout layout' : QueueLayout}
    (laid : QueueLayout.ofGeometry size count = .ok layout) (laid' : QueueLayout.ofGeometry size count' = .ok layout')
    {before created now : System} {name : String} {maker : QueueSegment}
    (made : QueueSegment.create before true name layout = (created, .ok maker)) {early : Channel}
    {earlier : List Channel.Use} (alone : earlier ≠ [] → early.Joins created.objects maker maker)
    (admits : ∀ use ∈ earlier, early.Admits use) (kept : (created.perform (early.run earlier)).2.Keeps now)
    (named : now.named? name = created.named? name) (held : now.object? maker.fd = created.object? maker.fd) :
    let fifo := (early.listRun .empty earlier).2
    ((∃ opened opener, QueueSegment.openNamed now name layout' = (opened, .ok opener)) ↔ count' ≤ count) ∧
      ∀ opened opener, QueueSegment.openNamed now name layout' = (opened, .ok opener) →
        ∀ channel : Channel, channel.Joins opened.objects maker opener →
          (count' = count → ∀ limit, limit * size < wordLimit → channel.IsListUpTo opened.memory fifo limit) ∧
          (count' ≠ count → fifo.written ≤ count' →
            (∀ limit, channel.IsListUpTo opened.memory fifo limit ↔ limit ≤ count') ∧
              channel.StraysAfter opened.memory fifo count') := by
  intro fifo
  obtain ⟨named_now, length_now, -⟩ := QueueSegment.reached_by_name made kept named
  obtain ⟨rfl, maker_held, -⟩ := QueueSegment.create_zeroed made
  have accepted_iff : (∃ opened opener, QueueSegment.openNamed now name layout' = (opened, .ok opener)) ↔
      count' ≤ count := by
    obtain ⟨⟨proper, -⟩, -⟩ := (QueueSegment.create_isOk_iff before true name maker.layout).1 ⟨_, _, made⟩
    have size_pos := (QueueLayout.sized_ring laid before.lengths.length).1.size_pos
    rw [QueueSegment.openNamed_isOk_iff, named_now, and_iff_right proper]
    simp only [Option.some.injEq, exists_eq_left', length_now, QueueLayout.totalSize_eq laid,
      QueueLayout.totalSize_eq laid', Nat.add_le_add_iff_left]
    exact Nat.mul_le_mul_left_iff size_pos
  refine ⟨accepted_iff, ?_⟩
  intro opened opener joined channel joins
  have le := accepted_iff.1 ⟨_, _, joined⟩
  obtain ⟨opener_eq, object, reached, holds, -⟩ := QueueSegment.openNamed_eq_ok joined
  obtain rfl := Option.some.inj (named_now.symm.trans reached)
  have memory_eq : opened.memory = now.memory := by
    rw [← QueueSegment.memory_openNamed now name layout', joined]
  -- both segments hold the object that the name leads to
  have maker_held : opened.object? maker.fd = some before.lengths.length := by
    rw [holds.object?_eq, held, maker_held, ite_self]
  have laid' : QueueLayout.ofGeometry size count' = .ok opener.layout := by rw [opener_eq, laid']
  have stocked := Channel.stocks_earlier laid made alone admits kept named
  rw [memory_eq]
  rcases joins with ⟨source, sink⟩ | ⟨source, sink⟩
  · have links := Channel.links_of_openedOn laid laid' maker_held holds.object?_fd source sink
    have channel_list := Channel.list_up_to_end links fun small _ => stocked small
    rw [Nat.min_eq_right le] at channel_list
    exact ⟨fun same => channel_list.1 same.symm, fun differ => channel_list.2 differ.symm⟩
  · have links := Channel.links_of_openedOn laid' laid holds.object?_fd maker_held source sink
    have channel_list := Channel.list_up_to_end links fun small agree => by
      rw [QueueLayout.ring_eq_withBytes laid' maker.layout]
      apply (stocked small).withBytes
      rw [(QueueLayout.sized_ring laid _).1.bytes_eq]
      exact agree.symm.bytes size
    rwa [Nat.min_eq_left le] at channel_list

/-- A name is made with a layout of four words. Of two words that are written, one is read before the name is opened,
once with the same layout and once with one of three words. -/
theorem opened_channel_is_list_four_words :
    let created := QueueSegment.create .empty true "ring" ⟨4, 4, 16⟩
    let maker : QueueSegment := ⟨"ring", 3, ⟨4, 4, 16⟩, true, true⟩
    let early := wordChannel maker maker
    let earlier : List Channel.Use := [.write [.integer 7, .integer 8], .read [.integer 0]]
    let fifo := (early.listRun .empty earlier).2
    let now := (created.1.perform (early.run earlier)).2
    let same := QueueSegment.openNamed now "ring" ⟨4, 4, 16⟩
    let opener : QueueSegment := ⟨"ring", 4, ⟨4, 4, 16⟩, true, false⟩
    let shorter := QueueSegment.openNamed now "ring" ⟨4, 3, 12⟩
    let opener' : QueueSegment := ⟨"ring", 4, ⟨4, 3, 12⟩, true, false⟩
    created.2 = .ok maker ∧ fifo.items = [⟨.unsigned 4, .integer 8⟩] ∧
      (same.2 = .ok opener ∧ (wordChannel maker opener).Joins same.1.objects maker opener ∧
        (wordChannel maker opener).IsListUpTo same.1.memory fifo 1000) ∧
      shorter.2 = .ok opener' ∧ (wordChannel maker opener').Joins shorter.1.objects maker opener' ∧
        (wordChannel maker opener').IsListUpTo shorter.1.memory fifo 3 ∧
        (wordChannel maker opener').StraysAfter shorter.1.memory fifo 3 := by
  intro created maker early earlier fifo now same opener shorter opener'
  have made : created.2 = .ok maker := by decide +kernel
  have joined : same.2 = .ok opener := by decide +kernel
  have joined' : shorter.2 = .ok opener' := by decide +kernel
  have alone : early.Joins created.1.objects maker maker :=
    joins_wordChannel (by decide +kernel) (by decide +kernel) rfl rfl (by decide +kernel) (by decide +kernel)
  have joins : (wordChannel maker opener).Joins same.1.objects maker opener :=
    joins_wordChannel (by decide +kernel) (by decide +kernel) rfl rfl (by decide +kernel) (by decide +kernel)
  have joins' : (wordChannel maker opener').Joins shorter.1.objects maker opener' :=
    joins_wordChannel (by decide +kernel) (by decide +kernel) rfl rfl (by decide +kernel) (by decide +kernel)
  have admits : ∀ use ∈ earlier, early.Admits use := by
    simp [earlier, early, wordChannel, Channel.Admits, ElementType.Holds, valueCount]
  have laid : QueueLayout.ofGeometry 4 4 = .ok ⟨4, 4, 16⟩ := rfl
  have laid' : QueueLayout.ofGeometry 4 3 = .ok ⟨4, 3, 12⟩ := rfl
  have whole {outcome : System × Except SharedMemoryError QueueSegment} {segment : QueueSegment}
      (found : outcome.2 = .ok segment) : outcome = (outcome.1, .ok segment) := Prod.ext rfl found
  have named : now.named? "ring" = created.1.named? "ring" := by
    simp only [now, System.perform_eq, System.named?]
  have held : now.object? maker.fd = created.1.object? maker.fd := by
    simp only [now, System.perform_eq, System.object?]
  obtain ⟨-, channels⟩ :=
    opened_channel_is_list_up_to_shorter_end laid laid (whole made) (fun _ => alone) admits (.refl now) named held
  obtain ⟨-, channels'⟩ :=
    opened_channel_is_list_up_to_shorter_end laid laid' (whole made) (fun _ => alone) admits (.refl now) named held
  have channel := channels same.1 opener (whole joined) (wordChannel maker opener) joins
  have channel' := channels' shorter.1 opener' (whole joined') (wordChannel maker opener') joins'
  have written_le : fifo.written ≤ 3 := by decide +kernel
  obtain ⟨list, strays⟩ := channel'.2 (by decide) written_le
  refine ⟨made, ?_, ⟨joined, joins, ?_⟩, joined', joins', ?_, strays⟩
  · decide +kernel
  · exact channel.1 rfl 1000 (by decide)
  · exact (list 3).2 (by decide)

/-- A name is made with a layout of four words and opened with one of two. Once two words have been read, the consumer
is back at the first one, and gets it again instead of the third. -/
theorem shorter_opener_reads_word_again :
    let created := QueueSegment.create .empty true "ring" ⟨4, 4, 16⟩
    let opened := QueueSegment.openNamed created.1 "ring" ⟨4, 2, 8⟩
    let maker : QueueSegment := ⟨"ring", 3, ⟨4, 4, 16⟩, true, true⟩
    let opener : QueueSegment := ⟨"ring", 4, ⟨4, 2, 8⟩, true, false⟩
    let channel := wordChannel maker opener
    let uses : List Channel.Use :=
      [.write [.integer 1, .integer 2], .read [.integer 0, .integer 0], .write [.integer 3], .read [.integer 0]]
    created.2 = .ok maker ∧ opened.2 = .ok opener ∧ channel.Joins opened.1.objects maker opener ∧
      (channel.listRun .empty uses).1 =
        [.wrote true, .filled true [.integer 1, .integer 2], .wrote true, .filled true [.integer 3]] ∧
      ((channel.run uses).run opened.1.memory).1 =
        [.wrote true, .filled true [.integer 1, .integer 2], .wrote true, .filled true [.integer 1]] := by
  intro created opened maker opener channel uses
  have made : created.2 = .ok maker := by decide +kernel
  have joined : opened.2 = .ok opener := by decide +kernel
  have maker_held : opened.1.object? maker.fd = some 0 := by decide +kernel
  have opener_held : opened.1.object? opener.fd = some 0 := by decide +kernel
  have source : MessageQueue.OpenedOn opened.1.objects maker.descriptor channel.producer :=
    maker.openedOn_ring maker_held rfl (by decide +kernel)
  have sink : MessageQueue.OpenedOn opened.1.objects opener.descriptor channel.consumer :=
    opener.openedOn_ring opener_held rfl (by decide +kernel)
  have laid : QueueLayout.ofGeometry 4 4 = .ok maker.layout := rfl
  have laid' : QueueLayout.ofGeometry 4 2 = .ok opener.layout := rfl
  have links := Channel.links_of_openedOn laid laid' maker_held opener_held source sink
  have whole : QueueSegment.create .empty true "ring" ⟨4, 4, 16⟩ = (created.1, .ok maker) := Prod.ext rfl made
  obtain ⟨-, -, read_zero, write_zero⟩ := QueueSegment.create_zeroed whole
  rw [← QueueSegment.memory_openNamed created.1 "ring" ⟨4, 2, 8⟩] at read_zero write_zero
  refine ⟨made, joined, .inl ⟨source, sink⟩, by decide, ?_⟩
  exact Channel.run_first_again links (by decide) read_zero write_zero rfl rfl (.integer 3) (.integer 0)

end SharedRing
