import Mathlib.Data.List.Flatten
import SharedRing.Proofs.Elements

/-!
# Items

An item is an element together with the type that it was written as, so it has its bytes and its size.
Items of one size make up a stream of bytes that can be cut between items (`stream_take`,
`stream_drop`), and a reader of any type of that size gets one element for each (`decodeAll_stream`).
-/

namespace SharedRing

/-- An element together with the type that it was written as. -/
structure Item where
  type : ElementType
  element : Element
deriving DecidableEq, Repr

namespace Item

def bytes (item : Item) : List UInt8 := item.type.encode item.element

/-- The element is a value of its type. -/
def Fits (item : Item) : Prop := item.type.Holds item.element

/-- What a reader makes of an item: the element that was written, and to a reader of another type what
its bytes stand for. -/
def readAs (type : ElementType) (item : Item) : Element :=
  if item.type = type then item.element else type.decode item.bytes

/-- Elements written as one type. -/
def ofElements (type : ElementType) (elements : List Element) : List Item := elements.map (⟨type, ·⟩)

/-- The bytes of items, one after the other. -/
def stream (items : List Item) : List UInt8 := items.flatMap bytes

theorem decode_bytes {item : Item} (h : item.Fits) (type : ElementType) :
    type.decode item.bytes = item.readAs type := by
  unfold readAs
  split
  · rename_i same
    subst same
    exact ElementType.decode_encode h
  · rfl

/-- Two values of one type with the same bytes are the same. -/
theorem eq_of_bytes_eq {item other : Item} (h : item.Fits) (h' : other.Fits) (type_eq : item.type = other.type)
    (bytes_eq : item.bytes = other.bytes) : item = other := by
  have read := ElementType.decode_encode h
  have read' := ElementType.decode_encode h'
  unfold bytes at bytes_eq
  rw [bytes_eq, type_eq, read'] at read
  cases item; cases other
  simp_all

@[simp] theorem length_bytes (item : Item) : item.bytes.length = item.type.size :=
  ElementType.length_encode item.type item.element

theorem stream_append (front back : List Item) : stream (front ++ back) = stream front ++ stream back := by
  simp [stream]

theorem length_stream_le {some items : List Item} (h : some.Sublist items) :
    (stream some).length ≤ (stream items).length :=
  (h.flatMap bytes).length_le

theorem stream_ofElements (type : ElementType) (elements : List Element) :
    stream (ofElements type elements) = type.encodeAll elements := by
  simp [stream, ofElements, ElementType.encodeAll, List.flatMap_map, bytes]

theorem fits_ofElements {type : ElementType} {elements : List Element}
    (h : ∀ element ∈ elements, type.Holds element) : ∀ item ∈ ofElements type elements, item.Fits := by
  intro item member
  obtain ⟨element, among, rfl⟩ := List.mem_map.1 member
  exact h element among

theorem size_ofElements {type : ElementType} {elements : List Element} {size : Nat} (h : type.size = size) :
    ∀ item ∈ ofElements type elements, item.type.size = size := by
  intro item member
  obtain ⟨element, _, rfl⟩ := List.mem_map.1 member
  exact h

theorem length_stream {size : Nat} : ∀ {items : List Item}, (∀ item ∈ items, item.type.size = size) →
    (stream items).length = items.length * size
  | [], _ => by simp [stream]
  | item :: items, h => by
    have ih := length_stream fun other member => h other (List.mem_cons_of_mem item member)
    have first := h item (by simp)
    simp only [stream, List.flatMap_cons, List.length_append, length_bytes, List.length_cons, first] at ih ⊢
    rw [ih, Nat.succ_mul, Nat.add_comm]

theorem length_stream_take {size : Nat} {items : List Item} (h : ∀ item ∈ items, item.type.size = size) {n : Nat}
    (le : n ≤ items.length) : (stream (items.take n)).length = n * size := by
  have sizes : ∀ item ∈ items.take n, item.type.size = size := fun item member =>
    h item (List.mem_of_mem_take member)
  rw [length_stream sizes, List.length_take, Nat.min_eq_left le]

theorem stream_take {size : Nat} {items : List Item} (h : ∀ item ∈ items, item.type.size = size) (n : Nat) :
    (stream items).take (n * size) = stream (items.take n) := by
  rcases Nat.le_total n items.length with le | le
  · have whole := congrArg stream (List.take_append_drop n items)
    rw [← whole, stream_append, List.take_left' (length_stream_take h le)]
  · rw [List.take_of_length_le le, List.take_of_length_le]
    rw [length_stream h]
    exact Nat.mul_le_mul_right size le

theorem stream_drop {size : Nat} {items : List Item} (h : ∀ item ∈ items, item.type.size = size) (n : Nat) :
    (stream items).drop (n * size) = stream (items.drop n) := by
  rcases Nat.le_total n items.length with le | le
  · have whole := congrArg stream (List.take_append_drop n items)
    rw [← whole, stream_append, List.drop_left' (length_stream_take h le)]
  · rw [List.drop_of_length_le le, List.drop_of_length_le]
    · rfl
    · rw [length_stream h]
      exact Nat.mul_le_mul_right size le

/-- A reader of the items' size gets one element for each. -/
theorem decodeAll_stream {type : ElementType} {items : List Item} (h : ∀ item ∈ items, item.type.size = type.size)
    (fits : ∀ item ∈ items, item.Fits) : type.decodeAll items.length (stream items) = items.map (readAs type) := by
  have sizes : ∀ payload ∈ items.map bytes, payload.length = type.size := by
    intro payload member
    obtain ⟨item, among, rfl⟩ := List.mem_map.1 member
    rw [length_bytes, h item among]
  have rows := ElementType.decodeAll_flatten sizes
  rw [List.length_map, List.map_map] at rows
  rw [stream, List.flatMap_def, rows]
  exact List.map_congr_left fun item member => decode_bytes (fits item member) type

/-- Values of one type are a prefix of others if their bytes are. -/
theorem prefix_of_stream_prefix {type : ElementType} (positive : 0 < type.size) :
    ∀ {front items : List Item}, (∀ item ∈ front, item.Fits ∧ item.type = type) →
      (∀ item ∈ items, item.Fits ∧ item.type = type) → stream front <+: stream items → front <+: items
  | [], _, _, _, _ => List.nil_prefix
  | first :: front, [], h, _, among => by
    have none := List.prefix_nil.1 among
    have size_eq := congrArg ElementType.size (h first (by simp)).2
    have empty := (List.append_eq_nil_iff.1 none).1
    rw [← length_bytes, empty, List.length_nil] at size_eq
    omega
  | first :: front, item :: items, h, h', among => by
    obtain ⟨⟨fits, type_eq⟩, others⟩ := List.forall_mem_cons.1 h
    obtain ⟨⟨fits', type_eq'⟩, others'⟩ := List.forall_mem_cons.1 h'
    obtain ⟨rest, whole⟩ := among
    rw [stream, stream, List.flatMap_cons, List.flatMap_cons, List.append_assoc] at whole
    obtain ⟨bytes_eq, rest_eq⟩ := List.append_inj whole (by simp [type_eq, type_eq'])
    rw [eq_of_bytes_eq fits fits' (type_eq.trans type_eq'.symm) bytes_eq]
    exact List.cons_prefix_cons.2 ⟨rfl, prefix_of_stream_prefix positive others others' ⟨rest, rest_eq⟩⟩

end Item

end SharedRing
