import SharedRing.Queue.Element

/-!
# Elements and their bytes

`Holds` says which elements are values of a type. For these, encoding and decoding undo each other
(`decode_encode`), and every row of bytes of a type's size stands for one of its values
(`encode_decode`, `holds_decode`). So a row of elements and the row of its bytes are the same
information, also where the two sides of a queue read the bytes as different types of one size.
-/

namespace SharedRing

theorem valueCount_pos : ∀ width : Nat, 0 < valueCount width
  | 0 => by decide
  | width + 1 => by
    have ih := valueCount_pos width
    simp only [valueCount]
    omega

theorem natOfBytes_lt : ∀ bytes : List UInt8, natOfBytes bytes < valueCount bytes.length
  | [] => by simp [natOfBytes, valueCount]
  | b :: bs => by
    have ih := natOfBytes_lt bs
    have small := b.toNat_lt
    simp only [natOfBytes, List.length_cons, valueCount]
    omega

/-- Bytes are those of the number that they stand for. -/
theorem bytesOfNat_natOfBytes : ∀ bytes : List UInt8, bytesOfNat bytes.length (natOfBytes bytes) = bytes
  | [] => rfl
  | b :: bs => by
    have small := b.toNat_lt
    have low : (b.toNat + 256 * natOfBytes bs) % 256 = b.toNat := by omega
    have high : (b.toNat + 256 * natOfBytes bs) / 256 = natOfBytes bs := by omega
    rw [List.length_cons, natOfBytes, bytesOfNat, low, high, bytesOfNat_natOfBytes bs, UInt8.ofNat_toNat]

namespace ElementType

/-- The values of a type. -/
def Holds : ElementType → Element → Prop
  | .unsigned width, .integer value => 0 ≤ value ∧ value < valueCount width
  | .signed width, .integer value => -valueCount width ≤ 2 * value ∧ 2 * value < valueCount width
  | .bytes count, .bytes data => data.length = count
  | _, _ => False

instance (type : ElementType) (element : Element) : Decidable (type.Holds element) := by
  cases type <;> cases element <;> unfold Holds <;> infer_instance

@[simp] theorem length_encodeInteger (width : Nat) (value : Int) : (encodeInteger width value).length = width := by
  simp [encodeInteger]

theorem natOfBytes_encodeInteger (width : Nat) (value : Int) :
    (natOfBytes (encodeInteger width value) : Int) = value % valueCount width := by
  have positive := valueCount_pos width
  have low := Int.emod_nonneg value (show (valueCount width : Int) ≠ 0 by omega)
  have high := Int.emod_lt_of_pos value (show (0 : Int) < valueCount width by omega)
  rw [encodeInteger, natOfBytes_bytesOfNat, Nat.mod_eq_of_lt (by omega)]
  omega

/-- A value is read back from its bytes. -/
theorem decode_encode {type : ElementType} {element : Element} (h : type.Holds element) :
    type.decode (type.encode element) = element := by
  cases type with
  | unsigned width =>
    cases element with
    | bytes data => exact h.elim
    | integer value =>
      have same := natOfBytes_encodeInteger width value
      rw [Int.emod_eq_of_lt h.1 h.2] at same
      simp [encode, decode, same]
  | signed width =>
    cases element with
    | bytes data => exact h.elim
    | integer value =>
      obtain ⟨low, high⟩ := h
      have same := natOfBytes_encodeInteger width value
      simp only [encode, decode, decodeSigned, length_encodeInteger, Element.integer.injEq]
      -- the upper half of the unsigned range stands for the negative values
      rcases Int.lt_or_le value 0 with negative | positive
      · have shifted : value % valueCount width = value + valueCount width := by
          rw [← Int.add_emod_right, Int.emod_eq_of_lt (by omega) (by omega)]
        rw [shifted] at same
        rw [if_neg (by omega)]
        omega
      · rw [Int.emod_eq_of_lt positive (by omega)] at same
        rw [if_pos (by omega), same]
  | bytes count =>
    cases element with
    | integer value => exact h.elim
    | bytes data =>
      have same : data.length = count := h
      subst same
      simp [encode, decode, size]

/-- Bytes of a type's size are those of the value that they stand for. -/
theorem encode_decode {type : ElementType} {data : List UInt8} (h : data.length = type.size) :
    type.encode (type.decode data) = data := by
  have small := natOfBytes_lt data
  cases type with
  | unsigned width =>
    have width_eq : data.length = width := h
    subst width_eq
    simp only [decode, encode, encodeInteger]
    rw [Int.emod_eq_of_lt (by omega) (by omega), Int.toNat_natCast, bytesOfNat_natOfBytes]
  | signed width =>
    have width_eq : data.length = width := h
    subst width_eq
    simp only [decode, encode, encodeInteger]
    have wrapped : decodeSigned data % valueCount data.length = natOfBytes data := by
      simp only [decodeSigned]
      split
      · rw [Int.emod_eq_of_lt (by omega) (by omega)]
      · rw [Int.sub_emod_right, Int.emod_eq_of_lt (by omega) (by omega)]
    rw [wrapped, Int.toNat_natCast, bytesOfNat_natOfBytes]
  | bytes count =>
    have count_eq : data.length = count := h
    subst count_eq
    simp [decode, encode, size]

theorem holds_decode {type : ElementType} {data : List UInt8} (h : data.length = type.size) :
    type.Holds (type.decode data) := by
  have small := natOfBytes_lt data
  cases type with
  | unsigned width =>
    have width_eq : data.length = width := h
    subst width_eq
    exact ⟨by omega, by omega⟩
  | signed width =>
    have width_eq : data.length = width := h
    subst width_eq
    simp only [decode, Holds, decodeSigned]
    split <;> constructor <;> omega
  | bytes count => exact h

/-! ## Rows of elements -/

@[simp] theorem encodeAll_nil (type : ElementType) : type.encodeAll [] = [] := rfl

@[simp] theorem encodeAll_cons (type : ElementType) (element : Element) (elements : List Element) :
    type.encodeAll (element :: elements) = type.encode element ++ type.encodeAll elements := rfl

theorem encodeAll_append (type : ElementType) (front back : List Element) :
    type.encodeAll (front ++ back) = type.encodeAll front ++ type.encodeAll back := by
  simp [encodeAll]

@[simp] theorem length_encodeAll (type : ElementType) (elements : List Element) :
    (type.encodeAll elements).length = elements.length * type.size := by
  induction elements with
  | nil => simp
  | cons element elements ih => simp [ih, length_encode, Nat.succ_mul, Nat.add_comm]

theorem encodeAll_eq_nil_iff {type : ElementType} (positive : 0 < type.size) {elements : List Element} :
    type.encodeAll elements = [] ↔ elements = [] := by
  rw [← List.length_eq_zero_iff, length_encodeAll, ← List.length_eq_zero_iff, Nat.mul_eq_zero]
  omega

/-- Reading a row of payloads gives the values that they stand for, one each. -/
theorem decodeAll_flatten {type : ElementType} :
    ∀ {payloads : List (List UInt8)}, (∀ payload ∈ payloads, payload.length = type.size) →
      type.decodeAll payloads.length payloads.flatten = payloads.map type.decode
  | [], _ => rfl
  | payload :: payloads, h => by
    have size_eq := h payload (by simp)
    have ih := decodeAll_flatten fun other member => h other (List.mem_cons_of_mem payload member)
    simp only [List.length_cons, List.flatten_cons, decodeAll, List.map_cons]
    rw [List.take_left' size_eq, List.drop_left' size_eq, ih]

theorem decodeAll_encodeAll {type : ElementType} {elements : List Element}
    (h : ∀ element ∈ elements, type.Holds element) :
    type.decodeAll elements.length (type.encodeAll elements) = elements := by
  have sizes : ∀ payload ∈ elements.map type.encode, payload.length = type.size := by
    intro payload member
    obtain ⟨element, _, rfl⟩ := List.mem_map.1 member
    exact length_encode type element
  have rows := decodeAll_flatten sizes
  rw [List.length_map, List.map_map] at rows
  rw [encodeAll, List.flatMap_def, rows]
  calc elements.map (type.decode ∘ type.encode) = elements.map id :=
        List.map_congr_left fun element member => decode_encode (h element member)
    _ = elements := List.map_id elements

@[simp] theorem length_decodeAll (type : ElementType) (count : Nat) (data : List UInt8) :
    (type.decodeAll count data).length = count := by
  induction count generalizing data with
  | zero => rfl
  | succ count ih => simp [decodeAll, ih]

/-- A row of bytes may be cut between elements. -/
theorem decodeAll_append {type : ElementType} {m n : Nat} {front back : List UInt8}
    (h : front.length = m * type.size) :
    type.decodeAll (m + n) (front ++ back) = type.decodeAll m front ++ type.decodeAll n back := by
  induction m generalizing front with
  | zero =>
    have empty : front = [] := List.length_eq_zero_iff.1 (by simpa using h)
    simp [empty, decodeAll]
  | succ m ih =>
    rw [Nat.succ_mul] at h
    have first : type.size ≤ front.length := by omega
    rw [Nat.succ_add, decodeAll, decodeAll, List.take_append_of_le_length first, List.drop_append_of_le_length first,
      ih (by simp; omega), List.cons_append]

/-- Bytes of whole elements are those of the values that they stand for. -/
theorem encodeAll_decodeAll {type : ElementType} : ∀ {count : Nat} {data : List UInt8},
    data.length = count * type.size → type.encodeAll (type.decodeAll count data) = data
  | 0, data, h => by simpa [decodeAll] using h
  | count + 1, data, h => by
    rw [Nat.succ_mul] at h
    have front : (data.take type.size).length = type.size := by simp; omega
    have back : (data.drop type.size).length = count * type.size := by simp; omega
    rw [decodeAll, encodeAll_cons, encode_decode front, encodeAll_decodeAll back, List.take_append_drop]

theorem decodeAll_inj {type : ElementType} {count : Nat} {data other : List UInt8}
    (h : data.length = count * type.size) (h' : other.length = count * type.size) :
    type.decodeAll count data = type.decodeAll count other ↔ data = other := by
  refine ⟨fun same => ?_, fun same => same ▸ rfl⟩
  rw [← encodeAll_decodeAll h, same, encodeAll_decodeAll h']

theorem holds_decodeAll {type : ElementType} : ∀ {count : Nat} {data : List UInt8},
    data.length = count * type.size → ∀ element ∈ type.decodeAll count data, type.Holds element
  | 0, _, _ => by simp [decodeAll]
  | count + 1, data, h => by
    rw [Nat.succ_mul] at h
    have front : (data.take type.size).length = type.size := by simp; omega
    have back : (data.drop type.size).length = count * type.size := by simp; omega
    exact List.forall_mem_cons.2 ⟨holds_decode front, holds_decodeAll back⟩

end ElementType

end SharedRing
