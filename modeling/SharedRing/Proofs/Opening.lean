import SharedRing.Layout
import SharedRing.Queue
import SharedRing.Proofs.Stream

/-!
# What a valid queue rests on

`Accepted` states what a descriptor has to be like, and `validate_eq_ok_iff` that validation asks for
exactly this. Under it, opening a queue fails only where the system refuses to map one of the three
regions (`openRing_eq_ok_iff`), and all queues that are opened on one descriptor share one ring
(`OpenedOn.accepted_and_ring_eq`): the regions start where the grantors say, in the objects that the file
descriptors refer to.
-/

namespace SharedRing

theorem bind_eq_ok_iff {ε α β : Type} {x : Except ε α} {f : α → Except ε β} {b : β} :
    x >>= f = .ok b ↔ ∃ a, x = .ok a ∧ f a = .ok b := by
  cases x <;> simp [bind, Except.bind]

theorem bind_eq_error_iff {ε α β : Type} {x : Except ε α} {f : α → Except ε β} {e : ε} :
    x >>= f = .error e ↔ x = .error e ∨ ∃ a, x = .ok a ∧ f a = .error e := by
  cases x <;> simp [bind, Except.bind]

theorem mapError_ok {ε ε' α : Type} (f : ε → ε') (a : α) : (Except.ok a).mapError f = .ok a := rfl

theorem mapError_error {ε ε' α : Type} (f : ε → ε') (e : ε) :
    (Except.error e : Except ε α).mapError f = .error (f e) := rfl

theorem mapError_eq_ok_iff {ε ε' α : Type} {x : Except ε α} {f : ε → ε'} {a : α} :
    x.mapError f = .ok a ↔ x = .ok a := by
  cases x with
  | ok b => simp [mapError_ok]
  | error e => simp [mapError_error]

theorem toOption_eq_some_iff {ε α : Type} {x : Except ε α} {a : α} : x.toOption = some a ↔ x = .ok a := by
  cases x with
  | ok b => simp [Except.toOption]
  | error e => simp [Except.toOption]

namespace RegionDescriptor

/-! ## Accepted descriptors -/

/-- What every grantor has to satisfy. -/
def GrantorFits (descriptor : RegionDescriptor) (grantor : Grantor) : Prop :=
  grantor.fdIndex < descriptor.handle.fds.length ∧ grantor.offset + grantor.extent ≤ maxOffset

/-- What a counter's grantor has to satisfy besides. -/
def HoldsCounter (grantor : Grantor) : Prop :=
  counterSize ≤ grantor.extent ∧ grantor.offset % counterSize = 0

def ringBytes (descriptor : RegionDescriptor) : Nat := descriptor.quantumSize * descriptor.quantumCount

/-- A descriptor that a queue of elements of a size may be opened on. -/
structure Accepted (descriptor : RegionDescriptor) (expected : Nat) : Prop where
  handle : descriptor.handle.isValid = true
  size_eq : descriptor.quantumSize = expected
  size_pos : 0 < descriptor.quantumSize
  count_pos : 0 < descriptor.quantumCount
  bytes_le : descriptor.ringBytes ≤ maxOffset
  fits : ∀ grantor ∈ descriptor.grantors, descriptor.GrantorFits grantor
  /-- The grantors of the three slots. -/
  slots : ∃ read write data, descriptor.grantor? readSlot = some read ∧
    descriptor.grantor? writeSlot = some write ∧ descriptor.grantor? dataSlot = some data ∧
    HoldsCounter read ∧ HoldsCounter write ∧ descriptor.ringBytes ≤ data.extent

theorem Accepted.ringBytes_pos {descriptor : RegionDescriptor} {expected : Nat}
    (h : Accepted descriptor expected) : 0 < descriptor.ringBytes :=
  Nat.mul_pos h.size_pos h.count_pos

theorem checkHandle_eq_ok_iff (handle : Handle) : checkHandle handle = .ok () ↔ handle.isValid = true := by
  unfold checkHandle
  by_cases valid : handle.isValid = true
  · simp [valid]
  · simp only [valid, Bool.false_eq_true, ↓reduceIte]
    split <;> simp

theorem checkGrantor_eq_ok_iff (fdCount slot : Nat) (grantor : Grantor) :
    checkGrantor fdCount slot grantor = .ok () ↔
      grantor.fdIndex < fdCount ∧ grantor.offset + grantor.extent ≤ maxOffset := by
  unfold checkGrantor
  split
  · simp; omega
  · split
    · simp; omega
    · simp; omega

theorem checkGrantors_eq_ok_iff (fdCount : Nat) : ∀ (slot : Nat) (grantors : List Grantor),
    checkGrantors fdCount slot grantors = .ok () ↔
      ∀ grantor ∈ grantors, grantor.fdIndex < fdCount ∧ grantor.offset + grantor.extent ≤ maxOffset
  | _, [] => by simp [checkGrantors]
  | slot, grantor :: rest => by
    have ih := checkGrantors_eq_ok_iff fdCount (slot + 1) rest
    have head := checkGrantor_eq_ok_iff fdCount slot grantor
    rw [checkGrantors, List.forall_mem_cons, ← ih, ← head]
    cases checkGrantor fdCount slot grantor <;> simp [bind, Except.bind]

theorem checkCounter_eq_ok_iff (slot : Nat) (grantor : Grantor) :
    checkCounter slot grantor = .ok () ↔ HoldsCounter grantor := by
  unfold checkCounter HoldsCounter
  split
  · simp; omega
  · split
    · simp; omega
    · simp; omega

theorem checkData_eq_ok_iff (bytes : Nat) (grantor : Grantor) :
    checkData bytes grantor = .ok () ↔ bytes ≤ grantor.extent := by
  unfold checkData
  split
  · simp; omega
  · simp; omega

theorem checkRing_eq_ok_iff (descriptor : RegionDescriptor) (expected bytes : Nat) :
    descriptor.checkRing expected = .ok bytes ↔
      descriptor.quantumSize = expected ∧ 0 < descriptor.quantumSize ∧ 0 < descriptor.quantumCount ∧
        descriptor.ringBytes ≤ maxOffset ∧ bytes = descriptor.ringBytes := by
  have word : maxOffset < wordLimit := by decide
  rw [checkRing, ringBytes?, ← ringBytes]
  generalize descriptor.ringBytes = total
  by_cases size : descriptor.quantumSize = expected
  · by_cases zero : descriptor.quantumSize = 0 ∨ descriptor.quantumCount = 0
    · rw [if_neg (Decidable.not_not.2 size), if_pos zero]
      simp; omega
    · rw [if_neg (Decidable.not_not.2 size), if_neg zero]
      by_cases small : total ≤ maxOffset
      · simp [show total < wordLimit by omega, small, size]; omega
      · by_cases fits : total < wordLimit <;> simp [fits, small]
  · simp [size]

/-- **Validation accepts exactly the accepted descriptors.** -/
theorem validate_eq_ok_iff (descriptor : RegionDescriptor) (expected : Nat) :
    descriptor.validate expected = .ok () ↔ Accepted descriptor expected := by
  rw [validate, bind_eq_ok_iff]
  constructor
  · rintro ⟨_, handle, rest⟩
    split at rest
    · rename_i read write data others grantors
      simp only [bind_eq_ok_iff, checkRing_eq_ok_iff] at rest
      obtain ⟨_, ⟨size, size_pos, count_pos, small, rfl⟩, _, each, _, first, _, second, third⟩ := rest
      refine ⟨(checkHandle_eq_ok_iff _).1 handle, size, size_pos, count_pos, small,
        (checkGrantors_eq_ok_iff _ _ _).1 each, read, write, data, ?_, ?_, ?_,
        (checkCounter_eq_ok_iff _ _).1 first, (checkCounter_eq_ok_iff _ _).1 second,
        (checkData_eq_ok_iff _ _).1 third⟩
      all_goals simp [grantor?, grantors, readSlot, writeSlot, dataSlot]
    · cases rest
  · rintro ⟨handle, size, size_pos, count_pos, small, each, read, write, data, at0, at1, at2, first, second, third⟩
    refine ⟨(), (checkHandle_eq_ok_iff _).2 handle, ?_⟩
    obtain ⟨others, grantors⟩ : ∃ others, descriptor.grantors = read :: write :: data :: others := by
      simp only [grantor?, readSlot, writeSlot, dataSlot] at at0 at1 at2
      match found : descriptor.grantors, at0, at1, at2 with
      | a :: b :: c :: others, at0, at1, at2 => exact ⟨others, by simp_all⟩
    rw [grantors]
    simp only [bind_eq_ok_iff]
    refine ⟨_, (checkRing_eq_ok_iff _ _ _).2 ⟨size, size_pos, count_pos, small, rfl⟩, (), ?_, (), ?_, (), ?_, ?_⟩
    · exact (checkGrantors_eq_ok_iff _ _ _).2 (grantors ▸ each)
    · exact (checkCounter_eq_ok_iff _ _).2 first
    · exact (checkCounter_eq_ok_iff _ _).2 second
    · exact (checkData_eq_ok_iff _ _).2 third

end RegionDescriptor

/-! ## Windows -/

namespace Grantor

/-- The window of a grantor, if it is made of words. -/
def pages (grantor : Grantor) (page : Nat) : Window :=
  { offset := grantor.offset / page * page, length := grantor.offset % page + grantor.extent }

/-- The grantor starts behind the window's start by what is left of a page. -/
theorem offset_sub_pages (grantor : Grantor) (page : Nat) :
    grantor.offset - (grantor.pages page).offset = grantor.offset % page := by
  rw [pages, Nat.mod_eq_sub_mul_div, Nat.mul_comm]

theorem window_eq_ok_iff {grantor : Grantor} {page : Nat} {window : Window} : grantor.window page = .ok window ↔
    0 < page ∧ grantor.offset % page + grantor.extent < wordLimit ∧ window = grantor.pages page := by
  have lead : grantor.offset - grantor.offset / page * page = grantor.offset % page := grantor.offset_sub_pages page
  simp only [Grantor.window, addWords, lead]
  by_cases zero : page = 0
  · simp [zero]
  · by_cases small : grantor.offset % page + grantor.extent < wordLimit
    · simp [zero, small, Nat.pos_of_ne_zero zero, bind, Except.bind, pure, Except.pure, pages, eq_comm]
    · simp [zero, small, bind, Except.bind]

end Grantor

/-! ## Opening -/

/-- The ring that a layout puts into an object. -/
def QueueLayout.ring (layout : QueueLayout) (object : Nat) : Ring :=
  { readCounter := ⟨object, readCounterOffset⟩
    writeCounter := ⟨object, writeCounterOffset⟩
    data := ⟨object, dataOffset⟩
    bytes := layout.quantumSize * layout.quantumCount }

/-- The regions that the allocating side lays out are apart. -/
theorem QueueLayout.separate_ring (layout : QueueLayout) (object : Nat) : (layout.ring object).Separate := by
  have counters : 0 + counterSize ≤ QueueLayout.writeCounterOffset := by decide
  have read_data : 0 + counterSize ≤ QueueLayout.dataOffset := by decide
  have write_data : QueueLayout.writeCounterOffset + counterSize ≤ QueueLayout.dataOffset := by decide
  exact ⟨.inr (.inl counters), .inr (.inl read_data), .inr (.inl write_data)⟩

namespace MessageQueue

open RegionDescriptor

/-- Where the region of a slot starts, if file descriptors refer to these objects. -/
def slotStart (objects : Int → Nat) (descriptor : RegionDescriptor) (slot : Nat) : Address :=
  match descriptor.grantor? slot with
  | some grantor => ⟨objects ((descriptor.handle.fd? grantor.fdIndex).getD 0), grantor.offset⟩
  | none => ⟨0, 0⟩

/-- The ring of a descriptor, if file descriptors refer to these objects. -/
def ringOf (objects : Int → Nat) (descriptor : RegionDescriptor) : Ring :=
  { readCounter := slotStart objects descriptor readSlot
    writeCounter := slotStart objects descriptor writeSlot
    data := slotStart objects descriptor dataSlot
    bytes := descriptor.ringBytes }

theorem sized_ringOf {objects : Int → Nat} {descriptor : RegionDescriptor} {size : Nat}
    (accepted : Accepted descriptor size) (sep : (ringOf objects descriptor).Separate) :
    (ringOf objects descriptor).Sized descriptor.quantumSize descriptor.quantumCount :=
  ⟨sep, accepted.size_pos, accepted.count_pos, rfl⟩

/-- The ring of a layout's descriptor depends on the object that its file descriptor refers to, and not on its
number. -/
theorem ringOf_descriptor (objects : Int → Nat) (layout : QueueLayout) (fd : Int) :
    ringOf objects (layout.descriptor fd) = layout.ring (objects fd) := rfl

theorem separate_layout (objects : Int → Nat) (layout : QueueLayout) (fd : Int) :
    (ringOf objects (layout.descriptor fd)).Separate := layout.separate_ring (objects fd)

/-- The system may refuse any request, but what it maps is the object that the file descriptor
refers to. -/
def Honest (objects : Int → Nat) (request : Nat → MapRequest) : Prop :=
  ∀ slot fd window object, request slot fd window = .ok object → object = objects fd

/-- A system with one object never refuses. -/
theorem honest_const (object : Nat) : Honest (fun _ => object) fun _ _ _ => .ok object :=
  fun _ _ _ _ answer => (Except.ok.inj answer).symm

def Granted (page : Nat) (request : Nat → MapRequest) (descriptor : RegionDescriptor) : Prop :=
  ∀ slot < requiredSlots, ∃ region, mapSlot page request descriptor slot = .ok region

instance {ε α : Type} (x : Except ε α) : Decidable (∃ a, x = .ok a) :=
  match x with
  | .ok a => isTrue ⟨a, rfl⟩
  | .error _ => isFalse fun ⟨_, h⟩ => nomatch h

instance (page : Nat) (request : Nat → MapRequest) (descriptor : RegionDescriptor) :
    Decidable (Granted page request descriptor) :=
  inferInstanceAs (Decidable (∀ slot < requiredSlots, ∃ region, mapSlot page request descriptor slot = .ok region))

/-- What a mapped region is like: it starts where the grantor says. -/
theorem mapSlot_eq_ok {page : Nat} {request : Nat → MapRequest} {descriptor : RegionDescriptor} {slot : Nat}
    {region : MappedRegion} (h : mapSlot page request descriptor slot = .ok region) :
    ∃ grantor fd window, descriptor.grantor? slot = some grantor ∧
      descriptor.handle.fd? grantor.fdIndex = some fd ∧ request slot fd window = .ok region.object ∧
      region.lead = grantor.offset % page ∧ region.start = ⟨region.object, grantor.offset⟩ := by
  unfold mapSlot MappedRegion.map at h
  cases slotted : descriptor.grantor? slot with
  | none => simp [slotted] at h
  | some grantor =>
    cases known : descriptor.handle.fd? grantor.fdIndex with
    | none => simp [slotted, known] at h
    | some fd =>
      cases windowed : grantor.window page with
      | error fault => simp [slotted, known, windowed] at h
      | ok window =>
        obtain ⟨_, _, rfl⟩ := Grantor.window_eq_ok_iff.1 windowed
        have lead := grantor.offset_sub_pages page
        have le : (grantor.pages page).offset ≤ grantor.offset := Nat.div_mul_le_self _ _
        by_cases empty : (grantor.pages page).length = 0
        · simp [slotted, known, windowed, empty] at h
        · cases answer : request slot fd (grantor.pages page) with
          | error errno => simp [slotted, known, windowed, empty, answer] at h
          | ok object =>
            simp only [slotted, known, windowed, empty, answer, ↓reduceIte, Except.ok.injEq] at h
            subst h
            refine ⟨grantor, fd, _, rfl, known, answer, lead, ?_⟩
            simp only [MappedRegion.start, Address.mk.injEq, true_and]
            omega

theorem mapSlot_start {page : Nat} {request : Nat → MapRequest} {objects : Int → Nat}
    (honest : Honest objects request) {descriptor : RegionDescriptor} {slot : Nat} {region : MappedRegion}
    (h : mapSlot page request descriptor slot = .ok region) : region.start = slotStart objects descriptor slot := by
  obtain ⟨grantor, fd, window, slotted, known, answer, _, start⟩ := mapSlot_eq_ok h
  rw [start, slotStart, slotted, honest _ _ _ _ answer]
  simp [known]

/-- A counter that the grantor aligns is aligned in its mapping, as pages are. -/
theorem checkAligned_mapSlot {page : Nat} (aligned : counterSize ∣ page) {request : Nat → MapRequest}
    {descriptor : RegionDescriptor} {slot : Nat} {grantor : Grantor} {region : MappedRegion}
    (slotted : descriptor.grantor? slot = some grantor) (counter : HoldsCounter grantor)
    (h : mapSlot page request descriptor slot = .ok region) : checkAligned region = .ok () := by
  obtain ⟨grantor', _, _, slotted', _, _, lead, _⟩ := mapSlot_eq_ok h
  have same : grantor' = grantor := Option.some.inj (slotted'.symm.trans slotted)
  subst same
  rw [checkAligned, if_pos (by rw [lead, Nat.mod_mod_of_dvd _ aligned]; exact counter.2)]

/-- What opening gives: the regions of an accepted descriptor. -/
theorem openRing_eq_ok {page : Nat} {request : Nat → MapRequest} {descriptor : RegionDescriptor} {size : Nat}
    {ring : Ring} (h : openRing page request descriptor size = .ok ring) :
    Accepted descriptor size ∧ ∃ read write data, mapSlot page request descriptor readSlot = .ok read ∧
      mapSlot page request descriptor writeSlot = .ok write ∧ mapSlot page request descriptor dataSlot = .ok data ∧
      ring = { readCounter := read.start, writeCounter := write.start, data := data.start,
               bytes := descriptor.ringBytes } := by
  rw [openRing, bind_eq_ok_iff] at h
  obtain ⟨_, checked, mapped⟩ := h
  have accepted := (validate_eq_ok_iff _ _).1 (mapError_eq_ok_iff.1 checked)
  simp only [mapRing, bind_eq_ok_iff, mapError_eq_ok_iff] at mapped
  obtain ⟨read, at0, write, at1, data, at2, _, _, _, _, bytes, product, rest⟩ := mapped
  have whole : bytes = descriptor.ringBytes := by
    unfold multiplyWords at product
    split at product <;> cases product
    rfl
  subst whole
  exact ⟨accepted, read, write, data, at0, at1, at2, (Except.ok.inj rest).symm⟩

theorem openRing_eq_ringOf {page : Nat} {request : Nat → MapRequest} {objects : Int → Nat}
    (honest : Honest objects request) {descriptor : RegionDescriptor} {size : Nat} {ring : Ring}
    (h : openRing page request descriptor size = .ok ring) : ring = ringOf objects descriptor := by
  obtain ⟨_, read, write, data, at0, at1, at2, rfl⟩ := openRing_eq_ok h
  rw [ringOf, mapSlot_start honest at0, mapSlot_start honest at1, mapSlot_start honest at2]

/-- **Opening succeeds exactly if the descriptor is accepted and the system maps the three regions,
and what it gives is the descriptor's ring.** -/
theorem openRing_eq_ok_iff {page : Nat} (aligned : counterSize ∣ page) {request : Nat → MapRequest}
    {objects : Int → Nat} (honest : Honest objects request) {descriptor : RegionDescriptor} {size : Nat}
    {ring : Ring} :
    openRing page request descriptor size = .ok ring ↔
      Accepted descriptor size ∧ Granted page request descriptor ∧ ring = ringOf objects descriptor := by
  constructor
  · intro opened
    obtain ⟨accepted, read, write, data, at0, at1, at2, _⟩ := openRing_eq_ok opened
    refine ⟨accepted, fun slot below => ?_, openRing_eq_ringOf honest opened⟩
    match slot, below with
    | 0, _ => exact ⟨read, at0⟩
    | 1, _ => exact ⟨write, at1⟩
    | 2, _ => exact ⟨data, at2⟩
  · rintro ⟨accepted, granted, rfl⟩
    rw [openRing, bind_eq_ok_iff]
    refine ⟨(), mapError_eq_ok_iff.2 ((validate_eq_ok_iff _ _).2 accepted), ?_⟩
    obtain ⟨read, at0⟩ := granted readSlot (by decide)
    obtain ⟨write, at1⟩ := granted writeSlot (by decide)
    obtain ⟨data, at2⟩ := granted dataSlot (by decide)
    obtain ⟨_, _, _, slot0, slot1, _, counter0, counter1, _⟩ := accepted.slots
    have small : descriptor.quantumSize * descriptor.quantumCount < wordLimit :=
      Nat.lt_of_le_of_lt accepted.bytes_le (by decide)
    simp only [mapRing, bind_eq_ok_iff, mapError_eq_ok_iff]
    refine ⟨read, at0, write, at1, data, at2, (), checkAligned_mapSlot aligned slot0 counter0 at0, (),
      checkAligned_mapSlot aligned slot1 counter1 at1, descriptor.ringBytes, if_pos small, ?_⟩
    rw [ringOf, mapSlot_start honest at0, mapSlot_start honest at1, mapSlot_start honest at2]
    rfl

/-- A queue is valid exactly if its descriptor can be opened for its element size. -/
theorem ofDescriptor_eq_ok {page : Nat} {request : Nat → MapRequest} {element : ElementType}
    {descriptor : RegionDescriptor} {queue : MessageQueue}
    (h : ofDescriptor page request element descriptor = .ok queue) :
    queue.element = element ∧ queue.descriptor = descriptor ∧
      ∀ ring, queue.ring = some ring ↔ openRing page request descriptor element.size = .ok ring := by
  unfold ofDescriptor at h
  split at h
  · rename_i ring opened
    cases h
    exact ⟨rfl, rfl, fun other => by simp [opened]⟩
  · rename_i error opened
    cases h
    exact ⟨rfl, rfl, fun other => by simp [opened]⟩
  · cases h

/-- Whether a queue is reported or not makes no difference to one that is valid. -/
theorem ofDescriptor?_eq_ok_iff {page : Nat} {request : Nat → MapRequest} {element : ElementType}
    {descriptor : RegionDescriptor} {queue : MessageQueue} :
    ofDescriptor? page request element descriptor = .ok queue ↔
      ofDescriptor page request element descriptor = .ok queue ∧ queue.isValid = true := by
  unfold ofDescriptor? ofDescriptor
  cases openRing page request descriptor element.size with
  | ok ring =>
    simp only [bind, Except.bind, pure, Except.pure, Except.ok.injEq]
    exact ⟨fun h => by subst h; exact ⟨rfl, rfl⟩, And.left⟩
  | error stop =>
    cases stop with
    | failed error =>
      simp only [bind, Except.bind, reduceCtorEq, Except.ok.injEq, false_iff, not_and]
      rintro rfl
      simp [isValid]
    | faulted fault => simp [bind, Except.bind]

theorem ofDescriptor?_eq_failed {page : Nat} {request : Nat → MapRequest} {element : ElementType}
    {descriptor : RegionDescriptor} {queue : MessageQueue}
    (made : ofDescriptor page request element descriptor = .ok queue) (invalid : queue.isValid = false) :
    ∃ error, ofDescriptor? page request element descriptor = .error (.failed error) := by
  unfold ofDescriptor at made
  unfold ofDescriptor?
  cases opened : openRing page request descriptor element.size with
  | ok ring =>
    simp only [opened, Except.ok.injEq] at made
    subst made
    simp [isValid] at invalid
  | error stop =>
    cases stop with
    | failed error => exact ⟨error, rfl⟩
    | faulted fault => simp [opened] at made

/-- A queue is valid if its descriptor is accepted and the system maps the regions. -/
theorem ofDescriptor_of_granted {page : Nat} (aligned : counterSize ∣ page) {request : Nat → MapRequest}
    {objects : Int → Nat} (honest : Honest objects request) {descriptor : RegionDescriptor} {element : ElementType}
    (validated : descriptor.validate element.size = .ok ()) (granted : Granted page request descriptor) :
    ofDescriptor page request element descriptor =
      .ok { element, descriptor, ring := some (ringOf objects descriptor) } := by
  have accepted := (validate_eq_ok_iff _ _).1 validated
  rw [ofDescriptor, (openRing_eq_ok_iff aligned honest).2 ⟨accepted, granted, rfl⟩]

/-- A valid queue on a descriptor, whoever opened it. -/
def OpenedOn (objects : Int → Nat) (descriptor : RegionDescriptor) (queue : MessageQueue) : Prop :=
  ∃ page request, counterSize ∣ page ∧ Honest objects request ∧
    ofDescriptor page request queue.element descriptor = .ok queue ∧ queue.isValid = true

/-- What a new queue of an honest system is on. -/
theorem openedOn_ofDescriptor {page : Nat} (aligned : counterSize ∣ page) {request : Nat → MapRequest}
    {objects : Int → Nat} (honest : Honest objects request) {descriptor : RegionDescriptor} {element : ElementType}
    {queue : MessageQueue} (made : ofDescriptor page request element descriptor = .ok queue)
    (valid : queue.isValid = true) : OpenedOn objects descriptor queue := by
  obtain ⟨rfl, -, -⟩ := ofDescriptor_eq_ok made
  exact ⟨page, request, aligned, honest, made, valid⟩

theorem openedOn_of_granted {page : Nat} (aligned : counterSize ∣ page) {request : Nat → MapRequest}
    {objects : Int → Nat} (honest : Honest objects request) {descriptor : RegionDescriptor} {element : ElementType}
    (validated : descriptor.validate element.size = .ok ()) (granted : Granted page request descriptor) :
    OpenedOn objects descriptor { element, descriptor, ring := some (ringOf objects descriptor) } :=
  ⟨page, request, aligned, honest, ofDescriptor_of_granted aligned honest validated granted, rfl⟩

/-- **All valid queues on a descriptor share its ring.** -/
theorem OpenedOn.accepted_and_ring_eq {objects : Int → Nat} {descriptor : RegionDescriptor} {queue : MessageQueue}
    (h : OpenedOn objects descriptor queue) :
    Accepted descriptor queue.element.size ∧ queue.ring = some (ringOf objects descriptor) := by
  obtain ⟨page, request, aligned, honest, made, valid⟩ := h
  obtain ⟨ring, ring_eq⟩ := Option.isSome_iff_exists.1 valid
  obtain ⟨_, _, ring_iff⟩ := ofDescriptor_eq_ok made
  obtain ⟨accepted, _, rfl⟩ := (openRing_eq_ok_iff aligned honest).1 ((ring_iff ring).1 ring_eq)
  exact ⟨accepted, ring_eq⟩

end MessageQueue

end SharedRing
