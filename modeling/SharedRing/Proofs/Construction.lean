import SharedRing.Proofs.Opening

/-!
# Why a queue is not made

Opening a queue fails because validation refuses the descriptor, or because the system refuses one of
the three requests to map, and for no other reason (`construction_fails_only_as_stated`). Mapping has
more ways to fail, its arithmetic could leave the words and a counter could lie askew; `Unobstructed`
says of each of these that validation has excluded it.
-/

namespace SharedRing

/-- The window of a grantor that ends at an offset is computed without overflow. -/
theorem Grantor.window_eq_pages {grantor : Grantor} {page : Nat} (positive : 0 < page)
    (ends : grantor.offset + grantor.extent ≤ maxOffset) : grantor.window page = .ok (grantor.pages page) := by
  have word : maxOffset < wordLimit := by decide
  have le := Nat.mod_le grantor.offset page
  exact Grantor.window_eq_ok_iff.2 ⟨positive, by omega, rfl⟩

namespace MessageQueue

open RegionDescriptor

/-! ## What is asked of the system -/

def slotGrantor (descriptor : RegionDescriptor) (slot : Nat) : Grantor :=
  (descriptor.grantor? slot).getD ⟨0, 0, 0⟩

def slotFd (descriptor : RegionDescriptor) (slot : Nat) : Int :=
  (descriptor.handle.fd? (slotGrantor descriptor slot).fdIndex).getD 0

/-- The system's answer to the request to map a slot. -/
def answer (page : Nat) (request : Nat → MapRequest) (descriptor : RegionDescriptor) (slot : Nat) :
    Except Errno Nat :=
  request slot (slotFd descriptor slot) ((slotGrantor descriptor slot).pages page)

/-- The error that a refused request ends in. -/
def refusal (errno : Errno) : Error := .sharedMemory (.mapFailed (.refused errno))

def regionOn (page : Nat) (descriptor : RegionDescriptor) (slot object : Nat) : MappedRegion :=
  { object
    window := (slotGrantor descriptor slot).pages page
    lead := (slotGrantor descriptor slot).offset % page
    extent := (slotGrantor descriptor slot).extent }

/-- Nothing but the system stops the three slots from being mapped and checked. -/
structure Unobstructed (page : Nat) (request : Nat → MapRequest) (descriptor : RegionDescriptor) : Prop where
  /-- Each slot has a grantor, and its object is in the handle. -/
  slotted : ∀ slot < requiredSlots, descriptor.grantor? slot = some (slotGrantor descriptor slot) ∧
    descriptor.handle.fd? (slotGrantor descriptor slot).fdIndex = some (slotFd descriptor slot)
  /-- The window is computed without overflow, is not empty and starts at an offset. -/
  windowed : ∀ slot < requiredSlots,
    let window := (slotGrantor descriptor slot).pages page
    (slotGrantor descriptor slot).window page = .ok window ∧ 0 < window.length ∧ window.offset ≤ maxOffset
  /-- So a slot is mapped exactly if the system maps it, and else fails with the system's error. -/
  mapped : ∀ slot < requiredSlots, mapSlot page request descriptor slot =
    ((answer page request descriptor slot).map (regionOn page descriptor slot)).mapError fun errno =>
      .failed (refusal errno)
  /-- The counters are aligned, wherever the system puts the mapping. -/
  aligned : ∀ slot < dataSlot, ∀ object, checkAligned (regionOn page descriptor slot object) = .ok () ∧
    ∀ base, page ∣ base → (base + (regionOn page descriptor slot object).lead) % counterSize = 0
  product : multiplyWords descriptor.quantumSize descriptor.quantumCount = .ok descriptor.ringBytes
  /-- The ring lies within the mapping. -/
  enclosed : ∀ object, let data := regionOn page descriptor dataSlot object
    data.lead + descriptor.ringBytes ≤ data.window.length

/-! ## What validation excludes -/

section

variable {page : Nat} {request : Nat → MapRequest} {descriptor : RegionDescriptor} {size : Nat}

theorem slotted_of_accepted (accepted : Accepted descriptor size) {slot : Nat} (below : slot < requiredSlots) :
    descriptor.grantor? slot = some (slotGrantor descriptor slot) ∧ 0 < (slotGrantor descriptor slot).extent := by
  obtain ⟨read, write, data, at0, at1, at2, ⟨room0, _⟩, ⟨room1, _⟩, holds⟩ := accepted.slots
  have ring_pos := accepted.ringBytes_pos
  have counter_pos : 0 < counterSize := by decide
  match slot, below with
  | 0, _ => rw [slotGrantor, show descriptor.grantor? 0 = some read from at0]; exact ⟨rfl, by simp; omega⟩
  | 1, _ => rw [slotGrantor, show descriptor.grantor? 1 = some write from at1]; exact ⟨rfl, by simp; omega⟩
  | 2, _ => rw [slotGrantor, show descriptor.grantor? 2 = some data from at2]; exact ⟨rfl, by simp; omega⟩

theorem grantorFits_of_accepted (accepted : Accepted descriptor size) {slot : Nat} (below : slot < requiredSlots) :
    descriptor.GrantorFits (slotGrantor descriptor slot) :=
  accepted.fits _ (List.mem_of_getElem? (slotted_of_accepted accepted below).1)

theorem holdsCounter_of_accepted (accepted : Accepted descriptor size) {slot : Nat} (below : slot < dataSlot) :
    HoldsCounter (slotGrantor descriptor slot) := by
  obtain ⟨read, write, _, at0, at1, _, counter0, counter1, _⟩ := accepted.slots
  match slot, below with
  | 0, _ => rw [slotGrantor, show descriptor.grantor? 0 = some read from at0]; exact counter0
  | 1, _ => rw [slotGrantor, show descriptor.grantor? 1 = some write from at1]; exact counter1

theorem ringBytes_le_of_accepted (accepted : Accepted descriptor size) :
    descriptor.ringBytes ≤ (slotGrantor descriptor dataSlot).extent := by
  obtain ⟨_, _, data, _, _, at2, _, _, holds⟩ := accepted.slots
  rw [slotGrantor, at2]
  exact holds

theorem fd?_of_accepted (accepted : Accepted descriptor size) {slot : Nat} (below : slot < requiredSlots) :
    descriptor.handle.fd? (slotGrantor descriptor slot).fdIndex = some (slotFd descriptor slot) := by
  have known := (grantorFits_of_accepted accepted below).1
  rw [slotFd, Handle.fd?, List.getElem?_eq_getElem known]
  rfl

/-- **Validation leaves only the system to stop a mapping.** -/
theorem unobstructed_of_accepted (aligned : counterSize ∣ page) (positive : 0 < page) (request : Nat → MapRequest)
    (accepted : Accepted descriptor size) : Unobstructed page request descriptor := by
  have windowed : ∀ slot < requiredSlots,
      (slotGrantor descriptor slot).window page = .ok ((slotGrantor descriptor slot).pages page) ∧
        0 < ((slotGrantor descriptor slot).pages page).length ∧
        ((slotGrantor descriptor slot).pages page).offset ≤ maxOffset := by
    intro slot below
    have ends := (grantorFits_of_accepted accepted below).2
    have extent_pos := (slotted_of_accepted accepted below).2
    have start_le := Nat.div_mul_le_self (slotGrantor descriptor slot).offset page
    refine ⟨Grantor.window_eq_pages positive ends, ?_, ?_⟩
    · exact Nat.lt_of_lt_of_le extent_pos (Nat.le_add_left _ _)
    · simp only [Grantor.pages]
      omega
  constructor
  case slotted =>
    intro slot below
    exact ⟨(slotted_of_accepted accepted below).1, fd?_of_accepted accepted below⟩
  case windowed => exact windowed
  case mapped =>
    intro slot below
    obtain ⟨window_eq, length_pos, _⟩ := windowed slot below
    have lead := Grantor.offset_sub_pages (slotGrantor descriptor slot) page
    simp only [mapSlot, MappedRegion.map, (slotted_of_accepted accepted below).1,
      fd?_of_accepted accepted below, window_eq, if_neg (Nat.pos_iff_ne_zero.1 length_pos), lead]
    unfold answer
    cases request slot (slotFd descriptor slot) ((slotGrantor descriptor slot).pages page) with
    | ok object => rfl
    | error errno => rfl
  case aligned =>
    intro slot below object
    have counter := (holdsCounter_of_accepted accepted below).2
    have lead : (slotGrantor descriptor slot).offset % page % counterSize = 0 := by
      rw [Nat.mod_mod_of_dvd _ aligned, counter]
    refine ⟨if_pos lead, fun base boundary => ?_⟩
    rw [Nat.add_mod, Nat.mod_eq_zero_of_dvd (Nat.dvd_trans aligned boundary), Nat.zero_add, Nat.mod_mod]
    exact lead
  case product => exact if_pos (Nat.lt_of_le_of_lt accepted.bytes_le (by decide))
  case enclosed =>
    intro object
    exact Nat.add_le_add_left (ringBytes_le_of_accepted accepted) _

/-! ## Outcomes -/

/-- The ring on the objects that the system answers with, slot by slot; the first refusal ends it. -/
def answeredRing (page : Nat) (request : Nat → MapRequest) (descriptor : RegionDescriptor) : Except Errno Ring := do
  let read ← answer page request descriptor readSlot
  let write ← answer page request descriptor writeSlot
  let data ← answer page request descriptor dataSlot
  return { readCounter := (regionOn page descriptor readSlot read).start
           writeCounter := (regionOn page descriptor writeSlot write).start
           data := (regionOn page descriptor dataSlot data).start
           bytes := descriptor.ringBytes }

theorem mapRing_eq_answeredRing (h : Unobstructed page request descriptor) :
    mapRing page request descriptor =
      (answeredRing page request descriptor).mapError fun errno => .failed (refusal errno) := by
  have aligned0 := fun object => (h.aligned readSlot (by decide) object).1
  have aligned1 := fun object => (h.aligned writeSlot (by decide) object).1
  rw [mapRing, answeredRing, h.mapped readSlot (by decide), h.mapped writeSlot (by decide),
    h.mapped dataSlot (by decide)]
  cases answer page request descriptor readSlot with
  | error errno => rfl
  | ok read =>
    cases answer page request descriptor writeSlot with
    | error errno => rfl
    | ok write =>
      cases answer page request descriptor dataSlot with
      | error errno => rfl
      | ok data =>
        simp only [Except.map, mapError_ok, bind, Except.bind, aligned0, aligned1, h.product]
        rfl

theorem answeredRing_isOk_iff : (∃ ring, answeredRing page request descriptor = .ok ring) ↔
    ∀ slot < requiredSlots, ∃ object, answer page request descriptor slot = .ok object := by
  simp only [answeredRing, bind_eq_ok_iff]
  constructor
  · rintro ⟨_, read, at0, write, at1, data, at2, _⟩ slot below
    match slot, below with
    | 0, _ => exact ⟨read, at0⟩
    | 1, _ => exact ⟨write, at1⟩
    | 2, _ => exact ⟨data, at2⟩
  · intro granted
    obtain ⟨read, at0⟩ := granted readSlot (by decide)
    obtain ⟨write, at1⟩ := granted writeSlot (by decide)
    obtain ⟨data, at2⟩ := granted dataSlot (by decide)
    exact ⟨_, read, at0, write, at1, data, at2, rfl⟩

theorem answeredRing_eq_error_iff (errno : Errno) : answeredRing page request descriptor = .error errno ↔
    ∃ slot < requiredSlots, answer page request descriptor slot = .error errno ∧
      ∀ earlier < slot, ∃ object, answer page request descriptor earlier = .ok object := by
  simp only [answeredRing, bind_eq_error_iff]
  constructor
  · rintro (refused | ⟨read, at0, refused | ⟨write, at1, refused | ⟨data, _, rest⟩⟩⟩)
    · exact ⟨readSlot, by decide, refused, fun _ before => absurd before (Nat.not_lt_zero _)⟩
    · refine ⟨writeSlot, by decide, refused, fun earlier before => ?_⟩
      match earlier, before with
      | 0, _ => exact ⟨read, at0⟩
    · refine ⟨dataSlot, by decide, refused, fun earlier before => ?_⟩
      match earlier, before with
      | 0, _ => exact ⟨read, at0⟩
      | 1, _ => exact ⟨write, at1⟩
    · cases rest
  · rintro ⟨slot, below, refused, granted⟩
    match slot, below with
    | 0, _ => exact .inl refused
    | 1, _ =>
      obtain ⟨read, at0⟩ := granted readSlot (by decide)
      exact .inr ⟨read, at0, .inl refused⟩
    | 2, _ =>
      obtain ⟨read, at0⟩ := granted readSlot (by decide)
      obtain ⟨write, at1⟩ := granted writeSlot (by decide)
      exact .inr ⟨read, at0, .inr ⟨write, at1, .inl refused⟩⟩

theorem openRing_eq_match (aligned : counterSize ∣ page) (positive : 0 < page) :
    openRing page request descriptor size =
      match descriptor.validate size with
      | .error cause => .error (.failed (.descriptor cause))
      | .ok () => (answeredRing page request descriptor).mapError fun errno => .failed (refusal errno) := by
  rw [openRing]
  cases checked : descriptor.validate size with
  | error cause => rfl
  | ok _ =>
    have accepted := (validate_eq_ok_iff _ _).1 checked
    exact mapRing_eq_answeredRing (unobstructed_of_accepted aligned positive request accepted)

/-- Opening never breaks off: what validation leaves unchecked cannot fault. -/
theorem openRing_ne_faulted (aligned : counterSize ∣ page) (positive : 0 < page) (fault : Fault) :
    openRing page request descriptor size ≠ .error (.faulted fault) := by
  rw [openRing_eq_match aligned positive]
  cases descriptor.validate size with
  | error cause => simp
  | ok _ =>
    cases answeredRing page request descriptor with
    | error errno => simp [mapError_error]
    | ok ring => simp [mapError_ok]

/-- A queue is always made. -/
theorem exists_ofDescriptor_eq_ok (aligned : counterSize ∣ page) (positive : 0 < page) (request : Nat → MapRequest)
    (element : ElementType) (descriptor : RegionDescriptor) :
    ∃ queue, ofDescriptor page request element descriptor = .ok queue := by
  unfold ofDescriptor
  split
  · exact ⟨_, rfl⟩
  · exact ⟨_, rfl⟩
  · rename_i fault opened
    exact absurd opened (openRing_ne_faulted aligned positive fault)

end

section

variable {page : Nat} {request : Nat → MapRequest} {element : ElementType} {descriptor : RegionDescriptor}

theorem ofDescriptor?_isOk_iff (aligned : counterSize ∣ page) (positive : 0 < page) :
    (∃ queue, ofDescriptor? page request element descriptor = .ok queue) ↔
      descriptor.validate element.size = .ok () ∧
        ∀ slot < requiredSlots, ∃ object, answer page request descriptor slot = .ok object := by
  rw [← answeredRing_isOk_iff, ofDescriptor?, openRing_eq_match aligned positive]
  cases descriptor.validate element.size with
  | error cause => simp [bind, Except.bind]
  | ok _ =>
    cases answeredRing page request descriptor with
    | error errno => simp [mapError_error, bind, Except.bind]
    | ok ring => simp [mapError_ok, bind, Except.bind, pure, Except.pure]

theorem ofDescriptor?_eq_failed_iff (aligned : counterSize ∣ page) (positive : 0 < page) (error : Error) :
    ofDescriptor? page request element descriptor = .error (.failed error) ↔
      (∃ cause, descriptor.validate element.size = .error cause ∧ error = .descriptor cause) ∨
        descriptor.validate element.size = .ok () ∧ ∃ slot < requiredSlots, ∃ errno,
          (answer page request descriptor slot = .error errno ∧
            ∀ earlier < slot, ∃ object, answer page request descriptor earlier = .ok object) ∧
          error = refusal errno := by
  have refused : (∃ slot < requiredSlots, ∃ errno, (answer page request descriptor slot = .error errno ∧
        ∀ earlier < slot, ∃ object, answer page request descriptor earlier = .ok object) ∧ error = refusal errno) ↔
      ∃ errno, answeredRing page request descriptor = .error errno ∧ error = refusal errno := by
    simp only [answeredRing_eq_error_iff]
    constructor
    · rintro ⟨slot, below, errno, first, rfl⟩
      exact ⟨errno, ⟨slot, below, first⟩, rfl⟩
    · rintro ⟨errno, ⟨slot, below, first⟩, rfl⟩
      exact ⟨slot, below, errno, first, rfl⟩
  rw [refused, ofDescriptor?, openRing_eq_match aligned positive]
  cases descriptor.validate element.size with
  | error cause => simp [bind, Except.bind, eq_comm]
  | ok _ =>
    cases answeredRing page request descriptor with
    | error errno => simp [mapError_error, bind, Except.bind, eq_comm]
    | ok ring => simp [mapError_ok, bind, Except.bind, pure, Except.pure]

theorem ofDescriptor?_ne_faulted (aligned : counterSize ∣ page) (positive : 0 < page) (fault : Fault) :
    ofDescriptor? page request element descriptor ≠ .error (.faulted fault) := by
  rw [ofDescriptor?, ne_eq, bind_eq_error_iff]
  rintro (broken | ⟨_, _, rest⟩)
  · exact openRing_ne_faulted aligned positive fault broken
  · cases rest

end

/-- **A queue is made exactly if validation accepts its descriptor and the system maps the three slots;
else the error is validation's, or the system's for the first slot that it refuses.** Nothing else can
stop it or break it off, and an unreported queue is always made and is valid in the same cases. -/
theorem construction_fails_only_as_stated {page : Nat} (aligned : counterSize ∣ page) (positive : 0 < page)
    (request : Nat → MapRequest) (element : ElementType) (descriptor : RegionDescriptor) :
    ((∃ queue, ofDescriptor? page request element descriptor = .ok queue) ↔
      descriptor.validate element.size = .ok () ∧
        ∀ slot < requiredSlots, ∃ object, answer page request descriptor slot = .ok object) ∧
    (∀ error, ofDescriptor? page request element descriptor = .error (.failed error) ↔
      (∃ cause, descriptor.validate element.size = .error cause ∧ error = .descriptor cause) ∨
        descriptor.validate element.size = .ok () ∧ ∃ slot < requiredSlots, ∃ errno,
          (answer page request descriptor slot = .error errno ∧
            ∀ earlier < slot, ∃ object, answer page request descriptor earlier = .ok object) ∧
          error = refusal errno) ∧
    (∀ fault, ofDescriptor? page request element descriptor ≠ .error (.faulted fault)) ∧
    (descriptor.validate element.size = .ok () → Unobstructed page request descriptor) ∧
    ∃ queue, ofDescriptor page request element descriptor = .ok queue ∧
      (queue.isValid = true ↔ ∃ opened, ofDescriptor? page request element descriptor = .ok opened) := by
  refine ⟨?_, ?_, ?_, ?_, ?_⟩
  · exact ofDescriptor?_isOk_iff aligned positive
  · intro error
    exact ofDescriptor?_eq_failed_iff aligned positive error
  · intro fault
    exact ofDescriptor?_ne_faulted aligned positive fault
  · intro validated
    exact unobstructed_of_accepted aligned positive request ((validate_eq_ok_iff _ _).1 validated)
  · obtain ⟨queue, made⟩ := exists_ofDescriptor_eq_ok aligned positive request element descriptor
    refine ⟨queue, made, fun valid => ⟨queue, ofDescriptor?_eq_ok_iff.2 ⟨made, valid⟩⟩, ?_⟩
    rintro ⟨opened, reported⟩
    obtain ⟨made', valid⟩ := ofDescriptor?_eq_ok_iff.1 reported
    obtain rfl := Except.ok.inj (made.symm.trans made')
    exact valid

/-- The second slot's request is the first to be refused. The grantors start inside pages, and the last one
is there twice. -/
theorem construction_refused_at_second_slot :
    let descriptor : RegionDescriptor := {
      handle := ⟨[7, 9]⟩, grantors := [⟨0, 4104, 8⟩, ⟨1, 24, 16⟩, ⟨0, 4097, 12⟩, ⟨0, 4097, 12⟩]
      quantumSize := 4, quantumCount := 3 }
    let request : Nat → MapRequest := fun slot fd _ =>
      if slot = readSlot then .ok 0 else if fd = 9 then .error .outOfMemory else .error .badDescriptor
    ofDescriptor? 4096 request (.signed 4) descriptor = .error (.failed (refusal .outOfMemory)) ∧
      ∃ queue, ofDescriptor 4096 request (.signed 4) descriptor = .ok queue ∧ queue.isValid = false := by
  intro descriptor request
  obtain ⟨made_iff, failed_iff, _, _, queue, made, valid_iff⟩ := construction_fails_only_as_stated
    (show counterSize ∣ 4096 by decide) (by decide) request (.signed 4) descriptor
  refine ⟨(failed_iff _).2 (.inr ⟨rfl, writeSlot, by decide, _, ⟨rfl, ?_⟩, rfl⟩), queue, made, ?_⟩
  · intro earlier before
    obtain rfl := Nat.lt_one_iff.1 before
    exact ⟨0, rfl⟩
  · refine Bool.eq_false_iff.2 fun valid => ?_
    obtain ⟨_, refused⟩ := (made_iff.1 (valid_iff.1 valid)).2 writeSlot (by decide)
    cases refused

end MessageQueue

end SharedRing
