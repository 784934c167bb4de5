import SharedRing.Proofs.Calls
import SharedRing.Segment.Creation

/-!
# Segments that are made, opened and released

A segment that is made or opened holds an object through a file descriptor of its own, and its name if
it is the creator; nothing else has changed (`Holds`). Releasing it takes back exactly this, so that a
creation that fails leaves all lookups as they were (`Undone`), whichever of its calls failed:
`Creation.Reached` says how far the system has come, and each step keeps it.
-/

namespace SharedRing

/-- The segment frees this name when it is released: it made the named object. -/
def QueueSegment.Creates (segment : QueueSegment) (name : String) : Prop :=
  segment.named = true ∧ segment.owner = true ∧ segment.name = name

instance (segment : QueueSegment) (name : String) : Decidable (segment.Creates name) :=
  inferInstanceAs (Decidable (_ ∧ _ ∧ _))

/-- All that was there is as it was: names, file descriptors, and objects with their lengths and bytes. -/
structure Undone (before after : System) : Prop where
  keeps : before.Keeps after
  object?_eq : ∀ fd, after.object? fd = before.object? fd
  named?_eq : ∀ name, after.named? name = before.named? name

theorem Undone.refl (system : System) : Undone system system :=
  ⟨.refl system, fun _ => rfl, fun _ => rfl⟩

/-- Since `before`, only this has changed: the segment holds an object, under its name if it created it. -/
structure Holds (before now : System) (segment : QueueSegment) (object : Nat) : Prop where
  keeps : before.Keeps now
  /-- The file descriptor is a new one. -/
  fresh : before.object? segment.fd = none
  object?_eq : ∀ fd, now.object? fd = if fd = segment.fd then some object else before.object? fd
  /-- A creator's name was free. -/
  free : ∀ name, segment.Creates name → before.named? name = none
  named?_eq : ∀ name, now.named? name = if segment.Creates name then some object else before.named? name

variable {before now after : System} {segment : QueueSegment} {object : Nat}

theorem Holds.object?_fd (h : Holds before now segment object) : now.object? segment.fd = some object := by
  rw [h.object?_eq, if_pos rfl]

/-- The ring of a segment's descriptor is the one that the layout puts into its object. -/
theorem QueueSegment.ringOf_descriptor {system : System} (held : system.object? segment.fd = some object) :
    MessageQueue.ringOf system.objects segment.descriptor = segment.layout.ring object := by
  rw [QueueSegment.descriptor, MessageQueue.ringOf_descriptor, System.objects_eq held]

theorem QueueSegment.openedOn_ring {system : System} (held : system.object? segment.fd = some object)
    {element : ElementType} (validated : segment.descriptor.validate element.size = .ok ())
    (granted : MessageQueue.Granted pageSize (fun _ => system.request) segment.descriptor) :
    MessageQueue.OpenedOn system.objects segment.descriptor
      ⟨element, segment.descriptor, some (segment.layout.ring object)⟩ := by
  rw [← QueueSegment.ringOf_descriptor held]
  exact MessageQueue.openedOn_of_granted (by decide) system.honest_request validated granted

/-! ## Release -/

theorem lengths_release (system : System) (segment : QueueSegment) :
    (segment.release system).lengths = system.lengths := by
  unfold QueueSegment.release
  cases segment.named && segment.owner <;> rfl

theorem memory_release (system : System) (segment : QueueSegment) :
    (segment.release system).memory = system.memory := by
  unfold QueueSegment.release
  cases segment.named && segment.owner <;> rfl

theorem object?_release (system : System) (segment : QueueSegment) (fd : Nat) :
    (segment.release system).object? fd = if fd = segment.fd then none else system.object? fd := by
  rw [← System.object?_close]
  unfold QueueSegment.release
  cases segment.named && segment.owner <;> rfl

/-- **Releasing a segment frees the name that it created, and no other.** -/
theorem named?_release (system : System) (segment : QueueSegment) (name : String) :
    (segment.release system).named? name = if segment.Creates name then none else system.named? name := by
  by_cases creator : (segment.named && segment.owner) = true
  · have same : segment.Creates name ↔ name = segment.name := by
      simp only [Bool.and_eq_true] at creator
      simp [QueueSegment.Creates, creator, eq_comm]
    rw [QueueSegment.release, if_pos creator, System.named?_unlink]
    simp only [same]
    rfl
  · rw [QueueSegment.release, if_neg creator, if_neg fun creates => creator (by simp [creates.1, creates.2.1])]
    rfl

theorem keeps_release (h : before.Keeps now) : before.Keeps (segment.release now) := by
  constructor
  case count_le => rw [lengths_release]; exact h.count_le
  case length_eq =>
    intro object known
    rw [System.length, lengths_release]
    exact h.length_eq object known
  case byte_eq => rw [memory_release]; exact h.byte_eq

/-- **Releasing a segment takes back what it changed.** -/
theorem Holds.release (h : Holds before now segment object) : Undone before (segment.release now) := by
  constructor
  case keeps => exact keeps_release h.keeps
  case object?_eq =>
    intro fd
    rw [object?_release, h.object?_eq]
    split
    · rename_i own
      rw [own, h.fresh]
    · rfl
  case named?_eq =>
    intro name
    rw [named?_release, h.named?_eq]
    split
    · rename_i creates
      rw [h.free name creates]
    · rfl

/-! ## Creation -/

/-- A creation has made its object, a new one, and the segment is the one that was asked for. -/
structure Made (before now : System) (named : Bool) (name : String) (layout : QueueLayout)
    (segment : QueueSegment) : Prop extends Holds before now segment before.lengths.length where
  known : before.lengths.length < now.lengths.length
  segment_eq : segment = { name, fd := segment.fd, layout, named, owner := true }

variable {named : Bool} {name : String} {layout : QueueLayout}

theorem Made.storeBytes (h : Made before now named name layout segment) (offset : Nat) (bytes : List UInt8) :
    Made before (now.storeBytes before.lengths.length offset bytes) named name layout segment :=
  { h with
    keeps := h.keeps.storeBytes (Nat.le_refl _) offset bytes
    known := by rw [System.storeBytes, List.length_set]; exact h.known }

theorem Made.resize (h : Made before now named name layout segment) (size : Nat) :
    Made before (now.resize before.lengths.length size) named name layout segment :=
  { h with
    keeps := h.keeps.resize (Nat.le_refl _) size
    known := by rw [System.resize, List.length_set]; exact h.known }

theorem object?_newObject (system : System) (fd : Nat) :
    system.newObject.2.object? fd =
      if fd = system.newObject.1 then some system.lengths.length else system.object? fd :=
  System.object?_openObject _ _ fd

theorem object?_newObject_fst (system : System) : system.object? system.newObject.1 = none :=
  System.object?_freeDescriptor system

namespace Creation

/-- The object is made under a name that was free, or under none. -/
theorem made_of_openObject {fd : Nat} (h : openObject before named name = .ok (fd, now)) :
    Made before now named name layout { name, fd, layout, named, owner := true } := by
  have known : before.lengths.length < before.newObject.2.lengths.length := by
    simp [System.newObject, System.openObject]
  have keeps := System.keeps_newObject before
  unfold openObject at h
  cases named with
  | true =>
    simp only [↓reduceIte] at h
    split at h
    case h_4 opened _ made =>
      cases h
      obtain ⟨free, rfl, rfl⟩ := System.makeNamed_eq_ok made
      have same : ∀ other, QueueSegment.Creates { name, fd := before.newObject.1, layout, named := true, owner := true }
          other ↔ other = name := by simp [QueueSegment.Creates, eq_comm]
      refine ⟨⟨⟨keeps.1, keeps.2, keeps.3⟩, object?_newObject_fst before, object?_newObject before, ?_, ?_⟩, known, rfl⟩
      · intro other creates
        rw [(same other).1 creates]
        exact free
      · intro other
        simp only [same]
        exact lookup_cons_eq _ _ _ _
    all_goals cases h
  | false =>
    simp only [Bool.false_eq_true, ↓reduceIte] at h
    split at h
    case h_3 opened _ made =>
      cases h
      obtain ⟨rfl, rfl⟩ := Prod.mk.inj (System.makeAnonymous_eq_ok made)
      refine ⟨⟨keeps, object?_newObject_fst before, object?_newObject before, ?_, ?_⟩, known, rfl⟩
      · rintro other ⟨unnamed, _⟩
        cases unnamed
      · intro other
        rw [if_neg fun creates => Bool.false_ne_true creates.1]
        rfl
    all_goals cases h

/-- What a creation has done to the system so far. -/
def Reached (before : System) (named : Bool) (name : String) (layout : QueueLayout) (now : System) :
    Creation → Prop
  | .opening named' name' layout' => now = before ∧ named' = named ∧ name' = name ∧ layout' = layout
  | .sizing segment => Made before now named name layout segment
  | .zeroingRead segment | .zeroingWrite segment | .finished segment =>
    Made before now named name layout segment ∧ now.length before.lengths.length = layout.totalSize
  | .failed _ => Undone before now

theorem opening_reached (before : System) (named : Bool) (name : String) (layout : QueueLayout) :
    Reached before named name layout before (.opening named name layout) :=
  ⟨rfl, rfl, rfl, rfl⟩

theorem size_reached (h : Made before now named name layout segment) :
    Reached before named name layout (size now segment).1 (size now segment).2 := by
  unfold size
  split
  · rename_i sized outcome
    obtain ⟨object, found, rfl⟩ := System.setLength_eq_ok outcome
    obtain rfl := Option.some.inj (h.object?_fd.symm.trans found)
    refine ⟨h.resize _, ?_⟩
    rw [System.length_resize, if_pos ⟨rfl, h.known⟩, h.segment_eq]
  · exact h.release

theorem zero_reached {offset : Nat} {next : Creation} (inside : offset + counterSize ≤ layout.totalSize)
    (h : Made before now named name layout segment) (sized : now.length before.lengths.length = layout.totalSize)
    (goes_on : ∀ {after : System}, Made before after named name layout segment →
      after.length before.lengths.length = layout.totalSize → Reached before named name layout after next) :
    Reached before named name layout (zero now segment offset next).1 (zero now segment offset next).2 := by
  unfold zero QueueSegment.zeroCounter
  rcases outcome : now.writeAt segment.fd offset (bytesOfNat counterSize 0) with ⟨after, ⟨errno⟩ | ⟨⟩⟩
  · -- what was stored, if anything, went into the new object
    have written := System.writeAt_cases now segment.fd offset (bytesOfNat counterSize 0)
    rw [outcome] at written
    rcases written with rfl | ⟨object, stored, found, rfl⟩
    · exact h.release
    · obtain rfl := Option.some.inj (h.object?_fd.symm.trans found)
      exact (h.storeBytes offset stored).release
  · obtain ⟨object, found, rfl⟩ := System.writeAt_eq_ok outcome
    obtain rfl := Option.some.inj (h.object?_fd.symm.trans found)
    refine goes_on (h.storeBytes offset _) ?_
    change (now.storeBytes before.lengths.length offset (bytesOfNat counterSize 0)).length before.lengths.length = _
    rw [System.length_storeBytes, if_pos ⟨rfl, h.known⟩, sized, length_bytesOfNat]
    exact Nat.max_eq_left inside

/-- **A step of a creation keeps what is said of it.** -/
theorem step_reached {creation : Creation} (h : Reached before named name layout now creation) :
    Reached before named name layout (step now creation).1 (step now creation).2 := by
  cases creation with
  | opening named' name' layout' =>
    obtain ⟨rfl, rfl, rfl, rfl⟩ := h
    change Reached _ _ _ _ (make _ _ _ _).1 (make _ _ _ _).2
    unfold make
    split
    · rename_i fd opened outcome
      exact made_of_openObject outcome
    · exact .refl _
  | sizing segment => exact size_reached h
  | zeroingRead segment =>
    have inside : QueueLayout.readCounterOffset + counterSize ≤ layout.totalSize :=
      Nat.le_trans (by decide) (Nat.le_add_right QueueLayout.dataOffset layout.ringBytes)
    exact zero_reached inside h.1 h.2 fun made sized => ⟨made, sized⟩
  | zeroingWrite segment =>
    have inside : QueueLayout.writeCounterOffset + counterSize ≤ layout.totalSize :=
      Nat.le_trans (by decide) (Nat.le_add_right QueueLayout.dataOffset layout.ringBytes)
    exact zero_reached inside h.1 h.2 fun made sized => ⟨made, sized⟩
  | finished segment => exact h
  | failed error => exact h

/-- **A creation that is carried through has made the segment, or nothing.** -/
theorem run_reached {creation : Creation} (h : Reached before named name layout now creation) :
    (∀ segment after, run now creation = (after, .ok segment) →
      Made before after named name layout segment ∧ after.length before.lengths.length = layout.totalSize) ∧
    ∀ error after, run now creation = (after, .error error) → Undone before after := by
  fun_induction run now creation with
  | case1 now creation outcome ended =>
    cases creation with
    | finished segment =>
      cases ended
      exact ⟨fun _ _ same => by cases same; exact h, fun _ _ same => nomatch same⟩
    | failed error =>
      cases ended
      exact ⟨fun _ _ same => (nomatch same), fun _ _ same => by cases same; exact h⟩
    | _ => cases ended
  | case2 now creation _ advanced ih => exact ih (step_reached h)

end Creation

namespace QueueSegment

/-- **A created segment holds a new object of the layout's length.** -/
theorem create_eq_ok (h : create before named name layout = (after, .ok segment)) :
    Made before after named name layout segment ∧ after.length before.lengths.length = layout.totalSize :=
  (Creation.run_reached (Creation.opening_reached before named name layout)).1 segment after h

/-- **A creation that fails leaves all as it was.** -/
theorem create_eq_error {error : SharedMemoryError} (h : create before named name layout = (after, .error error)) :
    Undone before after :=
  (Creation.run_reached (Creation.opening_reached before named name layout)).2 error after h

/-! ## Opening -/

theorem holds_openObject (segment : QueueSegment) (opener : segment.owner = false)
    (h : (segment.fd, after) = before.openObject object) : Holds before after segment object := by
  have fd_eq : segment.fd = before.freeDescriptor := congrArg Prod.fst h
  obtain rfl : after = (before.openObject object).2 := congrArg Prod.snd h
  have creates_none : ∀ name, ¬ segment.Creates name := by
    rintro name ⟨_, owner, _⟩
    exact Bool.false_ne_true (opener.symm.trans owner)
  constructor
  case keeps => exact ⟨Nat.le_refl _, fun _ _ => rfl, fun _ _ => rfl⟩
  case fresh => rw [fd_eq]; exact System.object?_freeDescriptor before
  case object?_eq => rw [fd_eq]; exact System.object?_openObject before object
  case free =>
    intro name creates
    exact absurd creates (creates_none name)
  case named?_eq =>
    intro name
    rw [if_neg (creates_none name)]
    rfl

/-- **An opened segment holds the object of its name, which is as long as the layout needs.** -/
theorem openNamed_eq_ok (h : openNamed before name layout = (after, .ok segment)) :
    segment = { name, fd := segment.fd, layout, named := true, owner := false } ∧
      ∃ object, before.named? name = some object ∧ Holds before after segment object ∧
        layout.totalSize ≤ after.length object := by
  unfold openNamed at h
  split at h
  · cases h
  · cases h
  · rename_i fd opened _ outcome
    obtain ⟨object, found, opening⟩ := System.openNamed_eq_ok outcome
    simp only at h
    split at h
    · cases h
    · rename_i actual measured
      split at h
      · cases h
      · rename_i long
        cases h
        have holds := holds_openObject { name, fd, layout, named := true, owner := false } rfl opening
        refine ⟨rfl, object, found, holds, ?_⟩
        simp only [System.length?, holds.object?_fd, Except.ok.injEq] at measured
        omega

/-- **An opening that fails leaves all as it was.** -/
theorem openNamed_eq_error {error : SharedMemoryError} (h : openNamed before name layout = (after, .error error)) :
    Undone before after := by
  unfold openNamed at h
  split at h
  · cases h; exact .refl _
  · cases h; exact .refl _
  · rename_i fd opened _ outcome
    obtain ⟨object, _, opening⟩ := System.openNamed_eq_ok outcome
    have holds := holds_openObject { name, fd, layout, named := true, owner := false } rfl opening
    simp only at h
    split at h
    · cases h; exact holds.release
    · split at h
      · cases h; exact holds.release
      · cases h

end QueueSegment

end SharedRing
