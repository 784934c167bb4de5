import SharedRing.Proofs.Creations
import SharedRing.Proofs.Roles
import SharedRing.Proofs.Wraparound

/-!
# A creation that others do not wait for

A segment's name can be opened from its first step on, and its object is long enough from the second; its counters
are zeroed after that. So another party can have a queue on the ring before the creation has ended. `Race` lets the
steps of a creation alternate with what such a party does, in any order.

Zeroing the read counter does no harm, as nobody has read yet. Zeroing the write counter takes back all that has been
written before: what is left in the ring is what was written after the creation had ended, in order and complete
(`Sound.run`). So a creation loses exactly what is written before its end (`all_read_iff_none_early`).
-/

namespace SharedRing

theorem Ring.readCounter_write {ring : Ring} (sep : ring.Separate) (positive : 0 < ring.bytes) (memory : Memory)
    (source : List UInt8) :
    ((ring.write source).run memory).2.word ring.readCounter = memory.word ring.readCounter := by
  by_cases fits : source.length ≤ ring.bytes - ring.unread memory
  · obtain ⟨after, ran, wrote⟩ := run_write sep positive fits
    rw [ran]
    exact wrote.read_eq
  · rw [run_write_refused _ (Nat.lt_of_not_le fits)]
    rintro rfl
    exact fits (Nat.zero_le _)

/-- Once its object has its length, what a creation has left to do is to reset the counters. -/
theorem Creation.run_zeroingRead (system : System) (segment : QueueSegment) :
    run system (.zeroingRead segment) =
      match segment.resetCounters system with
      | (after, .ok ()) => (after, .ok segment)
      | (after, .error fault) => (segment.release after, .error (.counterAccess fault)) := by
  rw [run_step system rfl, step, zero, QueueSegment.resetCounters]
  rcases segment.zeroCounter system QueueLayout.readCounterOffset with ⟨after, fault | ⟨⟩⟩
  · exact run_of_ended _ rfl
  · simp only
    rw [run_step after rfl, step, zero]
    rcases segment.zeroCounter after QueueLayout.writeCounterOffset with ⟨last, fault | ⟨⟩⟩
    · exact run_of_ended _ rfl
    · exact run_of_ended _ rfl

/-- The creation of a named segment, and what another party has made of the name. -/
structure Race where
  system : System
  creation : Creation
  opened : Option QueueSegment
  queue : Option MessageQueue
  /-- The elements of writes that succeeded before the creation had ended, -/
  early : List Element
  /-- and of those that succeeded afterwards. -/
  late : List Element

namespace Race

/-- Whose turn it is. -/
inductive Turn where
  /-- The creation takes its next step. -/
  | create
  /-- The other party opens the name, unless it has done so, -/
  | openNamed
  /-- makes a queue on what it has opened, -/
  | build
  /-- and writes to the queue. -/
  | write (elements : List Element)

variable (name : String) (layout : QueueLayout) (type : ElementType)

def start (system : System) : Race :=
  { system, creation := .opening true name layout, opened := none, queue := none, early := [], late := [] }

def create (race : Race) : Race :=
  let (system, creation) := race.creation.step race.system
  { race with system, creation }

def openNamed (race : Race) : Race :=
  if race.opened.isSome then race
  else
    match QueueSegment.openNamed race.system name layout with
    | (system, .ok segment) => { race with system, opened := some segment }
    | (system, .error _) => { race with system }

def build (race : Race) : Race :=
  match race.opened with
  | some segment =>
    match MessageQueue.ofDescriptor pageSize (fun _ => race.system.request) type segment.descriptor with
    | .ok queue => { race with queue := some queue }
    | .error _ => race
  | none => race

def write (race : Race) (elements : List Element) : Race :=
  match race.queue with
  | some queue =>
    let (taken, system) := race.system.perform (queue.write elements)
    let ended := race.creation.outcome?.isSome
    { race with
      system
      early := if taken && !ended then race.early ++ elements else race.early
      late := if taken && ended then race.late ++ elements else race.late }
  | none => race

def turn (race : Race) : Turn → Race
  | .create => race.create
  | .openNamed => race.openNamed name layout
  | .build => race.build type
  | .write elements => race.write elements

def run (race : Race) (turns : List Turn) : Race := turns.foldl (turn name layout type) race

/-! ## How far the two have come -/

/-- Names and lengths are as they were, and file descriptors that were open still lead where they led. -/
structure Retains (before after : System) : Prop where
  named?_eq : ∀ name, after.named? name = before.named? name
  length_eq : ∀ object, after.length object = before.length object
  object?_eq : ∀ fd object, before.object? fd = some object → after.object? fd = some object

theorem retains_openNamed (system : System) (name : String) (layout : QueueLayout) :
    Retains system (QueueSegment.openNamed system name layout).1 := by
  have lengths_eq : (QueueSegment.openNamed system name layout).1.lengths = system.lengths := by
    unfold QueueSegment.openNamed
    split
    · rfl
    · rfl
    · rename_i outcome
      obtain ⟨object, _, opening⟩ := System.openNamed_eq_ok outcome
      obtain ⟨rfl, rfl⟩ := Prod.mk.inj opening
      simp only
      split
      · exact lengths_release _ _
      · split
        · exact lengths_release _ _
        · rfl
  rcases outcome : QueueSegment.openNamed system name layout with ⟨after, error | segment⟩
  · rw [outcome] at lengths_eq
    have undone := QueueSegment.openNamed_eq_error outcome
    refine ⟨undone.named?_eq, ?_, ?_⟩
    · intro object
      rw [System.length, System.length, lengths_eq]
    · intro fd object found
      exact (undone.object?_eq fd).trans found
  · rw [outcome] at lengths_eq
    obtain ⟨segment_eq, opened, _, holds, _⟩ := QueueSegment.openNamed_eq_ok outcome
    refine ⟨?_, ?_, ?_⟩
    · intro other
      rw [holds.named?_eq, if_neg]
      rintro ⟨-, owner, -⟩
      rw [segment_eq] at owner
      cases owner
    · intro object
      rw [System.length, System.length, lengths_eq]
    · intro fd object found
      rw [holds.object?_eq, if_neg, found]
      rintro rfl
      rw [holds.fresh] at found
      cases found

variable {name : String} {layout : QueueLayout} {type : ElementType} {system after : System} {segment : QueueSegment}
  {object : Nat}

/-- A segment of the layout holds the object of the name. -/
structure Reaches (name : String) (layout : QueueLayout) (system : System) (segment : QueueSegment) (object : Nat) :
    Prop where
  layout_eq : segment.layout = layout
  held : system.object? segment.fd = some object
  named : system.named? name = some object

/-- What holds at each stage of the creation. -/
def Stage (name : String) (layout : QueueLayout) (type : ElementType) (system : System) (late : List Element) :
    Creation → Prop
  | .opening named name' layout' => named = true ∧ name' = name ∧ layout' = layout
  | .sizing segment => ∃ object, Reaches name layout system segment object ∧ system.length object = 0
  | .zeroingRead segment => ∃ object, Reaches name layout system segment object
  | .zeroingWrite segment => ∃ object, Reaches name layout system segment object ∧
      system.memory.word (layout.ring object).readCounter = 0
  | .finished segment => ∃ object, Reaches name layout system segment object ∧
      (layout.ring object).Streams system.memory 0 (type.encodeAll late)
  | .failed _ => True

/-- What the other party has is on the object of the name, which has got its length. -/
structure Party (name : String) (layout : QueueLayout) (type : ElementType) (race : Race) : Prop where
  opened : ∀ segment, race.opened = some segment → ∃ object, Reaches name layout race.system segment object ∧
    layout.totalSize ≤ race.system.length object
  queue : ∀ queue, race.queue = some queue → ∃ object, race.system.named? name = some object ∧
    layout.totalSize ≤ race.system.length object ∧ queue.element = type ∧
    ∀ ring, queue.ring = some ring → ring = layout.ring object ∧ 0 < ring.bytes ∧ ring.bytes < wordLimit

/-- The two while the creation goes on, and when it has succeeded. -/
structure Orderly (name : String) (layout : QueueLayout) (type : ElementType) (race : Race) : Prop where
  stage : Stage name layout type race.system race.late race.creation
  none_late : race.creation.outcome? = none → race.late = []
  party : race.Party name layout type

/-- The invariant of the two. A creation that has failed takes its name back, and nothing is said of it. -/
def Sound (name : String) (layout : QueueLayout) (type : ElementType) (race : Race) : Prop :=
  race.Orderly name layout type ∨ ∃ error, race.creation = .failed error

theorem orderly_start (name : String) (layout : QueueLayout) (type : ElementType) (system : System) :
    (start name layout system).Orderly name layout type := by
  refine ⟨⟨rfl, rfl, rfl⟩, fun _ => rfl, ?_, ?_⟩
  · intro segment opened
    cases opened
  · intro queue built
    cases built

/-! ## Turns of the creation -/

section

variable {race : Race}

/-- As long as the name is free, or its object has no length, the other party has not got anywhere. -/
theorem Party.idle (h : race.Party name layout type)
    (closed : ∀ object, race.system.named? name = some object → race.system.length object = 0) :
    race.opened = none ∧ race.queue = none := by
  have positive : 0 < layout.totalSize := Nat.lt_of_lt_of_le (by decide) (Nat.le_add_right _ layout.ringBytes)
  constructor
  · cases opened : race.opened with
    | none => rfl
    | some segment =>
      obtain ⟨object, reaches, long⟩ := h.opened segment opened
      have empty := closed object reaches.named
      omega
  · cases built : race.queue with
    | none => rfl
    | some queue =>
      obtain ⟨object, named, long, _⟩ := h.queue queue built
      have empty := closed object named
      omega

theorem party_of_idle (opened : race.opened = none) (queue : race.queue = none) : race.Party name layout type := by
  constructor
  · intro segment same
    cases opened.symm.trans same
  · intro built same
    cases queue.symm.trans same

end

theorem Reaches.storeBytes (h : Reaches name layout system segment object) (other offset : Nat) (bytes : List UInt8) :
    Reaches name layout (system.storeBytes other offset bytes) segment object := by
  refine ⟨h.layout_eq, ?_, h.named⟩
  rw [System.object?_storeBytes]
  exact h.held

theorem memory_storeBytes_zero (system : System) (object offset : Nat) :
    (system.storeBytes object offset (bytesOfNat counterSize 0)).memory = system.memory.setWord ⟨object, offset⟩ 0 := rfl

/-- Zeroing a counter stores it, or ends the creation. -/
theorem zero_cases (system : System) (segment : QueueSegment) (offset : Nat) (next : Creation) :
    (∃ error, (Creation.zero system segment offset next).2 = .failed error) ∨
      ∃ object, system.object? segment.fd = some object ∧ Creation.zero system segment offset next =
        (system.storeBytes object offset (bytesOfNat counterSize 0), next) := by
  unfold Creation.zero QueueSegment.zeroCounter
  rcases outcome : system.writeAt segment.fd offset (bytesOfNat counterSize 0) with ⟨after, errno | _⟩
  · exact .inl ⟨_, rfl⟩
  · obtain ⟨object, found, rfl⟩ := System.writeAt_eq_ok outcome
    exact .inr ⟨object, found, rfl⟩

variable {race : Race}

theorem create_eq {creation next : Creation} (at_creation : race.creation = creation)
    (stepped : creation.step race.system = (after, next)) :
    race.create = { race with system := after, creation := next } := by
  subst at_creation
  simp only [create, stepped]

/-- Zeroing a counter leaves the other party where it is. -/
theorem Party.storeBytes (h : race.Party name layout type) (creation : Creation) (object offset : Nat)
    (bytes : List UInt8) :
    Party name layout type { race with system := race.system.storeBytes object offset bytes, creation } := by
  constructor
  case opened =>
    intro segment opened
    obtain ⟨other, reaches, long⟩ := h.opened segment opened
    exact ⟨other, reaches.storeBytes _ _ _, Nat.le_trans long (System.length_le_storeBytes _ _ _ _ other)⟩
  case queue =>
    intro queue built
    obtain ⟨other, named, long, on_ring⟩ := h.queue queue built
    exact ⟨other, named, Nat.le_trans long (System.length_le_storeBytes _ _ _ _ other), on_ring⟩

/-- What makes the object finds the other party idle: the name was free. -/
theorem Orderly.make (h : race.Orderly name layout type) {named : Bool} {name' : String} {layout' : QueueLayout}
    (at_creation : race.creation = .opening named name' layout') : race.create.Sound name layout type := by
  obtain ⟨stage, none_late, party⟩ := h
  rw [at_creation] at stage none_late
  obtain ⟨rfl, rfl, rfl⟩ := stage
  rcases made : Creation.openObject race.system true name' with fault | ⟨fd, opened⟩
  · have stepped : Creation.step race.system (.opening true name' layout') =
        (race.system, .failed (.createFailed name' fault)) := by simp only [Creation.step, Creation.make, made]
    rw [create_eq at_creation stepped]
    exact .inr ⟨_, rfl⟩
  · have stepped : Creation.step race.system (.opening true name' layout') =
        (opened, .sizing ⟨name', fd, layout', true, true⟩) := by simp only [Creation.step, Creation.make, made]
    rw [create_eq at_creation stepped]
    have holds := (@Creation.made_of_openObject race.system opened true name' layout' fd made).toHolds
    have free := holds.free name' ⟨rfl, rfl, rfl⟩
    have named : opened.named? name' = some race.system.lengths.length := by
      rw [holds.named?_eq, if_pos ⟨rfl, rfl, rfl⟩]
    obtain ⟨unopened, unbuilt⟩ := party.idle (by rw [free]; rintro _ ⟨⟩)
    left
    refine ⟨⟨_, ⟨rfl, holds.object?_fd, named⟩, (Creation.openObject_eq_ok made).2.2⟩, ?_, ?_⟩
    · intro _
      exact none_late rfl
    · exact party_of_idle unopened unbuilt

/-- What makes the object long enough finds the other party idle, too. -/
theorem Orderly.size (h : race.Orderly name layout type) (at_creation : race.creation = .sizing segment) :
    race.create.Sound name layout type := by
  obtain ⟨stage, none_late, party⟩ := h
  rw [at_creation] at stage none_late
  obtain ⟨object, reaches, empty⟩ := stage
  rcases outcome : race.system.setLength segment.fd segment.layout.totalSize with errno | sized
  · have stepped : Creation.step race.system (.sizing segment) =
        Creation.fail race.system segment (.createFailed segment.name (.length errno)) := by
      simp only [Creation.step, Creation.size, outcome]
    rw [create_eq at_creation stepped]
    exact .inr ⟨_, rfl⟩
  · have stepped : Creation.step race.system (.sizing segment) = (sized, .zeroingRead segment) := by
      simp only [Creation.step, Creation.size, outcome]
    rw [create_eq at_creation stepped]
    obtain ⟨object', found, rfl⟩ := System.setLength_eq_ok outcome
    have closed : ∀ other, race.system.named? name = some other → race.system.length other = 0 := by
      intro other named
      obtain rfl := Option.some.inj (reaches.named.symm.trans named)
      exact empty
    obtain ⟨unopened, unbuilt⟩ := party.idle closed
    left
    refine ⟨⟨object, reaches.layout_eq, reaches.held, reaches.named⟩, ?_, ?_⟩
    · intro _
      exact none_late rfl
    · exact party_of_idle unopened unbuilt

/-- Zeroing a counter takes one stage to the next, whatever the other party has. -/
theorem Orderly.zero (h : race.Orderly name layout type) {creation next : Creation} {offset : Nat}
    (at_creation : race.creation = creation)
    (stepped : creation.step race.system = Creation.zero race.system segment offset next)
    (reaches : Reaches name layout race.system segment object)
    (stage : Stage name layout type (race.system.storeBytes object offset (bytesOfNat counterSize 0)) race.late next)
    (none_late : next.outcome? = none → race.late = []) : race.create.Sound name layout type := by
  rcases zero_cases race.system segment offset next with ⟨error, failed⟩ | ⟨object', found, stored⟩
  · rw [create_eq at_creation stepped]
    exact .inr ⟨error, failed⟩
  · obtain rfl := Option.some.inj (reaches.held.symm.trans found)
    rw [create_eq at_creation (stepped.trans stored)]
    exact .inl ⟨stage, none_late, h.party.storeBytes _ _ _ _⟩

/-- **A step of the creation.** The one that zeroes the write counter empties the ring. -/
theorem Orderly.create (h : race.Orderly name layout type) : race.create.Sound name layout type := by
  have stage := h.stage
  have none_late := h.none_late
  cases at_creation : race.creation with
  | opening named name' layout' => exact h.make at_creation
  | sizing segment => exact h.size at_creation
  | zeroingRead segment =>
    rw [at_creation] at stage none_late
    obtain ⟨object, reaches⟩ := stage
    apply h.zero at_creation rfl reaches
    · refine ⟨object, reaches.storeBytes _ _ _, ?_⟩
      rw [memory_storeBytes_zero]
      exact Memory.word_setWord _ _ 0
    · intro _
      exact none_late rfl
  | zeroingWrite segment =>
    rw [at_creation] at stage none_late
    obtain ⟨object, reaches, read_zero⟩ := stage
    apply h.zero at_creation rfl reaches
    · refine ⟨object, reaches.storeBytes _ _ _, ?_⟩
      have apart := (layout.separate_ring object).counters.symm
      rw [memory_storeBytes_zero, none_late rfl]
      apply Ring.streams_nil
      · exact (Memory.word_setWord_of_apart race.system.memory 0 apart).trans read_zero
      · exact Memory.word_setWord _ _ 0
    · intro going
      cases going
  | finished segment =>
    rw [create_eq at_creation rfl]
    rw [at_creation] at stage none_late
    exact .inl ⟨stage, none_late, h.party.opened, h.party.queue⟩
  | failed error =>
    rw [create_eq at_creation rfl]
    exact .inr ⟨error, rfl⟩

/-! ## Turns of the other party -/

theorem creation_openNamed (race : Race) (name : String) (layout : QueueLayout) :
    (race.openNamed name layout).creation = race.creation := by
  unfold openNamed
  split
  · rfl
  · split <;> rfl

theorem creation_build (race : Race) (type : ElementType) : (race.build type).creation = race.creation := by
  unfold build
  split
  · split <;> rfl
  · rfl

theorem creation_write (race : Race) (elements : List Element) : (race.write elements).creation = race.creation := by
  unfold write
  split <;> rfl

theorem Reaches.retained (h : Reaches name layout system segment object) (retains : Retains system after) :
    Reaches name layout after segment object :=
  ⟨h.layout_eq, retains.object?_eq _ _ h.held, (retains.named?_eq name).trans h.named⟩

theorem Party.retained (h : race.Party name layout type) (retains : Retains race.system after) :
    Party name layout type { race with system := after } := by
  constructor
  case opened =>
    intro segment opened
    obtain ⟨object, reaches, long⟩ := h.opened segment opened
    exact ⟨object, reaches.retained retains, long.trans_eq (retains.length_eq object).symm⟩
  case queue =>
    intro queue built
    obtain ⟨object, named, long, on_ring⟩ := h.queue queue built
    exact ⟨object, (retains.named?_eq name).trans named, long.trans_eq (retains.length_eq object).symm, on_ring⟩

theorem Stage.retained {late : List Element} {creation : Creation} (h : Stage name layout type system late creation)
    (retains : Retains system after) (memory_eq : after.memory = system.memory) :
    Stage name layout type after late creation := by
  cases creation with
  | opening named name' layout' => exact h
  | sizing segment =>
    obtain ⟨object, reaches, empty⟩ := h
    exact ⟨object, reaches.retained retains, (retains.length_eq object).trans empty⟩
  | zeroingRead segment =>
    obtain ⟨object, reaches⟩ := h
    exact ⟨object, reaches.retained retains⟩
  | zeroingWrite segment =>
    obtain ⟨object, reaches, read_zero⟩ := h
    exact ⟨object, reaches.retained retains, memory_eq ▸ read_zero⟩
  | finished segment =>
    obtain ⟨object, reaches, streams⟩ := h
    exact ⟨object, reaches.retained retains, memory_eq ▸ streams⟩
  | failed error => trivial

/-- **The other party opens the name.** What it gets is the object of the name, if that has got its length. -/
theorem Orderly.openNamed (h : race.Orderly name layout type) :
    (race.openNamed name layout).Orderly name layout type := by
  unfold Race.openNamed
  split
  · exact h
  · have retains := retains_openNamed race.system name layout
    have memory_eq := QueueSegment.memory_openNamed race.system name layout
    split
    · rename_i after segment outcome
      rw [outcome] at retains memory_eq
      obtain ⟨segment_eq, object, named, holds, long⟩ := QueueSegment.openNamed_eq_ok outcome
      have reaches : Reaches name layout after segment object :=
        ⟨by rw [segment_eq], holds.object?_fd, (retains.named?_eq name).trans named⟩
      refine ⟨h.stage.retained retains memory_eq, h.none_late, ?_, (h.party.retained retains).queue⟩
      intro other same
      cases same
      exact ⟨object, reaches, long⟩
    · rename_i after error outcome
      rw [outcome] at retains memory_eq
      have party := h.party.retained retains
      exact ⟨h.stage.retained retains memory_eq, h.none_late, party.opened, party.queue⟩

/-- **It makes a queue**, on the ring of what it has opened. -/
theorem Orderly.build (h : race.Orderly name layout type) : (race.build type).Orderly name layout type := by
  unfold Race.build
  split
  · rename_i segment opened
    split
    · rename_i queue made
      refine ⟨h.stage, h.none_late, h.party.opened, ?_⟩
      intro other same
      cases same
      obtain ⟨object, reaches, long⟩ := h.party.opened segment opened
      obtain ⟨element_eq, -, ring_iff⟩ := MessageQueue.ofDescriptor_eq_ok made
      refine ⟨object, reaches.named, long, element_eq, ?_⟩
      intro ring valid
      have mapped := (ring_iff ring).1 valid
      have accepted := (MessageQueue.openRing_eq_ok mapped).1
      have ring_eq := MessageQueue.openRing_eq_ringOf race.system.honest_request mapped
      refine ⟨?_, ?_, ?_⟩
      · rw [ring_eq, QueueSegment.ringOf_descriptor reaches.held, reaches.layout_eq]
      · rw [ring_eq]
        exact accepted.ringBytes_pos
      · rw [ring_eq]
        exact Nat.lt_of_le_of_lt accepted.bytes_le (by decide)
    · exact h
  · exact h

/-- What a write to the ring makes of it, at each stage. -/
theorem Stage.write {late : List Element} {creation : Creation} (h : Stage name layout type system late creation)
    (named : system.named? name = some object) (positive : 0 < (layout.ring object).bytes)
    (small : (layout.ring object).bytes < wordLimit) {elements : List Element} {taken : Bool} {memory : Memory}
    (ran : ((layout.ring object).write (type.encodeAll elements)).run system.memory = (taken, memory)) :
    Stage name layout type { system with memory }
      (if taken && creation.outcome?.isSome then late ++ elements else late) creation := by
  have sep := layout.separate_ring object
  cases creation with
  | opening named' name' layout' => exact h
  | sizing segment =>
    obtain ⟨other, reaches, empty⟩ := h
    exact ⟨other, ⟨reaches.layout_eq, reaches.held, reaches.named⟩, empty⟩
  | zeroingRead segment =>
    obtain ⟨other, reaches⟩ := h
    exact ⟨other, reaches.layout_eq, reaches.held, reaches.named⟩
  | zeroingWrite segment =>
    obtain ⟨other, reaches, read_zero⟩ := h
    obtain rfl := Option.some.inj (named.symm.trans reaches.named)
    have read_eq := Ring.readCounter_write sep positive system.memory (type.encodeAll elements)
    rw [ran] at read_eq
    exact ⟨object, ⟨reaches.layout_eq, reaches.held, reaches.named⟩, read_eq.trans read_zero⟩
  | finished segment =>
    obtain ⟨other, reaches, streams⟩ := h
    obtain rfl := Option.some.inj (named.symm.trans reaches.named)
    refine ⟨object, ⟨reaches.layout_eq, reaches.held, reaches.named⟩, ?_⟩
    by_cases fits : (type.encodeAll late).length + (type.encodeAll elements).length ≤ (layout.ring object).bytes
    · obtain ⟨after, ran', streams'⟩ := streams.write sep positive fits (by omega)
      obtain ⟨rfl, rfl⟩ := Prod.mk.inj (ran.symm.trans ran')
      rw [← ElementType.encodeAll_append] at streams'
      exact streams'
    · obtain ⟨rfl, rfl⟩ := Prod.mk.inj (ran.symm.trans (streams.write_refused (Nat.lt_of_not_le fits)))
      exact streams
  | failed error => trivial

/-- **It writes.** -/
theorem Orderly.write (h : race.Orderly name layout type) (elements : List Element) :
    (race.write elements).Orderly name layout type := by
  unfold Race.write
  split
  · rename_i queue built
    obtain ⟨object, named, long, rfl, on_ring⟩ := h.party.queue queue built
    rcases performed : (queue.write elements).run race.system.memory with ⟨taken, memory⟩
    simp only [System.perform_eq, performed]
    have retains : Retains race.system { race.system with memory } := ⟨fun _ => rfl, fun _ => rfl, fun _ _ found => found⟩
    have party := h.party.retained retains
    refine ⟨?_, ?_, party.opened, party.queue⟩
    · cases valid : queue.ring with
      | none =>
        simp only [MessageQueue.write, valid, Access.run_pure] at performed
        obtain ⟨rfl, rfl⟩ := Prod.mk.inj performed
        exact h.stage.retained retains rfl
      | some ring =>
        obtain ⟨rfl, positive, small⟩ := on_ring ring valid
        simp only [MessageQueue.write, valid] at performed
        exact h.stage.write named positive small performed
    · intro going
      have unended : race.creation.outcome?.isSome = false := by rw [going]; rfl
      simp only [unended, Bool.and_false, Bool.false_eq_true, ↓reduceIte]
      exact h.none_late going
  · exact h

/-- **No turn breaks the invariant.** -/
theorem Sound.turn (h : race.Sound name layout type) (turn : Turn) :
    (race.turn name layout type turn).Sound name layout type := by
  rcases h with orderly | ⟨error, failed⟩
  · cases turn with
    | create => exact orderly.create
    | openNamed => exact .inl orderly.openNamed
    | build => exact .inl orderly.build
    | write elements => exact .inl (orderly.write elements)
  · right
    cases turn with
    | create =>
      rw [Race.turn, create_eq failed rfl]
      exact ⟨error, rfl⟩
    | openNamed => exact ⟨error, (creation_openNamed race name layout).trans failed⟩
    | build => exact ⟨error, (creation_build race type).trans failed⟩
    | write elements => exact ⟨error, (creation_write race elements).trans failed⟩

/-- **Whatever the order of the turns, the two keep the invariant.** -/
theorem Sound.run (h : race.Sound name layout type) (turns : List Turn) :
    (race.run name layout type turns).Sound name layout type := by
  induction turns generalizing race with
  | nil => exact h
  | cons turn turns ih => exact ih (h.turn turn)

theorem holds_run {turns : List Turn} (typed : ∀ elements, .write elements ∈ turns → ∀ element ∈ elements, type.Holds element)
    (h : ∀ element ∈ race.late, type.Holds element) :
    ∀ element ∈ (race.run name layout type turns).late, type.Holds element := by
  induction turns generalizing race with
  | nil => exact h
  | cons turn turns ih =>
    apply ih (fun elements member => typed elements (List.mem_cons_of_mem _ member))
    cases turn with
    | create => exact h
    | openNamed =>
      change ∀ element ∈ (race.openNamed name layout).late, _
      unfold Race.openNamed
      split
      · exact h
      · split <;> exact h
    | build =>
      change ∀ element ∈ (race.build type).late, _
      unfold Race.build
      split
      · split <;> exact h
      · exact h
    | write elements =>
      change ∀ element ∈ (race.write elements).late, _
      unfold Race.write
      split
      · simp only
        split
        · intro element member
          rcases List.mem_append.1 member with before | new
          · exact h element before
          · exact typed elements List.mem_cons_self element new
        · exact h
      · exact h

end Race

namespace MessageQueue

/-- **Reads in a row return what the ring streams**, however it is divided among them. -/
theorem readAll_of_streams {queue : MessageQueue} {ring : Ring} (ring_eq : queue.ring = some ring)
    (sep : ring.Separate) (positive : 0 < ring.bytes) {buffers : List (List Element)} {memory : Memory} {start : Nat}
    {elements : List Element} (streams : ring.Streams memory start (queue.element.encodeAll elements))
    (holds : ∀ element ∈ elements, queue.element.Holds element)
    (whole : (buffers.map List.length).sum = elements.length) :
    ((queue.readAll buffers).run memory).1 = ((buffers.map List.length).splitLengths elements).map (true, ·) := by
  induction buffers generalizing memory start elements with
  | nil => rfl
  | cons buffer buffers ih =>
    rw [List.map_cons, List.sum_cons] at whole
    have encoded : queue.element.encodeAll elements = queue.element.encodeAll (elements.take buffer.length) ++
        queue.element.encodeAll (elements.drop buffer.length) := by
      rw [← ElementType.encodeAll_append, List.take_append_drop]
    have front_length : (queue.element.encodeAll (elements.take buffer.length)).length =
        (queue.element.encodeAll buffer).length := by
      rw [ElementType.length_encodeAll, ElementType.length_encodeAll, List.length_take, Nat.min_eq_left (by omega)]
    obtain ⟨after, ran, rest⟩ := @Ring.Streams.read ring memory start _ streams sep positive
      (queue.element.encodeAll buffer) (by rw [encoded, List.length_append, front_length]; exact Nat.le_add_right _ _)
    rw [encoded, List.take_left' front_length] at ran
    rw [encoded, List.drop_left' front_length] at rest
    have decoded := @ElementType.decodeAll_encodeAll queue.element (elements.take buffer.length)
      fun element member => holds element (List.mem_of_mem_take member)
    rw [List.length_take, Nat.min_eq_left (by omega)] at decoded
    have later := ih rest (fun element member => holds element (List.mem_of_mem_drop member)) (by simp; omega)
    simp only [readAll, MessageQueue.read, ring_eq, Access.run_bind, Access.run_pure, ran, later, decoded,
      List.map_cons, List.splitLengths, List.splitAt_eq]

end MessageQueue

namespace Race

/-- **A consumer finds what was written after the creation had ended, and nothing else.** So it reads all that
was written, in order, exactly if nothing was written before. -/
theorem all_read_iff_none_early (before : System) (name : String) (layout : QueueLayout) {type : ElementType}
    {turns : List Turn} (typed : ∀ elements, .write elements ∈ turns → ∀ element ∈ elements, type.Holds element)
    {segment : QueueSegment} {consumer : MessageQueue}
    (finished : ((start name layout before).run name layout type turns).creation = .finished segment)
    (opened : MessageQueue.OpenedOn ((start name layout before).run name layout type turns).system.objects
      segment.descriptor consumer) (element_eq : consumer.element = type) :
    let race := (start name layout before).run name layout type turns
    let written := race.early ++ race.late
    (consumer.availableToRead.run race.system.memory).1 = race.late.length * type.size ∧
    (∀ buffers, (buffers.map List.length).sum = race.late.length →
      ((consumer.readAll buffers).run race.system.memory).1 =
        ((buffers.map List.length).splitLengths race.late).map (true, ·)) ∧
    ((∀ buffers, (buffers.map List.length).sum = written.length →
      ((consumer.readAll buffers).run race.system.memory).1 =
        ((buffers.map List.length).splitLengths written).map (true, ·)) ↔ race.early = []) := by
  intro race written
  have holds : ∀ element ∈ race.late, type.Holds element := holds_run typed (by rintro _ ⟨⟩)
  obtain ⟨stage, -, -⟩ | ⟨error, failed⟩ := Sound.run (.inl (orderly_start name layout type before)) turns
  case inr => cases failed.symm.trans finished
  rw [finished] at stage
  obtain ⟨object, reaches, streams⟩ := stage
  subst element_eq
  -- the consumer's ring is the one that has been laid out
  obtain ⟨accepted, ring_eq⟩ := opened.accepted_and_ring_eq
  have positive : 0 < (layout.ring object).bytes := reaches.layout_eq ▸ accepted.ringBytes_pos
  have sep := layout.separate_ring object
  rw [QueueSegment.ringOf_descriptor reaches.held, reaches.layout_eq] at ring_eq
  have unread_eq := streams.unread_eq
  rw [ElementType.length_encodeAll] at unread_eq
  have reads_late := fun buffers => @MessageQueue.readAll_of_streams consumer _ ring_eq sep positive buffers _ _ _
    streams holds
  refine ⟨?_, reads_late, ?_, ?_⟩
  · simp only [MessageQueue.availableToRead, ring_eq, Ring.run_availableToRead]
    exact unread_eq
  · intro all
    -- the read of everything at once asks for more than there is
    have replies := all [consumer.blank written.length] (by simp [MessageQueue.blank])
    rcases ran : (consumer.read (consumer.blank written.length)).run race.system.memory with ⟨⟨done, filled⟩, after⟩
    simp only [MessageQueue.readAll, Access.run_bind, Access.run_pure, ran, List.map_cons, List.map_nil,
      List.splitLengths, List.cons.injEq, Prod.mk.injEq, and_true] at replies
    obtain ⟨rfl, -⟩ := replies
    obtain ⟨bytes, ran⟩ := MessageQueue.read_eq_ok ring_eq ran
    have size_pos : 0 < consumer.element.size := accepted.size_eq ▸ accepted.size_pos
    by_cases nothing : written = []
    · exact (List.append_eq_nil_iff.1 nothing).1
    · have blank : consumer.blank written.length ≠ [] := by simpa [MessageQueue.blank] using nothing
      obtain ⟨-, enough⟩ := Ring.read_enough (by simpa [ElementType.encodeAll_eq_nil_iff size_pos] using blank) ran
      rw [unread_eq, ElementType.length_encodeAll, MessageQueue.blank, List.length_replicate] at enough
      have le : written.length ≤ race.late.length := Nat.le_of_mul_le_mul_right enough size_pos
      rw [List.length_append] at le
      exact List.length_eq_zero_iff.1 (by omega)
  · intro none_early
    have written_eq : written = race.late := by simp only [written, none_early, List.nil_append]
    rw [written_eq]
    exact reads_late

theorem exists_write_eq {race : Race} {queue : MessageQueue} {ring : Ring} (built : race.queue = some queue)
    (ring_eq : queue.ring = some ring) (sep : ring.Separate) (positive : 0 < ring.bytes) {elements : List Element}
    (room : (queue.element.encodeAll elements).length ≤ ring.bytes - ring.unread race.system.memory) :
    ∃ memory, race.write elements =
      { race with
        system := { race.system with memory }
        early := if race.creation.outcome?.isSome then race.early else race.early ++ elements
        late := if race.creation.outcome?.isSome then race.late ++ elements else race.late } := by
  obtain ⟨memory, ran, -⟩ := Ring.run_write sep positive room
  refine ⟨memory, ?_⟩
  simp only [Race.write, built, System.perform_eq, MessageQueue.write, ring_eq, ran]
  cases race.creation.outcome?.isSome <;> rfl

/-- Which queues there can be on a segment depends on the open file descriptors. -/
theorem openedOn_ring {system after : System} {segment : QueueSegment} {object : Nat} {element : ElementType}
    (descriptors_eq : after.descriptors = system.descriptors)
    (held : system.object? segment.fd = some object) (validated : segment.descriptor.validate element.size = .ok ())
    (granted : MessageQueue.Granted pageSize (fun _ => system.request) segment.descriptor) :
    MessageQueue.OpenedOn after.objects segment.descriptor
      ⟨element, segment.descriptor, some (segment.layout.ring object)⟩ := by
  have objects_eq : after.objects = system.objects := by
    funext fd
    simp only [System.objects, System.object?, descriptors_eq]
  rw [objects_eq]
  exact QueueSegment.openedOn_ring held validated granted

/-- The name is opened before it is there, before its object is long enough, and after the creation has ended: two
words that are then written are read one by one. -/
theorem all_read_when_late :
    let words : List Element := [.integer 1, .integer 2]
    let race := (start "ring" ⟨4, 4, 16⟩ .empty).run "ring" ⟨4, 4, 16⟩ (.unsigned 4)
      [.openNamed, .create, .openNamed, .create, .create, .create, .openNamed, .build, .write words]
    let segment : QueueSegment := ⟨"ring", 3, ⟨4, 4, 16⟩, true, true⟩
    let consumer : MessageQueue := ⟨.unsigned 4, segment.descriptor, some (segment.layout.ring 0)⟩
    race.creation = .finished segment ∧
      ((consumer.readAll [[.integer 0], [.integer 0]]).run race.system.memory).1 =
        [(true, [.integer 1]), (true, [.integer 2])] := by
  intro words race segment consumer
  let ring : Ring := segment.layout.ring 0
  have sep : ring.Separate := segment.layout.separate_ring 0
  let zeroed := ((Memory.zero.clearFrom 0 144).setWord ring.readCounter 0).setWord ring.writeCounter 0
  let system : System := ⟨zeroed, [144], [("ring", 0)], [(4, 0), (3, 0)], none⟩
  let queue : MessageQueue := ⟨.unsigned 4, QueueLayout.descriptor ⟨4, 4, 16⟩ 4, some ring⟩
  let before : Race := ⟨system, .finished segment, some ⟨"ring", 4, ⟨4, 4, 16⟩, true, false⟩, some queue, [], []⟩
  have reached : (start "ring" ⟨4, 4, 16⟩ .empty).run "ring" ⟨4, 4, 16⟩ (.unsigned 4)
      [.openNamed, .create, .openNamed, .create, .create, .create, .openNamed, .build] = before := by rfl
  have race_eq : race = before.write words := congrArg (Race.write · words) reached
  have nothing : ring.unread zeroed = 0 := by
    rw [Ring.unread, Memory.word_setWord, Memory.word_setWord_of_apart _ _ sep.counters.symm, Memory.word_setWord]
    rfl
  obtain ⟨memory, written⟩ := @exists_write_eq before queue ring rfl rfl sep (by decide) words
    (by rw [show before.system.memory = zeroed from rfl, nothing]; decide)
  rw [written] at race_eq
  have finished : race.creation = .finished segment := by rw [race_eq]
  have descriptors_eq : race.system.descriptors = system.descriptors := by rw [race_eq]
  have opened : MessageQueue.OpenedOn race.system.objects segment.descriptor consumer :=
    openedOn_ring descriptors_eq rfl rfl (by decide +kernel)
  have typed : ∀ elements, Turn.write elements ∈ [.openNamed, .create, .openNamed, .create, .create, .create, .openNamed,
      .build, .write words] → ∀ element ∈ elements, ElementType.Holds (.unsigned 4) element := by
    simp [words]
    decide
  obtain ⟨-, reads, -⟩ := all_read_iff_none_early .empty "ring" ⟨4, 4, 16⟩ typed finished opened rfl
  have late_eq : race.late = words := by rw [race_eq]; rfl
  refine ⟨finished, ?_⟩
  have replies := reads [[.integer 0], [.integer 0]]
  rw [show ((start "ring" ⟨4, 4, 16⟩ .empty).run "ring" ⟨4, 4, 16⟩ (.unsigned 4) _).late = words from late_eq] at replies
  exact replies rfl

/-- Two words are written before the counters are zeroed. The write succeeds and so does the creation, and there is
nothing to read. -/
theorem creation_loses_early_words :
    let words : List Element := [.integer 1, .integer 2]
    let race := (start "ring" ⟨4, 4, 16⟩ .empty).run "ring" ⟨4, 4, 16⟩ (.unsigned 4)
      [.create, .create, .openNamed, .build, .write words, .create, .create]
    let segment : QueueSegment := ⟨"ring", 3, ⟨4, 4, 16⟩, true, true⟩
    let consumer : MessageQueue := ⟨.unsigned 4, segment.descriptor, some (segment.layout.ring 0)⟩
    race.creation = .finished segment ∧ race.early = words ∧ race.late = [] ∧
      MessageQueue.OpenedOn race.system.objects segment.descriptor consumer ∧
      ((consumer.read [.integer 0, .integer 0]).run race.system.memory).1 = (false, [.integer 0, .integer 0]) := by
  intro words race segment consumer
  let ring : Ring := segment.layout.ring 0
  have sep : ring.Separate := segment.layout.separate_ring 0
  let system : System := ⟨Memory.zero.clearFrom 0 144, [144], [("ring", 0)], [(4, 0), (3, 0)], none⟩
  let queue : MessageQueue := ⟨.unsigned 4, QueueLayout.descriptor ⟨4, 4, 16⟩ 4, some ring⟩
  let before : Race := ⟨system, .zeroingRead segment, some ⟨"ring", 4, ⟨4, 4, 16⟩, true, false⟩, some queue, [], []⟩
  have reached : (start "ring" ⟨4, 4, 16⟩ .empty).run "ring" ⟨4, 4, 16⟩ (.unsigned 4)
      [.create, .create, .openNamed, .build] = before := by rfl
  have race_eq : race = (before.write words).create.create :=
    congrArg (fun before => (before.write words).create.create) reached
  have blank : ∀ place, system.memory.word place = 0 := by
    intro place
    rw [← Memory.word_zero place]
    apply Memory.word_congr
    intro i _
    rw [Memory.byte_clearFrom, Memory.byte_zero, ite_self]
  have room : (queue.element.encodeAll words).length ≤ ring.bytes - ring.unread system.memory := by
    rw [Ring.unread, blank, blank]
    decide
  obtain ⟨memory, written⟩ := @exists_write_eq before queue ring rfl rfl sep (by decide) words room
  rw [written] at race_eq
  have emptied : race.system.memory = (memory.setWord ring.readCounter 0).setWord ring.writeCounter 0 := by
    rw [race_eq]
    rfl
  have nothing : ring.unread race.system.memory = 0 := by
    rw [emptied, Ring.unread, Memory.word_setWord, Memory.word_setWord_of_apart _ _ sep.counters.symm,
      Memory.word_setWord]
    rfl
  have descriptors_eq : race.system.descriptors = system.descriptors := by rw [race_eq]; rfl
  have opened : MessageQueue.OpenedOn race.system.objects segment.descriptor consumer :=
    openedOn_ring descriptors_eq rfl rfl (by decide +kernel)
  have refused := @Ring.run_read_refused ring race.system.memory (consumer.element.encodeAll [.integer 0, .integer 0])
    (by decide) (by rw [nothing]; decide)
  refine ⟨?_, ?_, ?_, opened, ?_⟩
  · rw [race_eq]
    rfl
  · rw [race_eq]
    rfl
  · rw [race_eq]
    rfl
  · simp only [MessageQueue.read, consumer, Access.run_bind, Access.run_pure]
    rw [refused]
    rfl

end Race

end SharedRing
