import SharedRing.Proofs.Creations

/-!
# What fails leaves no trace

A request for a segment can fail at the check of the name, where the object is made or opened, where its
length is set, at either counter, or because the object is too short. Before the object is made nothing
has been done, and from then on there is a segment whose release takes everything back: whatever the point
of failure, the names lead to the same objects, and these have the same lengths and bytes
(`failed_request_leaves_no_trace`).

Under one limit the counters can always be zeroed once the length has been set (`QueueSegment.create_eq`).
To reach every point of failure the limit may change in between: `Creation.runUnder` has one for each step.
-/

namespace SharedRing

variable {before now after : System} {named : Bool} {name : String} {layout : QueueLayout} {limits : Nat → Option Nat}

/-- Lookups do not depend on the limit. -/
theorem Undone.of_under {limit : Option Nat} (h : Undone { before with limit } now) : Undone before now :=
  ⟨⟨h.keeps.count_le, h.keeps.length_eq, h.keeps.byte_eq⟩, h.object?_eq, h.named?_eq⟩

/-- The failure of a segment whose object had been made. -/
def SharedMemoryError.IsLate : SharedMemoryError → Prop
  | .createFailed _ (.length _) | .counterAccess _ => True
  | _ => False

namespace Creation

/-! ## Limits that change -/

/-- Carry a creation through to its end, each step under the limit for the number of steps that are left. -/
def runUnder (limits : Nat → Option Nat) (system : System) (creation : Creation) :
    System × Except SharedMemoryError QueueSegment :=
  match _h : creation.outcome? with
  | some outcome => (system, outcome)
  | none =>
    let advanced := step { system with limit := limits creation.stepsLeft } creation
    runUnder limits advanced.1 advanced.2
termination_by creation.stepsLeft
decreasing_by exact stepsLeft_step_lt _ creation _h

/-- How far a creation has come does not depend on the limit, once it has begun. -/
theorem Reached.under {creation : Creation} (h : Reached before named name layout now creation)
    (begun : creation.stepsLeft < 4) (limit : Option Nat) :
    Reached before named name layout { now with limit } creation := by
  have made : ∀ {segment}, Made before now named name layout segment →
      Made before { now with limit } named name layout segment := fun h =>
    { h with keeps := ⟨h.keeps.count_le, h.keeps.length_eq, h.keeps.byte_eq⟩ }
  cases creation with
  | opening named' name' layout' => exact absurd begun (by simp [stepsLeft])
  | sizing segment => exact made h
  | zeroingRead segment => exact ⟨made h.1, h.2⟩
  | zeroingWrite segment => exact ⟨made h.1, h.2⟩
  | finished segment => exact ⟨made h.1, h.2⟩
  | failed error => exact ⟨⟨h.keeps.count_le, h.keeps.length_eq, h.keeps.byte_eq⟩, h.object?_eq, h.named?_eq⟩

/-- **A creation that fails after it has begun leaves all as it was**, whatever becomes of the limit. -/
theorem runUnder_undone {creation : Creation} (h : Reached before named name layout now creation)
    (begun : creation.stepsLeft < 4) {error : SharedMemoryError}
    (failed : runUnder limits now creation = (after, .error error)) : Undone before after := by
  fun_induction runUnder limits now creation with
  | case1 now creation outcome ended =>
    cases creation with
    | failed error =>
      cases ended
      cases failed
      exact h
    | finished segment =>
      cases ended
      cases failed
    | _ => cases ended
  | case2 now creation going advanced ih =>
    have fewer := stepsLeft_step_lt { now with limit := limits creation.stepsLeft } creation going
    exact ih (step_reached (h.under begun _)) (Nat.lt_trans fewer begun) failed

theorem limit_step (system : System) (creation : Creation) : (step system creation).1.limit = system.limit := by
  have released : ∀ (now : System) (segment : QueueSegment), (segment.release now).limit = now.limit := by
    intro now segment
    unfold QueueSegment.release
    cases segment.named && segment.owner <;> rfl
  have zeroed : ∀ segment offset next, (zero system segment offset next).1.limit = system.limit := by
    intro segment offset next
    have written := System.writeAt_cases system segment.fd offset (bytesOfNat counterSize 0)
    unfold zero QueueSegment.zeroCounter
    rcases outcome : system.writeAt segment.fd offset (bytesOfNat counterSize 0) with ⟨after, ⟨errno⟩ | ⟨⟩⟩ <;>
      rw [outcome] at written <;> rcases written with rfl | ⟨object, stored, _, rfl⟩
    · exact released _ segment
    · exact released _ segment
    · rfl
    · rfl
  cases creation with
  | opening named name layout =>
    change (make system named name layout).1.limit = _
    unfold make
    split
    · rename_i made
      exact (openObject_eq_ok made).1
    · rfl
  | sizing segment =>
    change (size system segment).1.limit = _
    unfold size
    split
    · rename_i outcome
      obtain ⟨object, _, rfl⟩ := System.setLength_eq_ok outcome
      rfl
    · exact released system segment
  | zeroingRead segment => exact zeroed segment _ _
  | zeroingWrite segment => exact zeroed segment _ _
  | finished segment => rfl
  | failed error => rfl

/-- A limit that does not change is the system's. -/
theorem runUnder_const (system : System) (creation : Creation) :
    runUnder (fun _ => system.limit) system creation = run system creation := by
  fun_induction run system creation with
  | case1 system creation outcome ended =>
    rw [runUnder]
    split
    · rename_i outcome' ended'
      rw [ended] at ended'
      cases ended'
      rfl
    · rename_i going
      rw [ended] at going
      cases going
  | case2 system creation going advanced ih =>
    rw [limit_step system creation] at ih
    rw [runUnder]
    split
    · rename_i outcome ended
      rw [going] at ended
      cases ended
    · exact ih

end Creation

/-! ## Requests -/

/-- What may be asked for: a new segment, the one that a configuration describes, or one created elsewhere. -/
inductive SegmentRequest where
  | create (named : Bool) (name : String) (layout : QueueLayout)
  | createFrom (config : QueueConfig)
  | openNamed (name : String) (layout : QueueLayout)

namespace SegmentRequest

/-- The request makes an object of this name. -/
def Creates (name : String) : SegmentRequest → Prop
  | .create named other _ => named = true ∧ other = name
  | .createFrom config => config.named = true ∧ config.name = name
  | .openNamed .. => False

def carryOut (limits : Nat → Option Nat) (system : System) :
    SegmentRequest → System × Except SharedMemoryError QueueSegment
  | .create named name layout => Creation.runUnder limits system (.opening named name layout)
  | .createFrom config =>
    match config.layout with
    | .ok layout => Creation.runUnder limits system (.opening config.named config.name layout)
    | .error fault => (system, .error (.invalidLayout fault))
  | .openNamed name layout => QueueSegment.openNamed system name layout

def answer (system : System) : SegmentRequest → System × Except SharedMemoryError QueueSegment
  | .create named name layout => QueueSegment.create system named name layout
  | .createFrom config => QueueSegment.ofConfig system config
  | .openNamed name layout => QueueSegment.openNamed system name layout

theorem carryOut_const (system : System) (request : SegmentRequest) :
    request.carryOut (fun _ => system.limit) system = request.answer system := by
  cases request with
  | create named name layout => exact Creation.runUnder_const system _
  | createFrom config =>
    simp only [carryOut, answer, QueueSegment.ofConfig]
    cases config.layout with
    | ok layout => exact Creation.runUnder_const system _
    | error fault => rfl
  | openNamed name layout => rfl

end SegmentRequest

namespace Creation

theorem runUnder_opening (limits : Nat → Option Nat) (before : System) (named : Bool) (name : String)
    (layout : QueueLayout) : runUnder limits before (.opening named name layout) =
      let made := make { before with limit := limits 4 } named name layout
      runUnder limits made.1 made.2 := by
  rw [runUnder]
  rfl

theorem runUnder_failed (limits : Nat → Option Nat) (system : System) (error : SharedMemoryError) :
    runUnder limits system (.failed error) = (system, .error error) := by
  rw [runUnder]
  rfl

theorem runUnder_of_refused {fault : CreateFault}
    (refused : openObject { before with limit := limits 4 } named name = .error fault) :
    runUnder limits before (.opening named name layout) =
      ({ before with limit := limits 4 }, .error (.createFailed name fault)) := by
  rw [runUnder_opening, make, refused]
  exact runUnder_failed limits _ _

theorem not_late_of_openObject {fault : CreateFault} (refused : openObject before named name = .error fault) :
    ¬ (SharedMemoryError.createFailed name fault).IsLate := by
  intro late
  unfold openObject at refused
  split at refused
  · split at refused <;> cases refused <;> exact late
  · split at refused <;> cases refused <;> exact late

/-- A creation that fails leaves all as it was; if its object had been made, it can be made again. -/
theorem runUnder_opening_undone {error : SharedMemoryError}
    (failed : runUnder limits before (.opening named name layout) = (after, .error error)) :
    Undone before after ∧ (error.IsLate → ∃ made, openObject before named name = .ok made) := by
  cases outcome : openObject { before with limit := limits 4 } named name with
  | error fault =>
    rw [runUnder_of_refused outcome] at failed
    cases failed
    exact ⟨(Undone.refl _).of_under, fun late => absurd late (not_late_of_openObject outcome)⟩
  | ok made =>
    have makable := (openObject_isOk_iff _ named name).1 ⟨made, outcome⟩
    have begun := @step_reached { before with limit := limits 4 } _ named name layout _
      (opening_reached _ named name layout)
    have fewer := stepsLeft_step_lt { before with limit := limits 4 } (.opening named name layout) rfl
    rw [runUnder_opening] at failed
    exact ⟨(runUnder_undone begun fewer failed).of_under,
      fun _ => (openObject_isOk_iff before named name).2 makable⟩

/-- A creation under a name in use does nothing. -/
theorem runUnder_opening_of_bound (limits : Nat → Option Nat) (layout : QueueLayout) {object : Nat}
    (bound : before.named? name = some object) : ∃ error, runUnder limits before (.opening true name layout) =
      ({ before with limit := limits 4 }, .error error) := by
  cases outcome : openObject { before with limit := limits 4 } true name with
  | error fault => exact ⟨_, runUnder_of_refused outcome⟩
  | ok made =>
    have free := ((openObject_isOk_iff _ true name).1 ⟨made, outcome⟩).2 rfl
    exact absurd (bound.symm.trans free) (Option.some_ne_none object)

end Creation

namespace SegmentRequest

open Creation

variable {request : SegmentRequest}

theorem carryOut_undone {error : SharedMemoryError} (failed : request.carryOut limits before = (after, .error error)) :
    Undone before after ∧ ∀ name, request.Creates name → error.IsLate →
      ∃ made, openObject before true name = .ok made := by
  cases request with
  | create named other layout =>
    obtain ⟨undone, makable⟩ := runUnder_opening_undone failed
    refine ⟨undone, ?_⟩
    rintro name ⟨rfl, rfl⟩ late
    exact makable late
  | createFrom config =>
    simp only [carryOut] at failed
    split at failed
    · obtain ⟨undone, makable⟩ := runUnder_opening_undone failed
      refine ⟨undone, ?_⟩
      rintro name ⟨named_eq, rfl⟩ late
      exact named_eq ▸ makable late
    · cases failed
      exact ⟨.refl before, fun name _ late => late.elim⟩
  | openNamed other layout => exact ⟨QueueSegment.openNamed_eq_error failed, fun name creates => creates.elim⟩

theorem carryOut_of_bound (limits : Nat → Option Nat) {object : Nat} (creates : request.Creates name)
    (bound : before.named? name = some object) :
    ∃ limit error, request.carryOut limits before = ({ before with limit }, .error error) := by
  cases request with
  | create named other layout =>
    obtain ⟨rfl, rfl⟩ := creates
    exact ⟨_, runUnder_opening_of_bound limits layout bound⟩
  | createFrom config =>
    obtain ⟨named_eq, rfl⟩ := creates
    simp only [carryOut, named_eq]
    cases config.layout with
    | ok layout => exact ⟨_, runUnder_opening_of_bound limits layout bound⟩
    | error fault => exact ⟨before.limit, _, rfl⟩
  | openNamed other layout => exact creates.elim

end SegmentRequest

/-- **A request for a segment that fails leaves the world as it was**, at whatever point it fails: names and
file descriptors lead to the same objects, and these have the same lengths and bytes. A creation under a name
in use does nothing at all. One that fails after its object has been made leaves its name free, so that
without a limit it can be created again, with any layout. Under a limit that does not change this is what the
calls do. -/
theorem failed_request_leaves_no_trace (limits : Nat → Option Nat) (before : System) :
    (∀ (request : SegmentRequest) after error, request.carryOut limits before = (after, .error error) →
      Undone before after ∧
        ∀ name, request.Creates name → error.IsLate → after.named? name = none ∧
          ∀ layout, ∃ created segment,
            QueueSegment.create { after with limit := none } true name layout = (created, .ok segment)) ∧
    (∀ (request : SegmentRequest) name object, request.Creates name → before.named? name = some object →
      ∃ limit error, request.carryOut limits before = ({ before with limit }, .error error)) ∧
    ∀ request : SegmentRequest, request.carryOut (fun _ => before.limit) before = request.answer before := by
  refine ⟨?_, ?_, SegmentRequest.carryOut_const before⟩
  · intro request after error failed
    obtain ⟨undone, makable⟩ := SegmentRequest.carryOut_undone failed
    refine ⟨undone, fun name creates late => ?_⟩
    obtain ⟨proper, free⟩ := (Creation.openObject_isOk_iff before true name).1 (makable name creates late)
    have still : after.named? name = none := (undone.named?_eq name).trans (free rfl)
    exact ⟨still, fun layout => (QueueSegment.create_isOk_iff _ true name layout).2 ⟨⟨proper, fun _ => still⟩, rfl⟩⟩
  · intro request name object creates bound
    exact SegmentRequest.carryOut_of_bound limits creates bound

/-- The limit drops to 70 bytes before the write counter at 64 is zeroed: six of its bytes are stored, and
then the creation fails. The object that was there has kept its name, its length and its bytes, and the name
that was to be created can be. -/
theorem failed_request_within_counter :
    let layout : QueueLayout := ⟨8, 3, 24⟩
    let before := (QueueSegment.create .empty true "ring" layout).1.storeBytes 0 130 [7]
    let limits : Nat → Option Nat := fun left => if left = 1 then some 70 else none
    let failed := (SegmentRequest.create true "other" layout).carryOut limits before
    failed.2 = .error (.counterAccess (.zeroing 64 .tooLarge)) ∧ failed.1.named? "ring" = some 0 ∧
      failed.1.length 0 = 152 ∧ failed.1.memory.byte ⟨0, 130⟩ = 7 ∧
      ∃ created segment,
        QueueSegment.create { failed.1 with limit := none } true "other" ⟨4, 1, 4⟩ = (created, .ok segment) := by
  intro layout before limits failed
  have error_eq : failed.2 = .error (.counterAccess (.zeroing 64 .tooLarge)) := by decide +kernel
  obtain ⟨undone, again⟩ := (failed_request_leaves_no_trace limits before).1 (.create true "other" layout) failed.1 _
    (Prod.ext rfl error_eq)
  have known : 0 < before.lengths.length := by decide +kernel
  refine ⟨error_eq, (undone.named?_eq "ring").trans (by decide +kernel),
    (undone.keeps.length_eq 0 known).trans (by decide +kernel), ?_, (again "other" ⟨rfl, rfl⟩ trivial).2 ⟨4, 1, 4⟩⟩
  rw [undone.keeps.byte_eq ⟨0, 130⟩ known]
  simp [before, System.storeBytes, Memory.byte_setBytes]

end SharedRing
