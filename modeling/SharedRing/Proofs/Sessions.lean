import SharedRing.Proofs.Segments
import SharedRing.Session

/-!
# What a step of a session can do

A step leaves the segments, the names and the file descriptors alone, or drops the segment of an id, or
keeps a segment that was made or opened under an id (`step_moves`). Only a step that sets the length of
an object makes one shorter (`length_le_run`).
-/

namespace SharedRing

/-- An outsider sets the length of an object. -/
def Step.Truncates : Step → Prop
  | .truncate .. => True
  | _ => False

/-- A segment has been made or opened, or could not be. -/
inductive QueueSegment.Outcome (system : System) : System × Except SharedMemoryError QueueSegment → Prop
  | created (named : Bool) (name : String) (layout : QueueLayout) :
      Outcome system (QueueSegment.create system named name layout)
  | opened (name : String) (layout : QueueLayout) : Outcome system (QueueSegment.openNamed system name layout)

/-- **It holds an object that is as long as its layout needs, or nothing has changed.** -/
theorem QueueSegment.Outcome.holds_or_undone {system : System}
    {outcome : System × Except SharedMemoryError QueueSegment} (h : Outcome system outcome) :
    (∃ segment object, outcome.2 = .ok segment ∧ Holds system outcome.1 segment object ∧
      segment.layout.totalSize ≤ outcome.1.length object) ∨
      (∃ error, outcome.2 = .error error) ∧ Undone system outcome.1 := by
  cases h with
  | created named name layout =>
    rcases made : create system named name layout with ⟨after, error | segment⟩
    · exact .inr ⟨⟨error, rfl⟩, create_eq_error made⟩
    · obtain ⟨made, sized⟩ := create_eq_ok made
      have layout_eq : segment.layout = layout := by rw [made.segment_eq]
      exact .inl ⟨segment, _, rfl, made.toHolds, Nat.le_of_eq (layout_eq ▸ sized.symm)⟩
  | opened name layout =>
    rcases made : QueueSegment.openNamed system name layout with ⟨after, error | segment⟩
    · exact .inr ⟨⟨error, rfl⟩, openNamed_eq_error made⟩
    · obtain ⟨segment_eq, object, _, holds, long⟩ := openNamed_eq_ok made
      refine .inl ⟨segment, object, rfl, holds, ?_⟩
      rw [segment_eq]
      exact long

namespace Session

/-- The segments, the names and the file descriptors are as they were, and no object is shorter unless it
was truncated. -/
structure Stays (session : Session) (truncated : Prop) (next : Session) : Prop where
  segments : next.segments = session.segments
  names : next.system.names = session.system.names
  descriptors : next.system.descriptors = session.system.descriptors
  length_le : ¬ truncated → ∀ object, session.system.length object ≤ next.system.length object

/-- What a step can do to the segments of a session. -/
inductive Moves (session : Session) (step : Step) : Session → Prop
  | stays {next : Session} : session.Stays step.Truncates next → Moves session step next
  | drops (id : String) {next : Session} : step = .drop id →
      next.segments = (session.releaseSegment id).segments → next.system = (session.releaseSegment id).system →
      Moves session step next
  | keeps (id : String) {outcome : System × Except SharedMemoryError QueueSegment} :
      QueueSegment.Outcome session.system outcome → Moves session step (session.keepSegment id outcome).2

variable {session : Session} {truncated : Prop}

theorem Stays.refl : session.Stays truncated session :=
  ⟨rfl, rfl, rfl, fun _ _ => Nat.le_refl _⟩

/-- Accesses change bytes only. -/
theorem stays_perform {α : Type} (operation : Access α) :
    session.Stays truncated (session.perform operation).2 :=
  ⟨rfl, rfl, rfl, fun _ _ => Nat.le_refl _⟩

theorem stays_withKnown {α : Type} {known : Option α} {go : α → Answer × Session}
    (each : ∀ value, session.Stays truncated (go value).2) :
    session.Stays truncated (session.withKnown known go).2 := by
  cases known with
  | none => exact .refl
  | some value => exact each value

theorem Stays.storeBytes {next : Session} (h : session.Stays truncated next) (object offset : Nat)
    (bytes : List UInt8) :
    session.Stays truncated { next with system := next.system.storeBytes object offset bytes } := by
  refine ⟨h.segments, h.names, h.descriptors, fun kept other => ?_⟩
  exact Nat.le_trans (h.length_le kept other) (System.length_le_storeBytes _ _ _ _ other)

theorem Stays.zeroCounter {next : Session} (h : session.Stays truncated next) (segment : QueueSegment) (offset : Nat) :
    session.Stays truncated { next with system := (segment.zeroCounter next.system offset).1 } := by
  change session.Stays truncated
    { next with system := (next.system.writeAt segment.fd offset (bytesOfNat counterSize 0)).1 }
  rcases System.writeAt_cases next.system segment.fd offset (bytesOfNat counterSize 0) with
    same | ⟨object, stored, _, same⟩
  · rw [same]
    exact h
  · rw [same]
    exact h.storeBytes object offset stored

theorem stays_resetSegment (segment : QueueSegment) :
    session.Stays truncated (session.resetSegment segment).2 := by
  have first := (@Stays.refl session truncated).zeroCounter segment
    QueueLayout.readCounterOffset
  unfold resetSegment QueueSegment.resetCounters
  rcases once : segment.zeroCounter session.system QueueLayout.readCounterOffset with ⟨after, ⟨fault⟩ | ⟨⟩⟩
  · rw [once] at first
    exact first
  · rw [once] at first
    have second := first.zeroCounter segment QueueLayout.writeCounterOffset
    rcases twice : segment.zeroCounter after QueueLayout.writeCounterOffset with ⟨last, ⟨fault⟩ | ⟨⟩⟩
    · simp only [twice] at second ⊢
      exact second
    · simp only [twice] at second ⊢
      exact second

theorem stays_keepQueue (id : String) (outcome : Except (Stop Error) MessageQueue) :
    session.Stays truncated (session.keepQueue id outcome).2 := by
  rcases outcome with ⟨error | fault⟩ | queue
  · exact .refl
  · exact .refl
  · exact ⟨rfl, rfl, rfl, fun _ _ => Nat.le_refl _⟩

theorem stays_mapRegion (id : String) (fds : List Int) (grantor : Grantor) :
    session.Stays truncated (session.mapRegion id fds grantor).2 := by
  unfold mapRegion
  split
  · exact .refl
  · exact .refl
  · exact ⟨rfl, rfl, rfl, fun _ _ => Nat.le_refl _⟩

theorem stays_transfer (segment : QueueSegment) (first : UInt64) (total writeBatch readBatch : Nat) :
    session.Stays truncated (session.transfer segment first total writeBatch readBatch).2 := by
  unfold transfer
  split
  · exact .refl
  · exact .refl
  · exact stays_perform _

theorem moves_makeSegment {step : Step} (id : String) (quantumSize quantumCount : Nat)
    {make : QueueLayout → System × Except SharedMemoryError QueueSegment}
    (made : ∀ layout, QueueSegment.Outcome session.system (make layout)) :
    session.Moves step (session.makeSegment id quantumSize quantumCount make).2 := by
  unfold makeSegment
  split
  · exact .stays .refl
  · rename_i layout _
    exact .keeps id (made layout)

/-- **What a step does to the segments.** -/
theorem step_moves (session : Session) (step : Step) : session.Moves step (session.step step).2 := by
  cases step with
  | create seg named name quantumSize quantumCount =>
    exact moves_makeSegment seg _ _ fun layout => .created named name layout
  | openNamed seg name quantumSize quantumCount =>
    exact moves_makeSegment seg _ _ fun layout => .opened name layout
  | createFrom seg config =>
    change session.Moves _ (session.keepSegment seg (QueueSegment.ofConfig session.system config)).2
    unfold QueueSegment.ofConfig
    split
    · exact .keeps seg (.created _ _ _)
    · exact .stays .refl
  | segment seg => exact .stays (stays_withKnown fun _ => .refl)
  | counters seg => exact .stays (stays_withKnown fun _ => .refl)
  | reset seg => exact .stays (stays_withKnown stays_resetSegment)
  | truncate seg size =>
    refine .stays ?_
    change session.Stays _ (session.withKnown (session.object? seg) _).2
    cases session.object? seg with
    | none => exact .refl
    | some object => exact ⟨rfl, rfl, rfl, fun kept => absurd trivial kept⟩
  | limit size => exact .stays ⟨rfl, rfl, rfl, fun _ _ => Nat.le_refl _⟩
  | peek seg offset count => exact .stays (stays_withKnown fun _ => .refl)
  | poke seg offset bytes =>
    exact .stays (stays_withKnown fun object => Stays.refl.storeBytes object offset bytes)
  | drop id => exact .drops id rfl rfl rfl
  | queue q element reported source => exact .stays (stays_withKnown fun _ => stays_keepQueue q _)
  | info q => exact .stays (stays_withKnown fun _ => stays_perform _)
  | write q elements => exact .stays (stays_withKnown fun _ => stays_perform _)
  | writeOne q element => exact .stays (stays_withKnown fun _ => stays_perform _)
  | read q count => exact .stays (stays_withKnown fun _ => stays_perform _)
  | readOne q => exact .stays (stays_withKnown fun _ => stays_perform _)
  | map r sources grantor => exact .stays (stays_withKnown fun fds => stays_mapRegion r fds grantor)
  | regionRead r start count => exact .stays (stays_withKnown fun _ => stays_perform _)
  | regionWrite r start bytes => exact .stays (stays_withKnown fun _ => stays_perform _)
  | stream seg first total writeBatch readBatch =>
    exact .stays (stays_withKnown fun segment => stays_transfer segment first total writeBatch readBatch)

/-! ## Lengths -/

theorem lengths_releaseSegment (session : Session) (id : String) :
    (session.releaseSegment id).system.lengths = session.system.lengths := by
  unfold releaseSegment
  split
  · exact lengths_release _ _
  · rfl

theorem keeps_outcome {system : System} {outcome : System × Except SharedMemoryError QueueSegment}
    (h : QueueSegment.Outcome system outcome) : system.Keeps outcome.1 := by
  rcases h.holds_or_undone with ⟨_, _, _, holds, _⟩ | ⟨_, undone⟩
  · exact holds.keeps
  · exact undone.keeps

theorem lengths_keepSegment (session : Session) (id : String)
    (outcome : System × Except SharedMemoryError QueueSegment) :
    (session.keepSegment id outcome).2.system.lengths = outcome.1.lengths := by
  obtain ⟨after, result⟩ := outcome
  cases result with
  | ok segment => exact lengths_releaseSegment { session with system := after } id
  | error error => rfl

/-- No step makes an object shorter, unless it sets lengths. -/
theorem length_le_step (session : Session) {step : Step} (kept : ¬ step.Truncates) (object : Nat) :
    session.system.length object ≤ (session.step step).2.system.length object := by
  have moved := session.step_moves step
  generalize (session.step step).2 = next at moved ⊢
  cases moved with
  | stays h => exact h.length_le kept object
  | drops id _ _ system =>
    have same : next.system.lengths = session.system.lengths := by rw [system, lengths_releaseSegment]
    exact Nat.le_of_eq (by rw [System.length, System.length, same])
  | keeps id h =>
    rw [System.length, System.length, lengths_keepSegment]
    exact (keeps_outcome h).length_le object

/-- **No row of steps makes an object shorter, unless one of them sets lengths.** -/
theorem length_le_run {steps : List Step} (kept : ∀ step ∈ steps, ¬ step.Truncates) (session : Session)
    (object : Nat) : session.system.length object ≤ (session.run steps).2.system.length object := by
  induction steps generalizing session with
  | nil => exact Nat.le_refl _
  | cons step steps ih =>
    obtain ⟨first, others⟩ := List.forall_mem_cons.1 kept
    exact Nat.le_trans (session.length_le_step first object) (ih others (session.step step).2)

end Session

end SharedRing
