import SharedRing.Proofs.Creations
import SharedRing.Proofs.Interference
import SharedRing.Proofs.Names

/-!
# Where segments come from

A name can be freed and created again, and so can a file descriptor be closed and opened again on something else.
What happens only once is a successful creation. `Lineage` numbers them, going by a session's answers alone, and says
which one each segment, each name and each queue stems from: a segment that is opened from the creation that its
name belongs to at that time, a queue from that of its segment.

The steps considered are the ordinary ones. One that calls a queue performs the call (`step_of_operation?`); what
another one can do, and what it means for the lineage, is said once, by `Quiet` (`quiet_step`).
-/

namespace SharedRing

/-- A step of those who share queues: it makes, opens or drops something, makes a queue on a segment, calls a queue,
or looks. -/
def Step.Ordinary : Step → Prop
  | .create .. | .openNamed .. | .createFrom .. | .drop _ | .queue _ _ _ (.segment _) => True
  | .info _ | .write .. | .writeOne .. | .read .. | .readOne _ => True
  | .segment _ | .counters _ | .peek .. | .limit _ => True
  | .reset _ | .truncate .. | .poke .. | .queue _ _ _ (.custom ..) => False
  | .map .. | .regionRead .. | .regionWrite .. | .stream .. => False

/-- The step drops the id, or may make a queue under it. -/
def Step.Rebinds (q : String) : Step → Prop
  | .drop id | .queue id .. => id = q
  | _ => False

/-! ## Calls of queues -/

/-- The id of the queue that a step calls, and the call. -/
def Step.call? : Step → Option (String × (MessageQueue → Access Answer))
  | .info q => some (q, fun queue => .queue <$> Session.reportQueue queue)
  | .write q elements => some (q, fun queue => .moved <$> Session.afterWrite queue (queue.write elements))
  | .writeOne q element => some (q, fun queue => .moved <$> Session.afterWrite queue (queue.writeOne element))
  | .read q count => some (q, fun queue => .moved <$> Session.afterRead queue (queue.read (queue.blank count)))
  | .readOne q => some (q, fun queue => .moved <$> Session.afterRead queue (queue.readOne queue.element.zero))
  | _ => none

namespace Session

def operation? (session : Session) (step : Step) : Option (String × Access Answer) :=
  step.call?.bind fun (q, call) => (session.queue? q).map fun queue => (q, call queue)

theorem operation?_eq_some {session : Session} {step : Step} {q : String} {operation : Access Answer}
    (h : session.operation? step = some (q, operation)) :
    ∃ call queue, step.call? = some (q, call) ∧ session.queue? q = some queue ∧ operation = call queue := by
  obtain ⟨⟨id, call⟩, called, performed⟩ := Option.bind_eq_some_iff.1 h
  obtain ⟨queue, found, same⟩ := Option.map_eq_some_iff.1 performed
  cases same
  exact ⟨call, queue, called, found, rfl⟩

theorem perform_map {α β : Type} (session : Session) (finish : α → β) (operation : Access α) :
    session.perform (finish <$> operation) =
      (finish (session.perform operation).1, (session.perform operation).2) := by
  simp only [perform, System.perform, Access.run_map]

theorem step_of_call? (session : Session) {step : Step} {q : String} {call : MessageQueue → Access Answer}
    (h : step.call? = some (q, call)) :
    session.step step = session.withKnown (session.queue? q) fun queue => session.perform (call queue) := by
  have performs : ∀ {α : Type} (finish : α → Answer) (operation : MessageQueue → Access α),
      (session.withKnown (session.queue? q) fun queue =>
          (finish (session.perform (operation queue)).1, (session.perform (operation queue)).2)) =
        session.withKnown (session.queue? q) fun queue => session.perform (finish <$> operation queue) :=
    fun finish operation => congrArg _ (funext fun queue => (session.perform_map finish (operation queue)).symm)
  cases step
  case info => cases h; exact performs .queue reportQueue
  case write => cases h; exact performs .moved _
  case writeOne => cases h; exact performs .moved _
  case read => cases h; exact performs .moved _
  case readOne => cases h; exact performs .moved _
  all_goals cases h

/-- **A step that calls a queue performs the call.** -/
theorem step_of_operation? {session : Session} {step : Step} {q : String} {operation : Access Answer}
    (h : session.operation? step = some (q, operation)) : session.step step = session.perform operation := by
  obtain ⟨call, queue, called, found, rfl⟩ := operation?_eq_some h
  rw [session.step_of_call? called, found]
  rfl

/-- Calling a queue that is not known does nothing. -/
theorem step_of_unknown {session : Session} {step : Step} {q : String} {call : MessageQueue → Access Answer}
    (called : step.call? = some (q, call)) (quiet : session.operation? step = none) :
    session.step step = (.unknownId, session) := by
  have unknown : session.queue? q = none := by simpa [operation?, called] using quiet
  rw [session.step_of_call? called, unknown]
  rfl

end Session

/-- A call of a queue accesses what the queue touches. -/
theorem MessageQueue.Touches.within_call {queue : MessageQueue} {inside : Access.Event → Prop}
    (touches : queue.Touches inside) {step : Step} {q : String} {call : MessageQueue → Access Answer}
    (h : step.call? = some (q, call)) : Access.Within inside (call queue) := by
  have toEnd : ∀ moved buffer, Access.Within inside (Session.movement queue moved buffer) := fun moved buffer =>
    Access.within_bind touches.toRead fun _ => Access.within_bind touches.toWrite fun _ => Access.within_done _
  have written : ∀ elements, Access.Within inside (Session.afterWrite queue (queue.write elements)) :=
    fun elements => Access.within_bind (touches.write elements) fun moved => toEnd moved none
  have filled : ∀ buffer, Access.Within inside (Session.afterRead queue (queue.read buffer)) :=
    fun buffer => Access.within_bind (touches.read buffer) fun result => toEnd result.1 (some result.2)
  cases step
  case info =>
    cases h
    refine Access.within_map _ (Access.within_bind touches.toRead fun _ =>
      Access.within_bind touches.toWrite fun _ => Access.within_bind ?_ fun _ => Access.within_done _)
    exact Access.within_bind touches.toRead fun _ => Access.within_done _
  case write q elements => cases h; exact Access.within_map _ (written elements)
  case writeOne q element => cases h; exact Access.within_map _ (written [element])
  case read q count => cases h; exact Access.within_map _ (filled (queue.blank count))
  case readOne q => cases h; exact Access.within_map _ (filled [queue.element.zero])
  all_goals cases h

/-! ## Lineage -/

/-- Where a segment comes from. -/
structure Origin where
  creation : Nat
  frees : Option String

/-- How many creations there have been, and which one each segment, name and queue stems from. -/
structure Lineage where
  count : Nat
  segments : String → Option Origin
  names : String → Option Nat
  queues : String → Option Nat

namespace Lineage

def empty : Lineage := { count := 0, segments := fun _ => none, names := fun _ => none, queues := fun _ => none }

/-- The segment of an id goes, and the name that it frees. -/
def release (lineage : Lineage) (id : String) : Lineage :=
  { lineage with
    segments := Function.update lineage.segments id none
    names := fun name => if (lineage.segments id).bind (·.frees) = some name then none else lineage.names name }

/-- A segment takes the place of the one under its id. -/
def keep (lineage : Lineage) (id : String) (origin : Origin) : Lineage :=
  let released := lineage.release id
  { released with
    segments := Function.update released.segments id (some origin)
    names := fun name => if origin.frees = some name then some origin.creation else released.names name }

def create (lineage : Lineage) (id : String) (named : Bool) (name : String) : Lineage :=
  { lineage.keep id ⟨lineage.count, if named then some name else none⟩ with count := lineage.count + 1 }

/-- What has been opened stems from the creation that the name belongs to. -/
def openNamed (lineage : Lineage) (id name : String) : Lineage :=
  match lineage.names name with
  | some creation => lineage.keep id ⟨creation, none⟩
  | none => lineage

def drop (lineage : Lineage) (id : String) : Lineage :=
  { lineage.release id with queues := Function.update lineage.queues id none }

/-- A queue has been made on a segment. -/
def connect (lineage : Lineage) (q seg : String) : Lineage :=
  { lineage with queues := Function.update lineage.queues q ((lineage.segments seg).map (·.creation)) }

/-- What a step with this answer means for the lineage. -/
def step (lineage : Lineage) : Step → Answer → Lineage
  | .create seg named name _ _, .segment _ => lineage.create seg named name
  | .createFrom seg config, .segment _ => lineage.create seg config.named config.name
  | .openNamed seg name _ _, .segment _ => lineage.openNamed seg name
  | .drop id, _ => lineage.drop id
  | .queue q _ _ (.segment seg), .queue _ => lineage.connect q seg
  | _, _ => lineage

theorem step_of_call? (lineage : Lineage) {step : Step} {q : String} {call : MessageQueue → Access Answer}
    (called : step.call? = some (q, call)) (answer : Answer) : lineage.step step answer = lineage := by
  cases step <;> first | rfl | cases called

/-- What is referred to are creations that there have been. -/
structure Bounded (lineage : Lineage) : Prop where
  segments : ∀ id origin, lineage.segments id = some origin → origin.creation < lineage.count
  names : ∀ name creation, lineage.names name = some creation → creation < lineage.count

variable {lineage : Lineage}

theorem Bounded.release (h : lineage.Bounded) (id : String) : (lineage.release id).Bounded := by
  constructor
  case segments =>
    intro other origin found
    simp only [Lineage.release, Function.update_apply] at found
    split at found
    · cases found
    · exact h.segments other origin found
  case names =>
    intro name creation found
    simp only [Lineage.release] at found
    split at found
    · cases found
    · exact h.names name creation found

theorem Bounded.keep (h : lineage.Bounded) (id : String) {origin : Origin} {count : Nat} (le : lineage.count ≤ count)
    (lt : origin.creation < count) : Bounded { lineage.keep id origin with count } := by
  have released := h.release id
  constructor
  case segments =>
    intro other origin' found
    simp only [Lineage.keep, Function.update_apply] at found
    split at found
    · cases found
      exact lt
    · exact Nat.lt_of_lt_of_le (released.segments other origin' found) le
  case names =>
    intro name creation found
    simp only [Lineage.keep] at found
    split at found
    · cases found
      exact lt
    · exact Nat.lt_of_lt_of_le (released.names name creation found) le

end Lineage

/-! ## What is released and what is kept -/

def QueueSegment.frees (segment : QueueSegment) : Option String :=
  if segment.named && segment.owner then some segment.name else none

theorem QueueSegment.creates_iff (segment : QueueSegment) (name : String) :
    segment.Creates name ↔ segment.frees = some name := by
  simp [Creates, frees, and_assoc]

namespace Session

variable {session : Session}

def frees (session : Session) (id : String) : Option String := (session.segment? id).bind (·.frees)

theorem object?_of_segment? {id : String} {segment : QueueSegment} (held : session.segment? id = some segment) :
    session.object? id = session.system.object? segment.fd := by
  rw [object?, held]
  rfl

theorem object?_of_unheld {id : String} (unheld : session.segment? id = none) : session.object? id = none := by
  rw [object?, unheld]
  rfl

/-! ### Releasing -/

theorem system_object?_releaseSegment (session : Session) (id : String) (fd : Nat) :
    (session.releaseSegment id).system.object? fd =
      if (session.segment? id).map (·.fd) = some fd then none else session.system.object? fd := by
  cases found : session.segment? id with
  | none =>
    rw [releaseSegment, found]
    rfl
  | some segment =>
    rw [releaseSegment, found]
    simp only [object?_release, Option.map_some, Option.some.injEq, eq_comm]

theorem named?_releaseSegment (session : Session) (id name : String) :
    (session.releaseSegment id).system.named? name =
      if session.frees id = some name then none else session.system.named? name := by
  cases found : session.segment? id with
  | none =>
    rw [releaseSegment, frees, found]
    rfl
  | some segment =>
    rw [releaseSegment, frees, found]
    simp only [named?_release, QueueSegment.creates_iff, Option.bind_some]

theorem memory_releaseSegment (session : Session) (id : String) :
    (session.releaseSegment id).system.memory = session.system.memory := by
  unfold releaseSegment
  split
  · exact memory_release _ _
  · rfl

theorem queues_releaseSegment (session : Session) (id : String) : (session.releaseSegment id).queues = session.queues := by
  unfold releaseSegment
  split <;> rfl

theorem frees_releaseSegment (session : Session) (id other : String) :
    (session.releaseSegment id).frees other = if other = id then none else session.frees other := by
  rw [frees, segment?_releaseSegment]
  split <;> rfl

/-- The other segments keep their objects, as no two have one file descriptor. -/
theorem NamesOwned.object?_releaseSegment (h : session.NamesOwned) (id other : String) :
    (session.releaseSegment id).object? other = if other = id then none else session.object? other := by
  by_cases same : other = id
  · rw [if_pos same]
    exact object?_of_unheld (by rw [segment?_releaseSegment, if_pos same])
  rw [if_neg same]
  have segment?_eq := session.segment?_releaseSegment id other
  rw [if_neg same] at segment?_eq
  cases held : session.segment? other with
  | none => rw [object?_of_unheld held, object?_of_unheld (segment?_eq.trans held)]
  | some segment =>
    rw [object?_of_segment? held, object?_of_segment? (segment?_eq.trans held), system_object?_releaseSegment, if_neg]
    intro fd_eq
    obtain ⟨released, found, fd_eq⟩ := Option.map_eq_some_iff.1 fd_eq
    obtain rfl := h.owned.apart released segment ⟨id, found⟩ ⟨other, held⟩ fd_eq
    exact same (h.once other id released held found)

/-! ### Keeping -/

variable {after : System} {segment : QueueSegment} {object : Nat}

theorem frees_keepSegment (session : Session) (id other : String) (after : System) (segment : QueueSegment) :
    (session.keepSegment id (after, .ok segment)).2.frees other =
      if other = id then segment.frees else session.frees other := by
  rw [frees, segment?_keepSegment]
  split <;> rfl

theorem queues_keepSegment (session : Session) (id : String)
    (outcome : System × Except SharedMemoryError QueueSegment) :
    (session.keepSegment id outcome).2.queues = session.queues := by
  obtain ⟨after, error | segment⟩ := outcome
  · rfl
  · exact queues_releaseSegment { session with system := after } id

theorem memory_keepSegment (session : Session) (id : String)
    (outcome : System × Except SharedMemoryError QueueSegment) :
    (session.keepSegment id outcome).2.system.memory = outcome.1.memory := by
  obtain ⟨after, error | segment⟩ := outcome
  · rfl
  · exact memory_releaseSegment { session with system := after } id

/-- The new segment has its object, and the other ones theirs. -/
theorem NamesOwned.object?_keepSegment (h : session.NamesOwned) (new : Holds session.system after segment object)
    (id other : String) : (session.keepSegment id (after, .ok segment)).2.object? other =
      if other = id then some object else session.object? other := by
  have system_eq : ∀ fd, (session.keepSegment id (after, .ok segment)).2.system.object? fd =
      if (session.segment? id).map (·.fd) = some fd then none else after.object? fd :=
    system_object?_releaseSegment { session with system := after } id
  have segment?_eq := session.segment?_keepSegment id other after segment
  by_cases same : other = id
  · rw [if_pos same] at segment?_eq
    rw [if_pos same, object?_of_segment? segment?_eq, system_eq, if_neg, new.object?_fd]
    intro fd_eq
    obtain ⟨old, found, fd_eq⟩ := Option.map_eq_some_iff.1 fd_eq
    exact h.owned.fd_ne new ⟨id, found⟩ fd_eq
  · rw [if_neg same] at segment?_eq
    rw [if_neg same]
    cases held : session.segment? other with
    | none => rw [object?_of_unheld held, object?_of_unheld (segment?_eq.trans held)]
    | some kept =>
      rw [object?_of_segment? held, object?_of_segment? (segment?_eq.trans held), system_eq, if_neg,
        h.owned.object?_eq new ⟨other, held⟩]
      intro fd_eq
      obtain ⟨old, found, fd_eq⟩ := Option.map_eq_some_iff.1 fd_eq
      obtain rfl := h.owned.apart old kept ⟨id, found⟩ ⟨other, held⟩ fd_eq
      exact same (h.once other id old held found)

/-- A name that is created leads to the new object, and the name of the segment that goes to none. -/
theorem NamesOwned.named?_keepSegment (h : session.NamesOwned) (new : Holds session.system after segment object)
    (id name : String) : (session.keepSegment id (after, .ok segment)).2.system.named? name =
      if segment.frees = some name then some object
      else if session.frees id = some name then none else session.system.named? name := by
  refine (named?_releaseSegment { session with system := after } id name).trans ?_
  change (if session.frees id = some name then none else after.named? name) = _
  rw [new.named?_eq]
  simp only [QueueSegment.creates_iff]
  by_cases creates : segment.frees = some name
  · rw [if_pos creates, if_pos creates, if_neg]
    -- the name was free, so the segment that goes cannot have created it
    intro frees
    obtain ⟨old, found, frees⟩ := Option.bind_eq_some_iff.1 frees
    exact h.owned.not_creates new ⟨id, found⟩ ((segment.creates_iff name).2 creates) ((old.creates_iff name).2 frees)
  · rw [if_neg creates, if_neg creates]

/-! ## Steps that call no queue -/

/-- What an ordinary step can do that performs nothing on a queue, and what that means for the lineage. -/
inductive Quiet (session : Session) (lineage : Lineage) : Session → Lineage → Prop
  | idles {after : System} : Undone session.system after → after.memory = session.system.memory →
      Quiet session lineage { session with system := after } lineage
  | creates (id : String) {named : Bool} {name : String} {layout : QueueLayout} {after : System}
      {segment : QueueSegment} : QueueSegment.create session.system named name layout = (after, .ok segment) →
      Quiet session lineage (session.keepSegment id (after, .ok segment)).2 (lineage.create id named name)
  | opens (id : String) {name : String} {layout : QueueLayout} {after : System} {segment : QueueSegment} :
      QueueSegment.openNamed session.system name layout = (after, .ok segment) →
      Quiet session lineage (session.keepSegment id (after, .ok segment)).2 (lineage.openNamed id name)
  | drops (id : String) : Quiet session lineage (session.drop id).2 (lineage.drop id)
  | connects (q : String) {seg : String} {segment : QueueSegment} {element : ElementType} {queue : MessageQueue} :
      session.segment? seg = some segment →
      MessageQueue.ofDescriptor pageSize (fun _ => session.system.request) element segment.descriptor = .ok queue →
      Quiet session lineage { session with queues := bindKey q queue session.queues } (lineage.connect q seg)

theorem Quiet.refl {lineage : Lineage} : session.Quiet lineage session lineage :=
  .idles (.refl _) rfl

theorem quiet_create {lineage next : Lineage} (id : String) (named : Bool) (name : String) (layout : QueueLayout)
    {answer : Answer → Lineage} (made : ∀ report, answer (.segment report) = lineage.create id named name)
    (refused : ∀ error, answer (.refused error) = lineage)
    (next_eq : next = answer (session.keepSegment id (QueueSegment.create session.system named name layout)).1) :
    session.Quiet lineage (session.keepSegment id (QueueSegment.create session.system named name layout)).2 next := by
  subst next_eq
  rcases created : QueueSegment.create session.system named name layout with ⟨after, error | segment⟩
  · have idle : session.Quiet lineage { session with system := after } lineage :=
      .idles (QueueSegment.create_eq_error created) ((QueueSegment.memory_create created).1 error rfl)
    exact (refused error).symm ▸ idle
  · exact (made _).symm ▸ .creates id created

theorem quiet_openNamed (lineage : Lineage) (id name : String) (layout : QueueLayout) (quantumSize quantumCount : Nat) :
    let kept := session.keepSegment id (QueueSegment.openNamed session.system name layout)
    session.Quiet lineage kept.2 (lineage.step (.openNamed id name quantumSize quantumCount) kept.1) := by
  have memory_eq := QueueSegment.memory_openNamed session.system name layout
  rcases opened : QueueSegment.openNamed session.system name layout with ⟨after, error | segment⟩
  · rw [opened] at memory_eq
    exact .idles (QueueSegment.openNamed_eq_error opened) memory_eq
  · exact .opens id opened

theorem makeQueue_eq_ok {element : ElementType} {reported : Bool} {descriptor : RegionDescriptor} {queue : MessageQueue}
    (h : session.makeQueue element reported descriptor = .ok queue) :
    MessageQueue.ofDescriptor pageSize (fun _ => session.system.request) element descriptor = .ok queue := by
  unfold makeQueue at h
  cases reported with
  | true => exact (MessageQueue.ofDescriptor?_eq_ok_iff.1 h).1
  | false => exact mapError_eq_ok_iff.1 h

/-- Reporting on a queue changes nothing. -/
theorem run_reportQueue (queue : MessageQueue) (memory : Memory) :
    ∃ report, (reportQueue queue).run memory = (report, memory) ∧ report.queue = queue := by
  cases valid : queue.ring with
  | none => exact ⟨_, by simp [reportQueue, MessageQueue.availableToRead, MessageQueue.availableToWrite,
      MessageQueue.debug, valid]; rfl, rfl⟩
  | some ring => exact ⟨_, by simp [reportQueue, MessageQueue.availableToRead, MessageQueue.availableToWrite,
      MessageQueue.debug, valid]; rfl, rfl⟩

/-- **Making a queue on a segment** gives one on its descriptor, or does nothing. -/
theorem step_queue (session : Session) (q : String) (element : ElementType) (reported : Bool) (seg : String) :
    (∃ segment queue report, session.segment? seg = some segment ∧
      MessageQueue.ofDescriptor pageSize (fun _ => session.system.request) element segment.descriptor = .ok queue ∧
      report.queue = queue ∧ session.step (.queue q element reported (.segment seg)) =
        (.queue report, { session with queues := bindKey q queue session.queues })) ∨
    ∃ answer, session.step (.queue q element reported (.segment seg)) = (answer, session) ∧
      ∀ report, answer ≠ .queue report := by
  cases held : session.segment? seg with
  | none => exact .inr ⟨.unknownId, by simp [step, descriptor?, held, withKnown], fun report same => nomatch same⟩
  | some segment =>
    have step_eq : session.step (.queue q element reported (.segment seg)) =
        session.keepQueue q (session.makeQueue element reported segment.descriptor) := by
      simp [step, descriptor?, held, withKnown]
    rw [step_eq]
    rcases made : session.makeQueue element reported segment.descriptor with ⟨error | fault⟩ | queue
    · exact .inr ⟨_, rfl, fun report same => nomatch same⟩
    · exact .inr ⟨_, rfl, fun report same => nomatch same⟩
    · obtain ⟨report, ran, queue_eq⟩ := run_reportQueue queue session.system.memory
      refine .inl ⟨segment, queue, report, rfl, makeQueue_eq_ok made, queue_eq, ?_⟩
      simp only [keepQueue, infoQueue, perform, System.perform_eq, ran]

/-- **An ordinary step that performs nothing on a queue** is one of these. -/
theorem quiet_step (session : Session) (lineage : Lineage) {step : Step} (ordinary : step.Ordinary)
    (quiet : session.operation? step = none) :
    session.Quiet lineage (session.step step).2 (lineage.step step (session.step step).1) := by
  have called : ∀ {q call}, step.call? = some (q, call) →
      session.Quiet lineage (session.step step).2 (lineage.step step (session.step step).1) := by
    intro q call called
    rw [lineage.step_of_call? called, step_of_unknown called quiet]
    exact .refl
  cases step
  case create seg named name quantumSize quantumCount =>
    change session.Quiet lineage (session.makeSegment seg quantumSize quantumCount _).2
      (lineage.step _ (session.makeSegment seg quantumSize quantumCount _).1)
    unfold makeSegment
    split
    · exact .refl
    · exact quiet_create seg named name _ (fun _ => rfl) (fun _ => rfl) rfl
  case openNamed seg name quantumSize quantumCount =>
    change session.Quiet lineage (session.makeSegment seg quantumSize quantumCount _).2
      (lineage.step _ (session.makeSegment seg quantumSize quantumCount _).1)
    unfold makeSegment
    split
    · exact .refl
    · exact quiet_openNamed lineage seg name _ quantumSize quantumCount
  case createFrom seg config =>
    change session.Quiet lineage (session.keepSegment seg (QueueSegment.ofConfig session.system config)).2
      (lineage.step _ (session.keepSegment seg (QueueSegment.ofConfig session.system config)).1)
    unfold QueueSegment.ofConfig
    split
    · exact quiet_create seg config.named config.name _ (fun _ => rfl) (fun _ => rfl) rfl
    · exact .refl
  case drop id => exact .drops id
  case queue q element reported source =>
    cases source with
    | custom => exact absurd ordinary not_false
    | segment seg =>
      rcases session.step_queue q element reported seg with
        ⟨segment, queue, report, held, made, _, step_eq⟩ | ⟨answer, step_eq, other⟩
      · rw [step_eq]
        exact .connects q held made
      · rw [step_eq]
        cases answer
        case queue report => exact absurd rfl (other report)
        all_goals exact .refl
  case info q => exact called rfl
  case write q elements => exact called rfl
  case writeOne q element => exact called rfl
  case read q count => exact called rfl
  case readOne q => exact called rfl
  case segment seg => cases held : session.segment? seg <;> simp only [step, held] <;> exact .refl
  case counters seg => cases held : session.segment? seg <;> simp only [step, held] <;> exact .refl
  case peek seg offset count => cases held : session.object? seg <;> simp only [step, held] <;> exact .refl
  case limit size =>
    have keeps := System.Keeps.refl session.system
    exact .idles ⟨⟨keeps.count_le, keeps.length_eq, keeps.byte_eq⟩, fun _ => rfl, fun _ => rfl⟩ rfl
  all_goals exact absurd ordinary not_false

/-- A queue is there until its id is dropped or used for another one. -/
theorem queue?_step (session : Session) {step : Step} (ordinary : step.Ordinary) {q : String} (kept : ¬ step.Rebinds q) :
    (session.step step).2.queue? q = session.queue? q := by
  have called : ∀ {id call}, step.call? = some (id, call) → (session.step step).2.queue? q = session.queue? q := by
    intro id call called
    rw [session.step_of_call? called]
    cases session.queue? id <;> rfl
  have kept_segment : ∀ id outcome, (session.keepSegment id outcome).2.queue? q = session.queue? q :=
    fun id outcome => congrArg (List.lookup q) (session.queues_keepSegment id outcome)
  have made : ∀ id quantumSize quantumCount make,
      (session.makeSegment id quantumSize quantumCount make).2.queue? q = session.queue? q := by
    intro id quantumSize quantumCount make
    unfold makeSegment
    split
    · rfl
    · exact kept_segment id _
  cases step
  case create => exact made _ _ _ _
  case openNamed => exact made _ _ _ _
  case createFrom => exact kept_segment _ _
  case drop id =>
    refine (lookup_filter_ne (session.releaseSegment id).queues id q).trans ?_
    rw [if_neg (Ne.symm kept), queues_releaseSegment]
    rfl
  case queue id element reported source =>
    cases source with
    | custom => exact absurd ordinary not_false
    | segment seg =>
      rcases session.step_queue id element reported seg with ⟨_, queue, _, _, _, _, step_eq⟩ | ⟨_, step_eq, _⟩
      · rw [step_eq]
        exact (lookup_bindKey session.queues id q queue).trans (if_neg (Ne.symm kept))
      · rw [step_eq]
  case info => exact called rfl
  case write => exact called rfl
  case writeOne => exact called rfl
  case read => exact called rfl
  case readOne => exact called rfl
  case segment seg => cases held : session.segment? seg <;> simp only [step, held] <;> rfl
  case counters seg => cases held : session.segment? seg <;> simp only [step, held] <;> rfl
  case peek seg offset count => cases held : session.object? seg <;> simp only [step, held] <;> rfl
  case limit => rfl
  all_goals exact absurd ordinary not_false

theorem queue?_run {steps : List Step} (ordinary : ∀ step ∈ steps, step.Ordinary) {q : String}
    (kept : ∀ step ∈ steps, ¬ step.Rebinds q) (session : Session) :
    (session.run steps).2.queue? q = session.queue? q := by
  induction steps generalizing session with
  | nil => rfl
  | cons step steps ih =>
    obtain ⟨first, others⟩ := List.forall_mem_cons.1 ordinary
    obtain ⟨kept_first, kept_others⟩ := List.forall_mem_cons.1 kept
    exact (ih others kept_others _).trans (session.queue?_step first kept_first)

/-- **Such a step leaves the bytes of all objects**, and what it stores are zeros. -/
theorem Quiet.keeps {lineage lineage' : Lineage} {next : Session} (quiet : session.Quiet lineage next lineage') :
    session.system.Keeps next.system ∧
      ∀ place, session.system.memory.byte place = 0 → next.system.memory.byte place = 0 := by
  have kept : ∀ {after : System} {outcome : Except SharedMemoryError QueueSegment} (id : String),
      session.system.Keeps after → session.system.Keeps (session.keepSegment id (after, outcome)).2.system := by
    intro after outcome id keeps
    have lengths_eq := session.lengths_keepSegment id (after, outcome)
    refine ⟨lengths_eq ▸ keeps.count_le, fun object known => ?_, fun place known => ?_⟩
    · rw [System.length, lengths_eq]
      exact keeps.length_eq object known
    · rw [memory_keepSegment]
      exact keeps.byte_eq place known
  cases quiet with
  | idles undone memory_eq => exact ⟨undone.keeps, fun place zero => memory_eq ▸ zero⟩
  | creates id created =>
    refine ⟨kept id (QueueSegment.create_eq_ok created).1.keeps, fun place zero => ?_⟩
    rw [memory_keepSegment]
    exact (QueueSegment.memory_create created).2 place zero
  | @opens id name layout after segment opened =>
    obtain ⟨_, object, _, holds, _⟩ := QueueSegment.openNamed_eq_ok opened
    refine ⟨kept id holds.keeps, fun place zero => ?_⟩
    have memory_eq := QueueSegment.memory_openNamed session.system name layout
    rw [opened] at memory_eq
    rw [memory_keepSegment, memory_eq]
    exact zero
  | drops id =>
    have memory_eq := session.memory_releaseSegment id
    have lengths_eq := session.lengths_releaseSegment id
    refine ⟨⟨Nat.le_of_eq (congrArg List.length lengths_eq.symm), fun object _ => ?_, fun place _ => ?_⟩,
      fun place zero => ?_⟩
    · change (session.releaseSegment id).system.length object = _
      rw [System.length, lengths_eq, System.length]
    · exact congrArg (Memory.byte · place) memory_eq
    · exact (congrArg (Memory.byte · place) memory_eq).trans zero
  | connects => exact ⟨.refl _, fun _ zero => zero⟩

end Session

end SharedRing
