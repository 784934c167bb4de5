import SharedRing.Proofs.Backing

/-!
# A queue stays with the object that it was made on

A name may be created again and again, and those who opened an earlier generation of it may go on using it.
`History` follows a session with its lineage and keeps the calls of its queues, each with the creation that the queue
stems from. The calls of one creation's queues then have the answers that they would have if they were the only
ones, from zeroed memory (`History.alone`), and the bytes of the creation's object are those that they leave: other
generations of a name neither see what is written through this one nor move its counters.

The invariant is `History.Sound`. A step keeps it (`Sound.step`), since a step that calls no queue leaves the bytes of
all objects, and a call is a function of the one object that its queue touches.
-/

namespace SharedRing

namespace Access

variable {α : Type}

/-- The results of operations one after the other. -/
def runAll : List (Access α) → Memory → List α × Memory
  | [], memory => ([], memory)
  | operation :: rest, memory =>
    let (result, after) := operation.run memory
    let (results, last) := runAll rest after
    (result :: results, last)

theorem runAll_concat (operations : List (Access α)) (operation : Access α) (memory : Memory) :
    runAll (operations ++ [operation]) memory =
      let before := runAll operations memory
      (before.1 ++ [(operation.run before.2).1], (operation.run before.2).2) := by
  induction operations generalizing memory with
  | nil => rfl
  | cons first rest ih => simp only [List.cons_append, runAll, ih]

end Access

/-! ## Histories -/

/-- A call of a queue, with the creation that the queue stems from. -/
structure History.Call where
  creation : Nat
  operation : Access Answer
  answer : Answer

/-- A session, where what is in it stems from, and the calls of queues so far. -/
structure History where
  session : Session
  lineage : Lineage
  calls : List History.Call

namespace History

def empty : History := ⟨.empty, .empty, []⟩

def call? (history : History) (step : Step) : Option Call :=
  (history.session.operation? step).bind fun (q, operation) =>
    (history.lineage.queues q).map fun creation => ⟨creation, operation, (history.session.step step).1⟩

def step (history : History) (step : Step) : History :=
  let (answer, next) := history.session.step step
  { session := next
    lineage := history.lineage.step step answer
    calls := history.calls ++ (history.call? step).toList }

def run (history : History) (steps : List Step) : History := steps.foldl step history

/-- The calls of the queues that stem from a creation. -/
def callsOf (history : History) (creation : Nat) : List Call := history.calls.filter (·.creation = creation)

/-- What the calls of a creation's queues would answer and leave if they were the only ones. -/
def alone (history : History) (creation : Nat) : List Answer × Memory :=
  Access.runAll ((history.callsOf creation).map (·.operation)) .zero

theorem session_run (history : History) (steps : List Step) :
    (history.run steps).session = (history.session.run steps).2 := by
  induction steps generalizing history with
  | nil => rfl
  | cons step steps ih => exact ih (history.step step)

theorem run_append (history : History) (front back : List Step) :
    history.run (front ++ back) = (history.run front).run back :=
  List.foldl_append

variable {history : History} {object : Nat → Nat}

theorem callsOf_step_of_quiet {step : Step} (quiet : history.call? step = none) (creation : Nat) :
    (history.step step).callsOf creation = history.callsOf creation := by
  simp [callsOf, History.step, quiet]

theorem callsOf_step_of_call {step : Step} {call : Call} (made : history.call? step = some call) (creation : Nat) :
    (history.step step).callsOf creation =
      history.callsOf creation ++ if call.creation = creation then [call] else [] := by
  by_cases same : call.creation = creation <;> simp [callsOf, History.step, made, same]

theorem alone_step_of_quiet {step : Step} (quiet : history.call? step = none) (creation : Nat) :
    (history.step step).alone creation = history.alone creation := by
  rw [alone, alone, callsOf_step_of_quiet quiet]

/-- A call goes on from what its creation's calls have left, and is nothing to the other creations. -/
theorem alone_step_of_call {step : Step} {call : Call} (made : history.call? step = some call) (creation : Nat) :
    (history.step step).alone creation =
      let before := history.alone creation
      if call.creation = creation then
        (before.1 ++ [(call.operation.run before.2).1], (call.operation.run before.2).2)
      else before := by
  rw [alone, callsOf_step_of_call made]
  by_cases same : call.creation = creation
  · rw [if_pos same, if_pos same, List.map_append]
    exact Access.runAll_concat _ _ _
  · rw [if_neg same, if_neg same, List.append_nil, alone]

theorem callsOf_run_isPrefix (history : History) (steps : List Step) (creation : Nat) :
    history.callsOf creation <+: (history.run steps).callsOf creation := by
  induction steps generalizing history with
  | nil => exact List.prefix_rfl
  | cons step steps ih =>
    refine List.IsPrefix.trans ?_ (ih (history.step step))
    cases made : history.call? step with
    | none => exact (callsOf_step_of_quiet made creation).symm ▸ List.prefix_rfl
    | some call =>
      rw [callsOf_step_of_call made]
      exact List.prefix_append _ _

/-! ## What holds of every history -/

/-- The calls of each creation's queues have the answers that they would have alone, and have left its object's
bytes. -/
structure Sound (object : Nat → Nat) (history : History) : Prop where
  backed : Backed object history.lineage history.session
  /-- Where there is no object yet all bytes are zero. -/
  blank : ∀ place, history.session.system.lengths.length ≤ place.object →
    history.session.system.memory.byte place = 0
  bounded : ∀ call ∈ history.calls, call.creation < history.lineage.count
  answers_eq : ∀ creation < history.lineage.count,
    (history.callsOf creation).map (·.answer) = (history.alone creation).1
  agree : ∀ creation < history.lineage.count,
    history.session.system.memory.AgreeOn (OfObject (object creation)) (history.alone creation).2

/-- Nothing has been called of a creation that there has not been. -/
theorem Sound.callsOf_eq_nil (sound : history.Sound object) {creation : Nat} (new : history.lineage.count ≤ creation) :
    history.callsOf creation = [] := by
  refine List.filter_eq_nil_iff.2 fun call member same => ?_
  have below := sound.bounded call member
  simp only [decide_eq_true_eq] at same
  omega

theorem sound_empty (object : Nat → Nat) : empty.Sound object := by
  constructor
  case backed => exact .empty object
  case blank => exact fun place _ => Memory.byte_zero place
  case bounded => exact List.forall_mem_nil _
  case answers_eq => exact fun creation below => absurd below (Nat.not_lt_zero creation)
  case agree => exact fun creation below => absurd below (Nat.not_lt_zero creation)

/-- A later history is sound as well, and each creation has kept its object. -/
structure Grows (history later : History) (object object' : Nat → Nat) : Prop where
  count_le : history.lineage.count ≤ later.lineage.count
  object_eq : ∀ k < history.lineage.count, object' k = object k
  sound : later.Sound object'

theorem Grows.trans {later last : History} {object' object'' : Nat → Nat} (h : history.Grows later object object')
    (h' : later.Grows last object' object'') : history.Grows last object object'' := by
  refine ⟨Nat.le_trans h.count_le h'.count_le, fun k below => ?_, h'.sound⟩
  rw [h'.object_eq k (Nat.lt_of_lt_of_le below h.count_le), h.object_eq k below]

/-- **A step that calls no queue.** What it adds to the lineage has not been called and has zero bytes. -/
theorem Sound.step_of_quiet (sound : history.Sound object) {step : Step} (ordinary : step.Ordinary)
    (none_called : history.session.operation? step = none) :
    ∃ object', history.Grows (history.step step) object object' := by
  have quiet := history.session.quiet_step history.lineage ordinary none_called
  have uncalled : history.call? step = none := by rw [call?, none_called]; rfl
  obtain ⟨keeps, zeros⟩ := quiet.keeps
  obtain ⟨object', same, count_le, new, backed⟩ := sound.backed.quiet quiet
  refine ⟨object', count_le, same, ?_⟩
  constructor
  case backed => exact backed
  case blank =>
    intro place unknown
    exact zeros place (sound.blank place (Nat.le_trans keeps.count_le unknown))
  case bounded =>
    intro call member
    simp only [History.step, uncalled, Option.toList_none, List.append_nil] at member
    exact Nat.lt_of_lt_of_le (sound.bounded call member) count_le
  case answers_eq =>
    intro creation below
    rw [alone_step_of_quiet uncalled, callsOf_step_of_quiet uncalled]
    rcases Nat.lt_or_ge creation history.lineage.count with old | added
    · exact sound.answers_eq creation old
    · rw [alone, sound.callsOf_eq_nil added]
      rfl
  case agree =>
    intro creation below place inside
    rw [alone_step_of_quiet uncalled]
    rcases Nat.lt_or_ge creation history.lineage.count with old | added
    · rw [same creation old] at inside
      have known : place.object < history.session.system.lengths.length := inside ▸ sound.backed.known creation old
      exact (keeps.byte_eq place known).trans (sound.agree creation old place inside)
    · have unknown : history.session.system.lengths.length ≤ place.object := inside ▸ new creation added below
      rw [alone, sound.callsOf_eq_nil added]
      exact (zeros place (sound.blank place unknown)).trans (Memory.byte_zero place).symm

/-- **A call of a queue** is answered as it would be alone, and leaves all other objects. -/
theorem Sound.step_of_call (sound : history.Sound object) {step : Step} {q : String} {operation : Access Answer}
    (called : history.session.operation? step = some (q, operation)) :
    (history.step step).lineage = history.lineage ∧ (history.step step).Sound object := by
  obtain ⟨call, queue, step_calls, found, rfl⟩ := Session.operation?_eq_some called
  obtain ⟨creation, below, stems, touches⟩ := sound.backed.touches q queue found
  have step_eq := Session.step_of_operation? called
  have lineage_eq : (history.step step).lineage = history.lineage := history.lineage.step_of_call? step_calls _
  have session_eq : (history.step step).session = (history.session.perform (call queue)).2 := congrArg Prod.snd step_eq
  have made : history.call? step = some ⟨creation, call queue, (history.session.perform (call queue)).1⟩ := by
    simp only [call?, called, Option.bind_some, stems, Option.map_some, step_eq]
  obtain ⟨answer_eq, agree, outside⟩ := Access.run_within (touches.within_call step_calls) (sound.agree creation below)
  refine ⟨lineage_eq, ?_⟩
  constructor
  case backed =>
    rw [lineage_eq, session_eq]
    exact sound.backed.perform _
  case blank =>
    intro place unknown
    rw [session_eq] at unknown ⊢
    refine (outside place fun inside => ?_).trans (sound.blank place unknown)
    exact absurd (inside ▸ unknown) (Nat.not_le_of_lt (sound.backed.known creation below))
  case bounded =>
    intro other member
    rw [lineage_eq]
    rcases List.mem_append.1 member with earlier | last
    · exact sound.bounded other earlier
    · rw [made, Option.toList_some, List.mem_singleton] at last
      exact last ▸ below
  case answers_eq =>
    intro other known
    rw [lineage_eq] at known
    rw [callsOf_step_of_call made, alone_step_of_call made, List.map_append, sound.answers_eq other known]
    by_cases same : creation = other
    · subst same
      rw [if_pos rfl, if_pos rfl]
      exact congrArg (_ ++ [·]) answer_eq
    · rw [if_neg same, if_neg same, List.map_nil, List.append_nil]
  case agree =>
    intro other known
    rw [lineage_eq] at known
    rw [session_eq, alone_step_of_call made]
    by_cases same : creation = other
    · subst same
      rw [if_pos rfl]
      exact agree
    · rw [if_neg same]
      intro place inside
      refine (outside place fun touched => ?_).trans (sound.agree other known place inside)
      exact same (sound.backed.object_inj below known (touched.symm.trans inside))

/-- **Every ordinary step keeps a history sound**, and each creation its object. -/
theorem Sound.step (sound : history.Sound object) {step : Step} (ordinary : step.Ordinary) :
    ∃ object', history.Grows (history.step step) object object' := by
  cases called : history.session.operation? step with
  | none => exact sound.step_of_quiet ordinary called
  | some performed =>
    obtain ⟨lineage_eq, sound'⟩ := sound.step_of_call called
    exact ⟨object, Nat.le_of_eq (by rw [lineage_eq]), fun _ _ => rfl, sound'⟩

/-- **Every row of ordinary steps keeps a history sound**, and each creation its object. -/
theorem Sound.run (sound : history.Sound object) {steps : List Step} (ordinary : ∀ step ∈ steps, step.Ordinary) :
    ∃ object', history.Grows (history.run steps) object object' := by
  induction steps generalizing history object with
  | nil => exact ⟨object, Nat.le_refl _, fun _ _ => rfl, sound⟩
  | cons step steps ih =>
    obtain ⟨first, others⟩ := List.forall_mem_cons.1 ordinary
    obtain ⟨object', once⟩ := sound.step first
    obtain ⟨object'', rest⟩ := ih once.sound others
    exact ⟨object'', once.trans rest⟩

/-- A call is answered as it was if its queue is still there and no queue of its creation has been called since. -/
theorem Sound.answer_eq {later : History} {object' : Nat → Nat} (sound : history.Sound object)
    (grows : history.Grows later object object') {q : String} {creation : Nat}
    (stems : history.lineage.queues q = some creation) (calls_eq : later.callsOf creation = history.callsOf creation)
    (queue_eq : later.session.queue? q = history.session.queue? q) {step : Step} {call : MessageQueue → Access Answer}
    (called : step.call? = some (q, call)) : (later.session.step step).1 = (history.session.step step).1 := by
  rw [Session.step_of_call? _ called, Session.step_of_call? _ called, queue_eq]
  cases found : history.session.queue? q with
  | none => rfl
  | some queue =>
    obtain ⟨creation', below, stems', touches⟩ := sound.backed.touches q queue found
    obtain rfl := Option.some.inj (stems'.symm.trans stems)
    have within := touches.within_call called
    -- both memories agree with the one that the calls of the creation leave alone
    have here := sound.agree creation' below
    have there := grows.sound.agree creation' (Nat.lt_of_lt_of_le below grows.count_le)
    rw [grows.object_eq creation' below, alone, calls_eq, ← alone] at there
    exact (Access.run_within within there).1.trans (Access.run_within within here).1.symm

/-- A call is answered as it was before a row of steps that leave the queue and call none of its creation. -/
theorem answer_run_eq {steps back : List Step} (ordinary : ∀ step ∈ steps, step.Ordinary)
    (ordinary_back : ∀ step ∈ back, step.Ordinary) {q : String} {creation : Nat}
    (stems : (empty.run steps).lineage.queues q = some creation) (kept : ∀ step ∈ back, ¬ step.Rebinds q)
    (calls_eq : (empty.run (steps ++ back)).callsOf creation = (empty.run steps).callsOf creation) {step : Step}
    {call : MessageQueue → Access Answer} (called : step.call? = some (q, call)) :
    ((empty.run (steps ++ back)).session.step step).1 = ((empty.run steps).session.step step).1 := by
  obtain ⟨object, _, _, sound⟩ := (sound_empty id).run ordinary
  obtain ⟨object', grows⟩ := sound.run ordinary_back
  have queue_eq : ((empty.run steps).run back).session.queue? q = (empty.run steps).session.queue? q := by
    rw [session_run]
    exact Session.queue?_run ordinary_back kept _
  rw [run_append] at calls_eq ⊢
  exact sound.answer_eq grows stems calls_eq queue_eq called

end History

/-- A queue that has been made is there until its id is used for something else, and touches the object that its
segment had then. -/
theorem Session.NamesOwned.queue_stays {before : Session} (names : before.NamesOwned) {q : String}
    {element : ElementType} {reported : Bool} {seg : String} {report : QueueReport}
    (answered : (before.step (.queue q element reported (.segment seg))).1 = .queue report) {back : List Step}
    (ordinary : ∀ step ∈ back, step.Ordinary) (kept : ∀ step ∈ back, ¬ step.Rebinds q) :
    ((before.step (.queue q element reported (.segment seg))).2.run back).2.queue? q = some report.queue ∧
      ∃ object, before.object? seg = some object ∧
        report.queue.Touches (Access.Event.InRegion (OfObject object)) := by
  rw [Session.queue?_run ordinary kept]
  rcases before.step_queue q element reported seg with
    ⟨segment, queue, report', held, made, queue_eq, step_eq⟩ | ⟨answer, step_eq, other⟩
  · rw [step_eq] at answered ⊢
    cases answered
    subst queue_eq
    obtain ⟨object, found⟩ := names.owned.opened segment ⟨seg, held⟩
    exact ⟨(lookup_bindKey before.queues q q report.queue).trans (if_pos rfl), object,
      (Session.object?_of_segment? held).trans found, QueueSegment.touches_ofDescriptor found made⟩
  · rw [step_eq] at answered
    exact absurd answered (other report)

/-- **A queue stays with the object that it was made on**, in every row of creations, openings, drops and calls of
queues from an empty name space. There is an object for each successful creation, a later one than for those before, and
what stems from a creation leads to its object, queues included. A queue that is made is kept until its id is used
for something else, and touches no object but the one that its segment's file descriptor stood for when it was made.
For each creation the calls of its queues have the answers, and its object the bytes, that these calls would have and
leave alone. So whatever is dropped, opened or created again in between changes no answer of a queue unless a queue of
the same creation is called. -/
theorem queues_stay_with_their_creation {steps : List Step} (ordinary : ∀ step ∈ steps, step.Ordinary) :
    let history := History.empty.run steps
    let session := (Session.empty.run steps).2
    (∃ object : Nat → Nat,
      (∀ j k, j < k → k < history.lineage.count → object j < object k) ∧
      (∀ id, session.object? id = (history.lineage.segments id).map fun origin => object origin.creation) ∧
      (∀ name, session.system.named? name = (history.lineage.names name).map object) ∧
      (∀ q queue, session.queue? q = some queue → ∃ creation < history.lineage.count,
        history.lineage.queues q = some creation ∧
          queue.Touches (Access.Event.InRegion (OfObject (object creation)))) ∧
      ∀ creation < history.lineage.count,
        (history.callsOf creation).map (·.answer) = (history.alone creation).1 ∧
          session.system.memory.AgreeOn (OfObject (object creation)) (history.alone creation).2) ∧
    (∀ front q element reported seg back report,
      steps = front ++ .queue q element reported (.segment seg) :: back →
      let before := (Session.empty.run front).2
      (before.step (.queue q element reported (.segment seg))).1 = .queue report →
      (∀ step ∈ back, ¬ step.Rebinds q) →
      session.queue? q = some report.queue ∧ ∃ object, before.object? seg = some object ∧
        report.queue.Touches (Access.Event.InRegion (OfObject object))) ∧
    ∀ front back, steps = front ++ back →
      let earlier := History.empty.run front
      ∀ q creation, earlier.lineage.queues q = some creation → (∀ step ∈ back, ¬ step.Rebinds q) →
        history.callsOf creation = earlier.callsOf creation →
        ∀ step call, step.call? = some (q, call) →
          (session.step step).1 = ((Session.empty.run front).2.step step).1 := by
  intro history session
  have session_eq : ∀ steps, (History.empty.run steps).session = (Session.empty.run steps).2 := History.empty.session_run
  have part : ∀ {front back}, steps = front ++ back →
      (∀ step ∈ front, step.Ordinary) ∧ ∀ step ∈ back, step.Ordinary := by
    intro front back whole
    rw [whole] at ordinary
    exact List.forall_mem_append.1 ordinary
  refine ⟨?_, ?_, ?_⟩
  · obtain ⟨object, _, _, sound⟩ := (History.sound_empty id).run ordinary
    have backed := sound.backed
    have agree := sound.agree
    rw [session_eq] at backed agree
    exact ⟨object, backed.increasing, backed.object?_eq, backed.named?_eq, backed.touches,
      fun creation below => ⟨sound.answers_eq creation below, agree creation below⟩⟩
  · intro front q element reported seg back report whole before answered kept
    have ordinary_back := (List.forall_mem_cons.1 (part whole).2).2
    have session_split : session = ((before.step (.queue q element reported (.segment seg))).2.run back).2 := by
      simp only [session, before, ← session_eq, whole, History.run_append]
      exact History.session_run _ back
    rw [session_split]
    exact (Session.namesOwned_empty.run front).queue_stays answered ordinary_back kept
  · intro front back whole earlier q creation stems kept calls_eq step call called
    obtain ⟨ordinary_front, ordinary_back⟩ := part whole
    simp only [history, session, ← session_eq, whole] at calls_eq ⊢
    exact History.answer_run_eq ordinary_front ordinary_back stems kept calls_eq called

/-- A queue was made through an opener. Since then opener and creator have gone, the name has been created again with
another layout, opened under the same id and used, and gone again: a read is answered as it was before. -/
theorem queues_stay_with_their_creation_when_recreated :
    let front : List Step := [.create "a" true "ring" 8 3, .openNamed "o" "ring" 8 3,
      .queue "p" (.unsigned 8) true (.segment "o"), .write "p" [.integer 7]]
    let back : List Step := [.drop "o", .drop "a", .create "b" true "ring" 4 2, .openNamed "o" "ring" 4 2,
      .queue "c" (.unsigned 4) false (.segment "o"), .writeOne "c" (.integer 9), .read "c" 1, .drop "b"]
    let before := (Session.empty.run front).2
    let session := (Session.empty.run (front ++ back)).2
    before.object? "o" = some 0 ∧ session.object? "o" = some 1 ∧ (session.queue? "p").any (·.isValid) = true ∧
      (session.step (.readOne "p")).1 = (before.step (.readOne "p")).1 := by
  intro front back before session
  have ordinary : ∀ step ∈ front ++ back, step.Ordinary := by simp [front, back, Step.Ordinary]
  have calls_eq : (History.empty.run (front ++ back)).callsOf 0 = (History.empty.run front).callsOf 0 := by
    have grown := (History.empty.run front).callsOf_run_isPrefix back 0
    rw [← History.run_append] at grown
    exact (grown.eq_of_length (by decide +kernel)).symm
  have kept : ∀ step ∈ back, ¬ step.Rebinds "p" := by simp [back, Step.Rebinds]
  obtain ⟨_, _, unchanged⟩ := queues_stay_with_their_creation ordinary
  refine ⟨by decide +kernel, by decide +kernel, by decide +kernel, ?_⟩
  exact unchanged front back rfl "p" 0 (by decide +kernel) kept calls_eq (.readOne "p") _ rfl

end SharedRing
