import SharedRing.Proofs.Availability
import SharedRing.Proofs.Layouts

/-!
# Queues on disjoint memory do not influence each other

What a ring owns of memory are its two counters and its bytes, its `Region`. An operation that accesses a
region only is a function of the region: on two memories that agree there it has the same result and leaves
them in agreement, and it changes nothing elsewhere (`Access.run_within`). That is so for every call of a queue,
whatever the counters say, and so for every action of a program (`Clients.act_confined`).

`Parties` share one memory, each with queues on a descriptor of its own. If no two of their regions have a byte
in common, then each has the replies and the bytes that it would have alone, however their actions are
interleaved (`disjoint_parties_do_not_interfere`).
-/

namespace SharedRing

/-- The memories have the same bytes in a region. -/
def Memory.AgreeOn (region : Address → Prop) (memory other : Memory) : Prop :=
  ∀ place, region place → memory.byte place = other.byte place

namespace Memory.AgreeOn

variable {region : Address → Prop} {memory other : Memory}

theorem bytes_eq (h : AgreeOn region memory other) {place : Address} {count : Nat}
    (inside : ∀ i < count, region (place.advance i)) : memory.bytes place count = other.bytes place count :=
  List.map_congr_left fun i member => h _ (inside i (List.mem_range.1 member))

theorem word_eq (h : AgreeOn region memory other) {place : Address}
    (inside : ∀ i < counterSize, region (place.advance i)) : memory.word place = other.word place :=
  word_congr fun i below => h _ (inside i below)

theorem setBytes (h : AgreeOn region memory other) (place : Address) (bytes : List UInt8) :
    AgreeOn region (memory.setBytes place bytes) (other.setBytes place bytes) := by
  intro at_ inside
  rw [byte_setBytes, byte_setBytes, h at_ inside]

end Memory.AgreeOn

/-! ## Operations that stay in a region -/

namespace Access

variable {α β : Type} {inside : Event → Prop}

def Event.InRegion (region : Address → Prop) : Event → Prop
  | .loaded place _ | .stored place _ => ∀ i < counterSize, region (place.advance i)
  | .copiedIn place bytes | .copiedOut place bytes => ∀ i < bytes.length, region (place.advance i)

theorem Event.InRegion.mono {region wider : Address → Prop} (le : ∀ place, region place → wider place) {event : Event}
    (h : event.InRegion region) : event.InRegion wider := by
  cases event <;> exact fun i below => le _ (h i below)

theorem within_load_iff {place : Address} {next : UInt64 → Access α} : Within inside (.load place next) ↔
    ∀ value, inside (.loaded place value) ∧ Within inside (next value) := by
  refine ⟨fun h value => ⟨?_, fun events result trace => ?_⟩, fun h =>
    within_load (fun value => (h value).1) fun value => (h value).2⟩
  · obtain ⟨events, trace⟩ := exists_trace_run (next value) Memory.zero
    exact h _ _ (.load value trace) _ (by simp)
  · exact (List.forall_mem_cons.1 (h _ _ (.load value trace))).2

theorem within_store_iff {place : Address} {value : UInt64} {next : Access α} :
    Within inside (.store place value next) ↔ inside (.stored place value) ∧ Within inside next := by
  refine ⟨fun h => ⟨?_, fun events result trace => ?_⟩, fun h => within_store h.1 h.2⟩
  · obtain ⟨events, trace⟩ := exists_trace_run next Memory.zero
    exact h _ _ (.store trace) _ (by simp)
  · exact (List.forall_mem_cons.1 (h _ _ (.store trace))).2

theorem within_copyIn_iff {place : Address} {bytes : List UInt8} {next : Access α} :
    Within inside (.copyIn place bytes next) ↔ inside (.copiedIn place bytes) ∧ Within inside next := by
  refine ⟨fun h => ⟨?_, fun events result trace => ?_⟩, fun h => within_copyIn h.1 h.2⟩
  · obtain ⟨events, trace⟩ := exists_trace_run next Memory.zero
    exact h _ _ (.copyIn trace) _ (by simp)
  · exact (List.forall_mem_cons.1 (h _ _ (.copyIn trace))).2

/-- A copy may return any bytes of its length. -/
theorem Within.copyOut {place : Address} {count : Nat} {next : List UInt8 → Access α}
    (h : Within inside (.copyOut place count next)) {bytes : List UInt8} (length_eq : bytes.length = count) :
    inside (.copiedOut place bytes) ∧ Within inside (next bytes) := by
  refine ⟨?_, fun events result trace => ?_⟩
  · obtain ⟨events, trace⟩ := exists_trace_run (next bytes) Memory.zero
    exact h _ _ (.copyOut bytes length_eq trace) _ (by simp)
  · exact (List.forall_mem_cons.1 (h _ _ (.copyOut bytes length_eq trace))).2

/-- **An operation that stays in a region is a function of the region.** On memories that agree there it has the
same result and leaves them in agreement, and it changes no byte elsewhere. -/
theorem run_within {region : Address → Prop} {operation : Access α}
    (within : Within (Event.InRegion region) operation) {memory other : Memory}
    (agree : memory.AgreeOn region other) :
    (operation.run memory).1 = (operation.run other).1 ∧
      (operation.run memory).2.AgreeOn region (operation.run other).2 ∧
      ∀ place, ¬ region place → (operation.run memory).2.byte place = memory.byte place := by
  induction operation generalizing memory other with
  | done result => exact ⟨rfl, agree, fun _ _ => rfl⟩
  | load place next ih =>
    have first := within_load_iff.1 within
    simp only [run]
    rw [← agree.word_eq (first 0).1]
    exact ih _ (first _).2 agree
  | store place value next ih =>
    obtain ⟨here, rest⟩ := within_store_iff.1 within
    obtain ⟨result_eq, agree', outside⟩ := ih rest (agree.setBytes place _)
    refine ⟨result_eq, agree', fun at_ away => (outside at_ away).trans ?_⟩
    exact Memory.byte_setWord_of_ne memory value fun i below same => away (same ▸ here i below)
  | copyIn place bytes next ih =>
    obtain ⟨here, rest⟩ := within_copyIn_iff.1 within
    obtain ⟨result_eq, agree', outside⟩ := ih rest (agree.setBytes place bytes)
    refine ⟨result_eq, agree', fun at_ away => (outside at_ away).trans ?_⟩
    exact Memory.byte_setBytes_of_ne memory fun i below same => away (same ▸ here i below)
  | copyOut place count next ih =>
    obtain ⟨here, rest⟩ := within.copyOut (Memory.length_bytes memory place count)
    simp only [Event.InRegion, Memory.length_bytes] at here
    simp only [run]
    rw [← agree.bytes_eq here]
    exact ih _ rest agree

theorem within_bind {operation : Access α} {next : α → Access β} (h : Within inside operation)
    (rest : ∀ result, Within inside (next result)) : Within inside (operation >>= next) := by
  change Within inside (operation.andThen next)
  induction operation with
  | done result => exact rest result
  | load place first ih =>
    have split := within_load_iff.1 h
    exact within_load (fun value => (split value).1) fun value => ih value (split value).2
  | store place value first ih =>
    obtain ⟨here, after⟩ := within_store_iff.1 h
    exact within_store here (ih after)
  | copyIn place bytes first ih =>
    obtain ⟨here, after⟩ := within_copyIn_iff.1 h
    exact within_copyIn here (ih after)
  | copyOut place count first ih =>
    intro events result trace
    cases trace with
    | copyOut bytes length_eq trace =>
      obtain ⟨here, after⟩ := h.copyOut length_eq
      exact List.forall_mem_cons.2 ⟨here, ih bytes after _ _ trace⟩

end Access

/-! ## What a ring owns -/

namespace Ring

/-- The ranges of bytes that a ring consists of. -/
def parts (ring : Ring) : List (Address × Nat) :=
  [(ring.readCounter, counterSize), (ring.writeCounter, counterSize), (ring.data, ring.bytes)]

/-- The bytes of the counters and of the ring. -/
def Region (ring : Ring) (place : Address) : Prop :=
  ∃ part ∈ ring.parts, ∃ i < part.2, place = part.1.advance i

def Disjoint (ring other : Ring) : Prop := ∀ place, ring.Region place → ¬ other.Region place

theorem Disjoint.symm {ring other : Ring} (h : ring.Disjoint other) : other.Disjoint ring :=
  fun place owned owned' => h place owned' owned

/-- Rings whose parts are apart are disjoint. -/
theorem disjoint_of_apart {ring other : Ring}
    (apart : ∀ part ∈ ring.parts, ∀ part' ∈ other.parts, Apart part.1 part.2 part'.1 part'.2) :
    ring.Disjoint other := by
  rintro place ⟨part, member, i, below, rfl⟩ ⟨part', member', j, below', same⟩
  exact (apart part member part' member').advance_ne below below' same

theorem inRegion_of_owns {ring : Ring} (event : Access.Event) (owned : ring.Owns event) :
    event.InRegion ring.Region := by
  have counter : ∀ place, place = ring.readCounter ∨ place = ring.writeCounter →
      ∀ i < counterSize, ring.Region (place.advance i) := by
    rintro place (rfl | rfl) i below
    · exact ⟨(ring.readCounter, counterSize), by simp [parts], i, below, rfl⟩
    · exact ⟨(ring.writeCounter, counterSize), by simp [parts], i, below, rfl⟩
  have data : ∀ place count, ring.Encloses place count → ∀ i < count, ring.Region (place.advance i) := by
    rintro ⟨object, offset⟩ count ⟨rfl, starts, ends⟩ i below
    simp only at starts ends
    refine ⟨(ring.data, ring.bytes), by simp [parts], offset - ring.data.offset + i, by simp only; omega, ?_⟩
    simp only [Address.advance, Address.mk.injEq, true_and]
    omega
  cases event with
  | loaded place value => exact counter place owned
  | stored place value => exact counter place owned
  | copiedIn place bytes => exact data place bytes.length owned
  | copiedOut place bytes => exact data place bytes.length owned

end Ring

/-! ## Actions of one party -/

section
open MessageQueue

variable {page : Nat} {types : Nat → ElementType} {descriptor : RegionDescriptor} {objects : Int → Nat}
  {clients other : Clients}

/-- A valid queue on a descriptor stays in the descriptor's region. -/
theorem MessageQueue.OpenedOn.touches {queue : MessageQueue} (opened : OpenedOn objects descriptor queue) :
    queue.Touches (Access.Event.InRegion (ringOf objects descriptor).Region) := by
  obtain ⟨accepted, ring_eq⟩ := opened.accepted_and_ring_eq
  exact (touches_of_ring ring_eq accepted.ringBytes_pos).mono Ring.inRegion_of_owns

theorem Clients.On.touches (on : clients.On objects descriptor) {id : Nat} {queue : MessageQueue}
    (found : clients.queues id = some queue) :
    queue.Touches (Access.Event.InRegion (ringOf objects descriptor).Region) := by
  cases valid : queue.ring with
  | none => exact touches_of_invalid valid _
  | some ring => exact (on id queue found (by simp [isValid, valid])).touches

/-- A program that has the same queues and sees the same bytes in a region. -/
structure Clients.Alike (region : Address → Prop) (clients other : Clients) : Prop where
  queues_eq : clients.queues = other.queues
  agree : clients.memory.AgreeOn region other.memory

/-- What an action that stays in a region does: like programs have the same reply and stay alike, and no byte
elsewhere changes. -/
structure Clients.Confined (region : Address → Prop) (clients : Clients) (here there : Reply × Clients) : Prop where
  reply_eq : here.1 = there.1
  alike : here.2.Alike region there.2
  outside : ∀ place, ¬ region place → here.2.memory.byte place = clients.memory.byte place

namespace Clients

theorem call_confined {α : Type} {region : Address → Prop} (alike : clients.Alike region other) {id : Nat}
    {operation : MessageQueue → Access α} {reply : α → Reply}
    (within : ∀ queue, clients.queues id = some queue → Access.Within (Access.Event.InRegion region) (operation queue)) :
    Confined region clients (clients.call id operation reply) (other.call id operation reply) := by
  unfold call
  rw [← alike.queues_eq]
  cases found : clients.queues id with
  | none => exact ⟨rfl, alike, fun _ _ => rfl⟩
  | some queue =>
    obtain ⟨result_eq, agree, outside⟩ := Access.run_within (within queue found) alike.agree
    exact ⟨congrArg reply result_eq, ⟨rfl, agree⟩, outside⟩

variable (page types) in
/-- **An action stays in the region of its descriptor**, whatever the counters say. -/
theorem act_confined (on : clients.On objects descriptor)
    (alike : clients.Alike (ringOf objects descriptor).Region other) (action : Action) :
    Confined (ringOf objects descriptor).Region clients (clients.act page types descriptor action)
      (other.act page types descriptor action) := by
  have rebound : ∀ reply id queue, Confined (ringOf objects descriptor).Region clients
      (reply, { clients with queues := assign clients.queues id queue })
      (reply, { other with queues := assign other.queues id queue }) :=
    fun reply id queue => ⟨rfl, ⟨by simp only [alike.queues_eq], alike.agree⟩, fun _ _ => rfl⟩
  have unchanged : ∀ reply, Confined (ringOf objects descriptor).Region clients (reply, clients) (reply, other) :=
    fun reply => ⟨rfl, alike, fun _ _ => rfl⟩
  cases action with
  | new id request =>
    simp only [act]
    split
    · exact rebound _ _ _
    · exact unchanged _
  | tryNew id request =>
    simp only [act]
    split
    · exact rebound _ _ _
    · exact unchanged _
    · exact unchanged _
  | drop id =>
    simp only [act, ← alike.queues_eq]
    split
    · exact unchanged _
    · rw [alike.queues_eq] at rebound ⊢
      exact rebound _ _ _
  | write id elements =>
    simp only [act]
    exact call_confined alike fun queue found => (on.touches found).write elements
  | writeOne id element =>
    simp only [act]
    exact call_confined alike fun queue found => (on.touches found).write [element]
  | read id buffer =>
    simp only [act]
    exact call_confined alike fun queue found => (on.touches found).read buffer
  | readOne id buffer =>
    simp only [act]
    exact call_confined alike fun queue found => (on.touches found).read [buffer]
  | available id =>
    simp only [act]
    refine call_confined alike fun queue found => ?_
    have touches := on.touches found
    exact Access.within_bind touches.toRead fun _ => Access.within_bind touches.toWrite fun _ => Access.within_done _

end Clients

end

/-! ## Parties on one memory -/

/-- Parties, each with queues of its own, and the memory that they share. -/
structure Parties (ι : Type) where
  memory : Memory
  queues : ι → Nat → Option MessageQueue

namespace Parties

variable {ι : Type} [DecidableEq ι]

def party (parties : Parties ι) (who : ι) : Clients := ⟨parties.memory, parties.queues who⟩

variable (page : Nat) (types : ι → Nat → ElementType) (descriptors : ι → RegionDescriptor)

/-- An action of one party, on its own descriptor. -/
def act (parties : Parties ι) (who : ι) (action : Action) : Reply × Parties ι :=
  let (reply, after) := (parties.party who).act page (types who) (descriptors who) action
  (reply, { memory := after.memory, queues := Function.update parties.queues who after.queues })

def run (parties : Parties ι) : List (ι × Action) → List (ι × Reply) × Parties ι
  | [] => ([], parties)
  | (who, action) :: row =>
    let (reply, next) := parties.act page types descriptors who action
    let (replies, last) := next.run row
    ((who, reply) :: replies, last)

/-- What one party has of a row. -/
def own {α : Type} (who : ι) (row : List (ι × α)) : List α :=
  row.filterMap fun entry => if entry.1 = who then some entry.2 else none

theorem own_cons_self {α : Type} (who : ι) (first : α) (row : List (ι × α)) :
    own who ((who, first) :: row) = first :: own who row := by
  simp [own]

theorem own_cons_of_ne {α : Type} {who other : ι} (ne : other ≠ who) (first : α) (row : List (ι × α)) :
    own who ((other, first) :: row) = own who row := by
  simp [own, ne]

section
open MessageQueue

variable {page types descriptors} {objects : ι → Int → Nat} {parties : Parties ι}

theorem party_act_self (parties : Parties ι) (who : ι) (action : Action) :
    (parties.act page types descriptors who action).2.party who =
      ((parties.party who).act page (types who) (descriptors who) action).2 := by
  simp [act, party]

/-- The action of another party changes memory only. -/
theorem party_act_of_ne (parties : Parties ι) {who other : ι} (ne : who ≠ other) (action : Action) :
    (parties.act page types descriptors other action).2.party who =
      { parties.party who with
        memory := ((parties.party other).act page (types other) (descriptors other) action).2.memory } := by
  simp [act, party, ne]

variable (types) in
theorem on_act (aligned : counterSize ∣ page) (on : ∀ who, (parties.party who).On (objects who) (descriptors who))
    (who : ι) {action : Action} (honest : action.Honest (objects who)) (other : ι) :
    ((parties.act page types descriptors who action).2.party other).On (objects other) (descriptors other) := by
  by_cases same : other = who
  · subst same
    rw [party_act_self]
    exact Clients.act_on (types other) aligned (on other) honest
  · rw [party_act_of_ne parties same]
    exact on other

variable (types) in
/-- **One party among the others and alone.** If it is alike before a row, it has the same replies and is alike
after it. -/
theorem run_alike (aligned : counterSize ∣ page)
    (disjoint : ∀ who other, who ≠ other →
      (ringOf (objects who) (descriptors who)).Disjoint (ringOf (objects other) (descriptors other)))
    (on : ∀ who, (parties.party who).On (objects who) (descriptors who)) {row : List (ι × Action)}
    (honest : ∀ entry ∈ row, entry.2.Honest (objects entry.1)) {who : ι} {alone : Clients}
    (alike : (parties.party who).Alike (ringOf (objects who) (descriptors who)).Region alone) :
    let joint := parties.run page types descriptors row
    let single := alone.run page (types who) (descriptors who) (own who row)
    own who joint.1 = single.1 ∧
      (joint.2.party who).Alike (ringOf (objects who) (descriptors who)).Region single.2 := by
  induction row generalizing parties alone with
  | nil => exact ⟨rfl, alike⟩
  | cons entry row ih =>
    obtain ⟨actor, action⟩ := entry
    obtain ⟨first, others⟩ := List.forall_mem_cons.1 honest
    have on' := on_act types aligned on actor first
    by_cases same : actor = who
    · subst same
      have confined := Clients.act_confined page (types actor) (on actor) alike action
      have alike' := confined.alike
      rw [← party_act_self] at alike'
      obtain ⟨replies_eq, last⟩ := ih on' others alike'
      simp only [run, Clients.run, own_cons_self]
      exact ⟨congrArg₂ List.cons confined.reply_eq replies_eq, last⟩
    · -- another party changes bytes of its own region, and so none of this one's
      have kept := (Clients.act_confined page (types actor) (on actor) ⟨rfl, fun _ _ => rfl⟩
        action).outside
      have alike' : ((parties.act page types descriptors actor action).2.party who).Alike
          (ringOf (objects who) (descriptors who)).Region alone := by
        rw [party_act_of_ne parties (Ne.symm same)]
        refine ⟨alike.queues_eq, fun place owned => ?_⟩
        exact (kept place (disjoint who actor (Ne.symm same) place owned)).trans (alike.agree place owned)
      simp only [run, own_cons_of_ne same]
      exact ih on' others alike'

end

end Parties

open MessageQueue in
/-- **Queues on disjoint memory do not influence each other.** Parties make, call, query and drop queues on
descriptors whose regions have no byte in common, in any order and from any memory. Each of them has the replies,
what it has read included, the queues and in the end the bytes of its region that it would have if it had acted
alone. -/
theorem disjoint_parties_do_not_interfere {ι : Type} [DecidableEq ι] {page : Nat} (aligned : counterSize ∣ page)
    (types : ι → Nat → ElementType) {descriptors : ι → RegionDescriptor} {objects : ι → Int → Nat}
    (disjoint : ∀ who other, who ≠ other →
      (ringOf (objects who) (descriptors who)).Disjoint (ringOf (objects other) (descriptors other)))
    {parties : Parties ι} (on : ∀ who, (parties.party who).On (objects who) (descriptors who))
    {row : List (ι × Action)} (honest : ∀ entry ∈ row, entry.2.Honest (objects entry.1)) (who : ι) :
    let joint := parties.run page types descriptors row
    let alone := (parties.party who).run page (types who) (descriptors who) (Parties.own who row)
    Parties.own who joint.1 = alone.1 ∧ joint.2.queues who = alone.2.queues ∧
      ∀ place, (ringOf (objects who) (descriptors who)).Region place →
        joint.2.memory.byte place = alone.2.memory.byte place := by
  have refl : (parties.party who).Alike (ringOf (objects who) (descriptors who)).Region (parties.party who) :=
    ⟨rfl, fun _ _ => rfl⟩
  obtain ⟨replies_eq, alike⟩ := Parties.run_alike types aligned disjoint on honest refl
  exact ⟨replies_eq, alike.queues_eq, alike.agree⟩

/-- Two queues in one page of one object, the second in the gaps of the first's layout. Its data grantor is longer
than its ring and its counters are further apart, and yet the first remains a list. -/
theorem parties_share_page :
    let layout : QueueLayout := ⟨8, 3, 24⟩
    let second : RegionDescriptor :=
      { handle := ⟨[3]⟩, grantors := [⟨0, 8, 8⟩, ⟨0, 72, 8⟩, ⟨0, 152, 100⟩], quantumSize := 4, quantumCount := 2 }
    let descriptors := fun who => if who then layout.descriptor 3 else second
    let types := fun who (_ : Nat) => if who then ElementType.unsigned 8 else .unsigned 4
    let request : Nat → MapRequest := fun _ _ _ => .ok 0
    let start : Parties Bool := ⟨Memory.zero.setWord ⟨0, 72⟩ 40, fun _ _ => none⟩
    let row := [(true, Action.new 0 request), (false, .new 0 request), (true, .write 0 [.integer 1, .integer 2]),
      (false, .read 0 [.integer 7, .integer 7]), (true, .readOne 0 (.integer 0)), (false, .writeOne 0 (.integer 9)),
      (false, .drop 0), (true, .available 0)]
    Parties.own true (start.run pageSize types descriptors row).1 =
      [.made true, .wrote true, .filled true [.integer 1], .available 8 16] := by
  intro layout second descriptors types request start row
  have aligned : counterSize ∣ pageSize := by decide
  have honest : MessageQueue.Honest (fun _ => 0) request := MessageQueue.honest_const 0
  have apart : (MessageQueue.ringOf (fun _ => 0) (layout.descriptor 3)).Disjoint
      (MessageQueue.ringOf (fun _ => 0) second) := Ring.disjoint_of_apart (by decide)
  let objects : Bool → Int → Nat := fun _ _ => 0
  have disjoint : ∀ who other, who ≠ other → (MessageQueue.ringOf (objects who) (descriptors who)).Disjoint
      (MessageQueue.ringOf (objects other) (descriptors other)) := by
    intro who other ne
    cases who <;> cases other
    · exact absurd rfl ne
    · exact apart.symm
    · exact apart
    · exact absurd rfl ne
  have on : ∀ who, (start.party who).On (objects who) (descriptors who) := fun _ _ _ found => nomatch found
  have asked : ∀ entry ∈ row, entry.2.Honest (objects entry.1) := by simp [row, objects, Action.Honest, honest]
  refine (disjoint_parties_do_not_interfere aligned types disjoint on asked true).1.trans ?_
  -- alone, the first is a list, as its counters are zero
  have zeroed : ∀ offset, offset + 8 ≤ 72 → start.memory.word ⟨0, offset⟩ = 0 := fun offset below =>
    (Memory.word_setWord_of_apart _ _ (.inr (.inr below))).trans (Memory.word_zero _)
  have accepted := (RegionDescriptor.validate_eq_ok_iff (layout.descriptor 3) 8).1 rfl
  have sep := MessageQueue.separate_layout (fun _ => 0) layout 3
  have empty := @start_simulates (types true) (layout.descriptor 3) (fun _ => 0) 8 start.memory
    (zeroed 0 (by decide)) (zeroed 64 (by decide))
  let actions := [Action.new 0 request, .write 0 [.integer 1, .integer 2], .readOne 0 (.integer 0), .available 0]
  have admissible : ∀ action ∈ actions, action.Admissible (fun _ => 0) (types true) := by
    simp [actions, types, Action.Admissible, honest, ElementType.Holds, valueCount]
  have listed := (run_simulates aligned (by decide) accepted sep empty admissible (by decide +kernel)).1
  have own_eq : Parties.own true row = actions := rfl
  rw [own_eq]
  have replies : (Fifo.empty.run pageSize (types true) (layout.descriptor 3) actions).1 =
      [.made true, .wrote true, .filled true [.integer 1], .available 8 16] := by decide +kernel
  rw [← replies]
  exact listed

end SharedRing
