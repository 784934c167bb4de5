import Mathlib.Algebra.GroupWithZero.Nat
import SharedRing.Proofs.Fifo

/-!
# What is available, whatever the counters say

The bytes between the counters, `Ring.unread`, are their distance as words. A call that puts bytes into
the ring raises that distance by as many and stays within the ring; one that takes bytes out lowers it;
every other call leaves it (`Accounts`, one lemma for a write and one for a read, for any two counters).

A run of calls by any queues on a descriptor therefore keeps its books (`run_accounts`): what is unread at
the end and what has been taken out are what was unread at the start and what has been put in. So a
distance within the ring stays there, and nothing is put in while it is beyond
(`availability_accounted`).
-/

namespace SharedRing

namespace Ring

/-! ## One call -/

/-- What a call has done to the distance of the counters. -/
structure Accounts (ring : Ring) (memory after : Memory) (written taken : Nat) : Prop where
  room : 0 < written → ring.unread memory + written ≤ ring.bytes
  enough : 0 < taken → taken ≤ ring.bytes ∧ taken ≤ ring.unread memory
  /-- A call does not do both. -/
  single : written = 0 ∨ taken = 0
  unread_eq : ring.unread after + taken = ring.unread memory + written

theorem accounts_refl (ring : Ring) (memory : Memory) : ring.Accounts memory memory 0 0 :=
  ⟨fun h => absurd h (by omega), fun h => absurd h (by omega), .inl rfl, rfl⟩

theorem Accounts.unread_le {ring : Ring} {memory after : Memory} {written taken : Nat}
    (h : ring.Accounts memory after written taken) (le : ring.unread memory ≤ ring.bytes) :
    ring.unread after ≤ ring.bytes := by
  have unread_eq := h.unread_eq
  rcases Nat.eq_zero_or_pos written with nothing | some
  · omega
  · have room := h.room some
    omega

/-- A call after which the distance is beyond the ring has put nothing in. -/
theorem Accounts.written_eq_zero {ring : Ring} {memory after : Memory} {written taken : Nat}
    (h : ring.Accounts memory after written taken) (beyond : ring.bytes < ring.unread after) : written = 0 := by
  have unread_eq := h.unread_eq
  rcases Nat.eq_zero_or_pos written with nothing | some
  · exact nothing
  · have room := h.room some
    omega

theorem Wrote.unread_eq {ring : Ring} {memory after : Memory} {source : List UInt8}
    (h : ring.Wrote memory after source) (small : ring.unread memory + source.length < wordLimit) :
    ring.unread after = ring.unread memory + source.length := by
  unfold unread at small ⊢
  rw [h.write_eq, h.read_eq]
  -- subtraction of words lets the two changes be made in either order
  have swapped : ∀ w r n : UInt64, w + n - r = w - r + n := by
    intro w r n
    rw [UInt64.sub_eq_add_neg, UInt64.sub_eq_add_neg, UInt64.add_assoc, UInt64.add_comm n, UInt64.add_assoc]
  rw [swapped, toNat_add_ofNat, Nat.mod_eq_of_lt small]

theorem Took.unread_eq {ring : Ring} {memory after : Memory} {count : Nat} (h : ring.Took memory after count)
    (enough : count ≤ ring.unread memory) : ring.unread after + count = ring.unread memory := by
  have word : ring.unread memory < wordLimit := UInt64.toNat_lt _
  have count_eq : (UInt64.ofNat count).toNat = count := toNat_ofNat_of_small (by omega)
  unfold unread at enough ⊢
  rw [h.write_eq, h.read_eq]
  have swapped : ∀ w r n : UInt64, w - (r + n) = w - r - n := by
    intro w r n
    rw [UInt64.sub_eq_add_neg, UInt64.sub_eq_add_neg, UInt64.sub_eq_add_neg, UInt64.neg_add, UInt64.sub_eq_add_neg,
      UInt64.add_assoc]
  rw [swapped, UInt64.toNat_sub_of_le _ _ (UInt64.le_iff_toNat_le.2 (by rw [count_eq]; exact enough)), count_eq]
  omega

/-- **A write keeps the books**, for any two counters. -/
theorem accounts_write {ring : Ring} (sep : ring.Separate) (positive : 0 < ring.bytes) (small : ring.bytes < wordLimit)
    (memory : Memory) (source : List UInt8) :
    let call := (ring.write source).run memory
    ring.Accounts memory call.2 (if call.1 then source.length else 0) 0 := by
  by_cases empty : source = []
  · subst empty
    exact ring.accounts_refl memory
  by_cases fits : source.length ≤ ring.bytes - ring.unread memory
  · obtain ⟨after, ran, wrote⟩ := run_write sep positive fits
    have length_pos := List.length_pos_iff.2 empty
    simp only [ran, ↓reduceIte]
    refine ⟨fun _ => by omega, fun h => absurd h (by omega), .inr rfl, ?_⟩
    rw [wrote.unread_eq (by omega), Nat.add_zero]
  · simp only [run_write_refused empty (Nat.lt_of_not_le fits), Bool.false_eq_true, ↓reduceIte]
    exact ring.accounts_refl memory

/-- **A read keeps the books**, for any two counters. -/
theorem accounts_read {ring : Ring} (sep : ring.Separate) (positive : 0 < ring.bytes) (memory : Memory)
    (buffer : List UInt8) :
    let call := (ring.read buffer).run memory
    ring.Accounts memory call.2 0 (if call.1.1 then buffer.length else 0) := by
  by_cases empty : buffer = []
  · subst empty
    exact ring.accounts_refl memory
  by_cases enough : buffer.length ≤ ring.bytes ∧ buffer.length ≤ ring.unread memory
  · obtain ⟨le, there⟩ := enough
    obtain ⟨after, ran, took⟩ := run_read sep positive le there
    simp only [ran, ↓reduceIte]
    refine ⟨fun h => absurd h (by omega), fun _ => ⟨le, there⟩, .inl rfl, ?_⟩
    rw [took.unread_eq there, Nat.add_zero]
  · have short : ring.bytes < buffer.length ∨ ring.unread memory < buffer.length := by omega
    simp only [run_read_refused empty short, Bool.false_eq_true, ↓reduceIte]
    exact ring.accounts_refl memory

end Ring

/-! ## One action -/

def Action.written (size : Nat) : Action → Reply → Nat
  | .write _ elements, .wrote done => if done then elements.length * size else 0
  | .writeOne _ _, .wrote done => if done then size else 0
  | _, _ => 0

def Action.taken (size : Nat) : Action → Reply → Nat
  | .read _ buffer, .filled done _ => if done then buffer.length * size else 0
  | .readOne _ _, .filled done _ => if done then size else 0
  | _, _ => 0

def Action.Honest (objects : Int → Nat) : Action → Prop
  | .new _ request | .tryNew _ request => MessageQueue.Honest objects request
  | _ => True

/-- The valid queues that there are were opened on the descriptor. -/
def Clients.On (objects : Int → Nat) (descriptor : RegionDescriptor) (clients : Clients) : Prop :=
  ∀ id queue, clients.queues id = some queue → queue.isValid = true →
    MessageQueue.OpenedOn objects descriptor queue

section
open RegionDescriptor MessageQueue

variable {page : Nat} {types : Nat → ElementType} {descriptor : RegionDescriptor} {objects : Int → Nat}
  {clients : Clients}

theorem Clients.On.assign (on : clients.On objects descriptor) {id : Nat} {queue : Option MessageQueue}
    (new : ∀ made, queue = some made → made.isValid = true → OpenedOn objects descriptor made) :
    Clients.On objects descriptor { clients with queues := SharedRing.assign clients.queues id queue } := by
  intro other made found valid
  simp only [SharedRing.assign] at found
  split at found
  · exact new made found valid
  · exact on other made found valid

/-- A call of a queue keeps the books if that of every queue on the descriptor does. An invalid queue
refuses. -/
theorem call_accounts {α : Type} (on : clients.On objects descriptor) {id : Nat} {operation : MessageQueue → Access α}
    {reply : α → Reply} {written taken : Reply → Nat}
    (refused : ∀ queue : MessageQueue, queue.ring = none →
      ∃ result, operation queue = pure result ∧ written (reply result) = 0 ∧ taken (reply result) = 0)
    (none_written : written .noQueue = 0) (none_taken : taken .noQueue = 0)
    (carried : ∀ queue, OpenedOn objects descriptor queue →
      let call := (operation queue).run clients.memory
      (ringOf objects descriptor).Accounts clients.memory call.2 (written (reply call.1)) (taken (reply call.1))) :
    let call := clients.call id operation reply
    (ringOf objects descriptor).Accounts clients.memory call.2.memory (written call.1) (taken call.1) := by
  unfold Clients.call
  cases found : clients.queues id with
  | none =>
    simp only [none_written, none_taken]
    exact Ring.accounts_refl _ _
  | some queue =>
    cases valid : queue.ring with
    | none =>
      obtain ⟨result, done, nothing, nothing'⟩ := refused queue valid
      simp only [done, Access.run_pure, nothing, nothing']
      exact Ring.accounts_refl _ _
    | some ring => exact carried queue (on id queue found (by simp [isValid, valid]))

theorem write_accounts (sep : (ringOf objects descriptor).Separate) {queue : MessageQueue}
    (opened : OpenedOn objects descriptor queue) (memory : Memory) (elements : List Element) :
    let call := (queue.write elements).run memory
    (ringOf objects descriptor).Accounts memory call.2
      (if call.1 then elements.length * descriptor.quantumSize else 0) 0 := by
  obtain ⟨accepted, ring_eq⟩ := opened.accepted_and_ring_eq
  have small : descriptor.ringBytes < wordLimit := Nat.lt_of_le_of_lt accepted.bytes_le (by decide)
  have books := Ring.accounts_write sep accepted.ringBytes_pos small memory (queue.element.encodeAll elements)
  rw [ElementType.length_encodeAll, ← accepted.size_eq] at books
  simp only [MessageQueue.write, ring_eq]
  exact books

theorem read_accounts (sep : (ringOf objects descriptor).Separate) {queue : MessageQueue}
    (opened : OpenedOn objects descriptor queue) (memory : Memory) (buffer : List Element) :
    let call := (queue.read buffer).run memory
    (ringOf objects descriptor).Accounts memory call.2 0
      (if call.1.1 then buffer.length * descriptor.quantumSize else 0) := by
  obtain ⟨accepted, ring_eq⟩ := opened.accepted_and_ring_eq
  have books := Ring.accounts_read sep accepted.ringBytes_pos memory (queue.element.encodeAll buffer)
  rw [ElementType.length_encodeAll, ← accepted.size_eq] at books
  simp only [MessageQueue.read, ring_eq, Access.run_bind, Access.run_pure]
  exact books

theorem Clients.call_on {α : Type} (on : clients.On objects descriptor) (id : Nat) (operation : MessageQueue → Access α)
    (reply : α → Reply) : (clients.call id operation reply).2.On objects descriptor := by
  unfold Clients.call
  split <;> exact on

variable (types) in
theorem Clients.act_on (aligned : counterSize ∣ page) (on : clients.On objects descriptor) {action : Action}
    (honest : action.Honest objects) : (clients.act page types descriptor action).2.On objects descriptor := by
  cases action with
  | new id request =>
    simp only [Clients.act]
    split
    · rename_i made
      refine on.assign fun queue same valid => ?_
      cases same
      exact openedOn_ofDescriptor aligned honest made valid
    · exact on
  | tryNew id request =>
    simp only [Clients.act]
    split
    · rename_i made
      refine on.assign fun queue same valid => ?_
      cases same
      exact openedOn_ofDescriptor aligned honest (ofDescriptor?_eq_ok_iff.1 made).1 valid
    · exact on
    · exact on
  | drop id =>
    simp only [Clients.act]
    split
    · exact on
    · refine on.assign fun queue same => ?_
      cases same
  | write id elements => exact Clients.call_on on id _ _
  | writeOne id element => exact Clients.call_on on id _ _
  | read id buffer => exact Clients.call_on on id _ _
  | readOne id buffer => exact Clients.call_on on id _ _
  | available id => exact Clients.call_on on id _ _

variable (types)

/-- **An action keeps the books.** -/
theorem act_accounts (aligned : counterSize ∣ page) (sep : (ringOf objects descriptor).Separate)
    (on : clients.On objects descriptor) {action : Action} (honest : action.Honest objects) :
    let next := clients.act page types descriptor action
    next.2.On objects descriptor ∧
      (ringOf objects descriptor).Accounts clients.memory next.2.memory
        (action.written descriptor.quantumSize next.1) (action.taken descriptor.quantumSize next.1) := by
  refine ⟨Clients.act_on types aligned on honest, ?_⟩
  have nothing := Ring.accounts_refl (ringOf objects descriptor) clients.memory
  cases action with
  | new id request =>
    simp only [Clients.act]
    split <;> exact nothing
  | tryNew id request =>
    simp only [Clients.act]
    split <;> exact nothing
  | drop id =>
    simp only [Clients.act]
    split <;> exact nothing
  | write id elements =>
    refine call_accounts on (fun queue invalid => ⟨false, ?_, rfl, rfl⟩) rfl rfl fun queue opened => ?_
    · simp [MessageQueue.write, invalid]
    · exact write_accounts sep opened clients.memory elements
  | writeOne id element =>
    refine call_accounts on (fun queue invalid => ⟨false, ?_, rfl, rfl⟩) rfl rfl fun queue opened => ?_
    · simp [MessageQueue.writeOne, MessageQueue.write, invalid]
    · have books := write_accounts sep opened clients.memory [element]
      rw [List.length_singleton, Nat.one_mul] at books
      exact books
  | read id buffer =>
    refine call_accounts on (fun queue invalid => ⟨(false, buffer), ?_, rfl, rfl⟩) rfl rfl fun queue opened => ?_
    · simp [MessageQueue.read, invalid]
    · exact read_accounts sep opened clients.memory buffer
  | readOne id buffer =>
    refine call_accounts on (fun queue invalid => ⟨(false, [buffer]), ?_, rfl, rfl⟩) rfl rfl fun queue opened => ?_
    · simp [MessageQueue.readOne, MessageQueue.read, invalid]
    · have books := read_accounts sep opened clients.memory [buffer]
      rw [List.length_singleton, Nat.one_mul] at books
      exact books
  | available id =>
    refine call_accounts on (fun queue invalid => ⟨(0, 0), ?_, rfl, rfl⟩) rfl rfl fun queue opened => ?_
    · simp only [MessageQueue.availableToRead, MessageQueue.availableToWrite, invalid]
      rfl
    · obtain ⟨_, ring_eq⟩ := opened.accepted_and_ring_eq
      simp only [MessageQueue.availableToRead, MessageQueue.availableToWrite, ring_eq]
      simp only [Access.run_bind, Access.run_pure, Ring.run_availableToRead, Ring.run_availableToWrite]
      exact nothing

/-! ## Rows of actions -/

def bytesWritten (size : Nat) (actions : List Action) (replies : List Reply) : Nat :=
  (List.zipWith (Action.written size) actions replies).sum

def bytesTaken (size : Nat) (actions : List Action) (replies : List Reply) : Nat :=
  (List.zipWith (Action.taken size) actions replies).sum

theorem run_append (front back : List Action) :
    (clients.run page types descriptor (front ++ back)).2 =
      ((clients.run page types descriptor front).2.run page types descriptor back).2 := by
  induction front generalizing clients with
  | nil => rfl
  | cons action front ih => exact ih

/-- **A row of actions keeps the books**: what is unread at its end and what it has taken out are what was
unread before and what it has put in. -/
theorem run_accounts (aligned : counterSize ∣ page) (sep : (ringOf objects descriptor).Separate)
    (on : clients.On objects descriptor) {actions : List Action}
    (honest : ∀ action ∈ actions, action.Honest objects) :
    let last := clients.run page types descriptor actions
    last.2.On objects descriptor ∧
      (ringOf objects descriptor).unread last.2.memory + bytesTaken descriptor.quantumSize actions last.1 =
        (ringOf objects descriptor).unread clients.memory + bytesWritten descriptor.quantumSize actions last.1 := by
  induction actions generalizing clients with
  | nil => exact ⟨on, rfl⟩
  | cons action actions ih =>
    obtain ⟨first, others⟩ := List.forall_mem_cons.1 honest
    obtain ⟨on', accounts⟩ := act_accounts types aligned sep on first
    obtain ⟨on'', total⟩ := ih on' others
    refine ⟨on'', ?_⟩
    have unread_eq := accounts.unread_eq
    simp only [Clients.run, bytesTaken, bytesWritten, List.zipWith_cons_cons, List.sum_cons] at total ⊢
    omega

/-- What a distance within the ring, or beyond it, means for the actions before it. -/
theorem run_unread_le (aligned : counterSize ∣ page) (sep : (ringOf objects descriptor).Separate)
    (on : clients.On objects descriptor) {actions : List Action}
    (honest : ∀ action ∈ actions, action.Honest objects) :
    let last := clients.run page types descriptor actions
    let ring := ringOf objects descriptor
    (ring.unread clients.memory ≤ ring.bytes → ring.unread last.2.memory ≤ ring.bytes) ∧
      (ring.bytes < ring.unread last.2.memory → bytesWritten descriptor.quantumSize actions last.1 = 0) := by
  intro last ring
  induction actions generalizing clients with
  | nil => exact ⟨id, fun _ => rfl⟩
  | cons action actions ih =>
    obtain ⟨first, others⟩ := List.forall_mem_cons.1 honest
    obtain ⟨on', accounts⟩ := act_accounts types aligned sep on first
    obtain ⟨stays, nothing⟩ := ih on' others
    refine ⟨fun le => stays (accounts.unread_le le), fun beyond => ?_⟩
    -- the distance was beyond the ring after the first action, or it would have stayed within
    have before : ring.bytes < ring.unread (clients.act page types descriptor action).2.memory :=
      Nat.lt_of_not_le fun le => absurd (stays le) (Nat.not_le_of_lt beyond)
    simp only [last, Clients.run, bytesWritten, List.zipWith_cons_cons, List.sum_cons]
    rw [accounts.written_eq_zero before, Nat.zero_add]
    exact nothing beyond

/-- **Availability is accounted for, whatever the counters say.** Let queues on a descriptor be called in
any order from any memory. Each write that puts bytes in had room for them and each read that takes bytes
out found them; together they account for the distance of the counters. Once that distance is within the
ring it stays there, and what a valid queue may read and write adds up to the ring; while it is beyond,
nothing may be written and nothing has been. -/
theorem availability_accounted {page : Nat} (aligned : counterSize ∣ page) (types : Nat → ElementType)
    {descriptor : RegionDescriptor} {objects : Int → Nat} (sep : (ringOf objects descriptor).Separate)
    {clients : Clients} (on : clients.On objects descriptor) {actions : List Action}
    (honest : ∀ action ∈ actions, action.Honest objects) :
    let ring := ringOf objects descriptor
    let size := descriptor.quantumSize
    let after := fun front => (clients.run page types descriptor front).2
    let replies := (clients.run page types descriptor actions).1
    (∀ front action back, actions = front ++ action :: back →
      let call := (after front).act page types descriptor action
      ring.Accounts (after front).memory call.2.memory (action.written size call.1) (action.taken size call.1)) ∧
    ring.unread (after actions).memory + bytesTaken size actions replies =
      ring.unread clients.memory + bytesWritten size actions replies ∧
    (∀ front back, actions = front ++ back → ring.unread (after front).memory ≤ ring.bytes →
      ring.unread (after actions).memory ≤ ring.bytes) ∧
    (ring.bytes < ring.unread (after actions).memory → bytesWritten size actions replies = 0) ∧
    ∀ id queue, (after actions).queues id = some queue → queue.isValid = true →
      let toRead := (queue.availableToRead.run (after actions).memory).1
      let toWrite := (queue.availableToWrite.run (after actions).memory).1
      toRead = ring.unread (after actions).memory ∧
        (toRead ≤ ring.bytes → toRead + toWrite = ring.bytes) ∧ (ring.bytes < toRead → toWrite = 0) := by
  intro ring size after replies
  have part : ∀ front back, actions = front ++ back →
      (∀ action ∈ front, action.Honest objects) ∧ ∀ action ∈ back, action.Honest objects := by
    intro front back whole
    rw [whole] at honest
    exact List.forall_mem_append.1 honest
  obtain ⟨on', total⟩ := run_accounts types aligned sep on honest
  refine ⟨?_, total, ?_, (run_unread_le types aligned sep on honest).2, ?_⟩
  · intro front action back whole
    obtain ⟨honest_front, honest_back⟩ := part front (action :: back) whole
    obtain ⟨on_front, _⟩ := run_accounts types aligned sep on honest_front
    exact (act_accounts types aligned sep on_front (honest_back action (by simp))).2
  · intro front back whole le
    obtain ⟨honest_front, honest_back⟩ := part front back whole
    obtain ⟨on_front, _⟩ := run_accounts types aligned sep on honest_front
    have stays := (run_unread_le types aligned sep on_front honest_back).1 le
    rwa [← run_append, ← whole] at stays
  · intro id queue found valid
    obtain ⟨_, ring_eq⟩ := (on' id queue found valid).accepted_and_ring_eq
    simp only [MessageQueue.availableToRead, MessageQueue.availableToWrite, ring_eq, Ring.run_availableToRead,
      Ring.run_availableToWrite]
    exact ⟨rfl, fun le => Nat.add_sub_of_le le, fun beyond => Nat.sub_eq_zero_of_le (Nat.le_of_lt beyond)⟩

/-- Counters that are 40 bytes apart over a ring of 24: nothing may be written, and a write is refused. -/
theorem availability_beyond_ring :
    let layout : QueueLayout := { quantumSize := 8, quantumCount := 3, ringBytes := 24 }
    let ring := ringOf (fun _ => 0) (layout.descriptor 3)
    let queue : MessageQueue := { element := .unsigned 8, descriptor := layout.descriptor 3, ring := some ring }
    let clients : Clients := ⟨Memory.zero.setWord ring.writeCounter 40, fun _ => some queue⟩
    (queue.availableToWrite.run clients.memory).1 = 0 ∧
      (clients.act pageSize (fun _ => .unsigned 8) (layout.descriptor 3) (.write 0 [.integer 1])).1 ≠ .wrote true := by
  intro layout ring queue clients
  have aligned : counterSize ∣ pageSize := by decide
  have sep : ring.Separate := separate_layout _ layout 3
  have opened : OpenedOn (fun _ => 0) (layout.descriptor 3) queue :=
    @openedOn_of_granted pageSize aligned _ _ (honest_const 0) _ _ rfl (by decide)
  have on : clients.On (fun _ => 0) (layout.descriptor 3) := by
    intro id made found _
    cases found
    exact opened
  have apart : ring.unread clients.memory = 40 := by
    rw [Ring.unread, Memory.word_setWord, Memory.word_setWord_of_apart _ _ sep.counters.symm, Memory.word_zero]
    rfl
  constructor
  · obtain ⟨toRead, -, nothing⟩ := (availability_accounted aligned (fun _ => .unsigned 8) sep on
      (List.forall_mem_nil _)).2.2.2.2 0 queue rfl rfl
    exact nothing (by rw [toRead]; exact apart ▸ (by decide : 24 < 40))
  · intro wrote
    have honest : ∀ action ∈ [Action.write 0 [.integer 1]], action.Honest fun _ => 0 := by simp [Action.Honest]
    have accounts := (availability_accounted aligned (fun _ => .unsigned 8) sep on honest).1 [] _ [] rfl
    have room := accounts.room
    simp only [Clients.run, wrote] at room
    have le : ring.unread clients.memory + 8 ≤ 24 := room (by decide)
    omega

end

end SharedRing
