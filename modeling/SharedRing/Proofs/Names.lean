import SharedRing.Proofs.Sessions

/-!
# Who owns a name

A segment that goes unlinks a name, not an object, and it goes on every failure as well. What keeps it
from unlinking a name that belongs to someone else is that names in use and live creators match
(`Owned`): a name is bound exactly if one live segment created it, and to that segment's object. A
segment that is made finds its name free, and one that is released takes its name with it.
-/

namespace SharedRing

/-- The live segments have file descriptors of their own, and the names in use are those that they
created, each bound to its creator's object. -/
structure Owned (system : System) (live : QueueSegment → Prop) : Prop where
  opened : ∀ segment, live segment → ∃ object, system.object? segment.fd = some object
  apart : ∀ segment other, live segment → live other → segment.fd = other.fd → segment = other
  single : ∀ name segment other, live segment → live other → segment.Creates name → other.Creates name →
    segment = other
  bound : ∀ name object, system.named? name = some object ↔
    ∃ segment, live segment ∧ segment.Creates name ∧ system.object? segment.fd = some object

namespace Owned

variable {system before now : System} {live : QueueSegment → Prop} {segment : QueueSegment} {object : Nat}

/-- Ownership is a matter of lookups. -/
theorem congr (h : Owned before live) (object?_eq : ∀ fd, now.object? fd = before.object? fd)
    (named?_eq : ∀ name, now.named? name = before.named? name) : Owned now live := by
  constructor
  case opened =>
    intro segment member
    rw [object?_eq]
    exact h.opened segment member
  case apart => exact h.apart
  case single => exact h.single
  case bound =>
    intro name object
    simp only [named?_eq, object?_eq]
    exact h.bound name object

theorem named?_ne_none (h : Owned system live) (member : live segment) {name : String}
    (creates : segment.Creates name) : system.named? name ≠ none := by
  obtain ⟨object, found⟩ := h.opened segment member
  have bound := (h.bound name object).2 ⟨segment, member, creates, found⟩
  simp [bound]

/-- A live segment's file descriptor is not a fresh one. -/
theorem fd_ne (h : Owned before live) (holds : Holds before now segment object) {other : QueueSegment}
    (member : live other) : other.fd ≠ segment.fd := by
  intro same
  obtain ⟨held, found⟩ := h.opened other member
  rw [same, holds.fresh] at found
  cases found

theorem ne_of_holds (h : Owned before live) (holds : Holds before now segment object) {other : QueueSegment}
    (member : live other) : other ≠ segment := by
  rintro rfl
  exact h.fd_ne holds member rfl

theorem object?_eq (h : Owned before live) (holds : Holds before now segment object) {other : QueueSegment}
    (member : live other) : now.object? other.fd = before.object? other.fd := by
  rw [holds.object?_eq, if_neg (h.fd_ne holds member)]

theorem not_creates (h : Owned before live) (holds : Holds before now segment object) {other : QueueSegment}
    (member : live other) {name : String} (creates : segment.Creates name) : ¬ other.Creates name :=
  fun also => h.named?_ne_none member also (holds.free name creates)

/-- **A segment that is made or opened joins the live ones.** -/
theorem holds (h : Owned before live) (new : Holds before now segment object) :
    Owned now fun other => other = segment ∨ live other := by
  constructor
  case opened =>
    rintro other (rfl | member)
    · exact ⟨object, new.object?_fd⟩
    · rw [h.object?_eq new member]
      exact h.opened other member
  case apart =>
    rintro first second (rfl | member) (rfl | member') same
    · rfl
    · exact absurd same.symm (h.fd_ne new member')
    · exact absurd same (h.fd_ne new member)
    · exact h.apart first second member member' same
  case single =>
    rintro name first second (rfl | member) (rfl | member') creates creates'
    · rfl
    · exact absurd creates' (h.not_creates new member' creates)
    · exact absurd creates (h.not_creates new member creates')
    · exact h.single name first second member member' creates creates'
  case bound =>
    intro name target
    rw [new.named?_eq]
    split
    · rename_i creates
      constructor
      · intro same
        exact ⟨segment, .inl rfl, creates, new.object?_fd.trans same⟩
      · rintro ⟨other, rfl | member, creates', found⟩
        · exact new.object?_fd.symm.trans found
        · exact absurd creates' (h.not_creates new member creates)
    · rename_i free
      rw [h.bound]
      constructor
      · rintro ⟨other, member, creates, found⟩
        exact ⟨other, .inr member, creates, (h.object?_eq new member).trans found⟩
      · rintro ⟨other, rfl | member, creates, found⟩
        · exact absurd creates free
        · exact ⟨other, member, creates, (h.object?_eq new member).symm.trans found⟩

/-- **A segment that is released leaves the live ones**, and takes its name and no other with it. -/
theorem release (h : Owned system live) (member : live segment) :
    Owned (segment.release system) fun other => live other ∧ other ≠ segment := by
  have fd_ne : ∀ other, live other → other ≠ segment → other.fd ≠ segment.fd :=
    fun other member' distinct same => distinct (h.apart other segment member' member same)
  constructor
  case opened =>
    rintro other ⟨member', distinct⟩
    rw [object?_release, if_neg (fd_ne other member' distinct)]
    exact h.opened other member'
  case apart =>
    rintro first second ⟨member', _⟩ ⟨member'', _⟩ same
    exact h.apart first second member' member'' same
  case single =>
    rintro name first second ⟨member', _⟩ ⟨member'', _⟩ creates creates'
    exact h.single name first second member' member'' creates creates'
  case bound =>
    intro name object
    rw [named?_release]
    split
    · rename_i creates
      constructor
      · intro bound
        cases bound
      · rintro ⟨other, ⟨member', distinct⟩, creates', _⟩
        exact absurd (h.single name other segment member' member creates' creates) distinct
    · rename_i other_name
      rw [h.bound]
      constructor
      · rintro ⟨other, member', creates, found⟩
        have distinct : other ≠ segment := by
          rintro rfl
          exact other_name creates
        refine ⟨other, ⟨member', distinct⟩, creates, ?_⟩
        rw [object?_release, if_neg (fd_ne other member' distinct), found]
      · rintro ⟨other, ⟨member', distinct⟩, creates, found⟩
        rw [object?_release, if_neg (fd_ne other member' distinct)] at found
        exact ⟨other, member', creates, found⟩

end Owned

/-! ## Sessions -/

namespace Session

def Live (session : Session) (segment : QueueSegment) : Prop := ∃ id, session.segment? id = some segment

/-- The names belong to the session's segments, each of which is held under one id. -/
structure NamesOwned (session : Session) : Prop where
  owned : Owned session.system session.Live
  once : ∀ id other segment, session.segment? id = some segment → session.segment? other = some segment → id = other

theorem namesOwned_empty : empty.NamesOwned := by
  have none_live : ∀ segment, ¬ empty.Live segment := fun segment ⟨id, found⟩ => nomatch found
  refine ⟨⟨?_, ?_, ?_, ?_⟩, fun id other segment found => nomatch found⟩
  · intro segment member
    exact absurd member (none_live segment)
  · intro segment other member
    exact absurd member (none_live segment)
  · intro name segment other member
    exact absurd member (none_live segment)
  · intro name object
    constructor
    · intro bound
      cases bound
    · rintro ⟨segment, member, _⟩
      exact absurd member (none_live segment)

variable {session next : Session}

theorem segment?_releaseSegment (session : Session) (id other : String) :
    (session.releaseSegment id).segment? other = if other = id then none else session.segment? other := by
  cases found : session.segment? id with
  | some segment =>
    rw [releaseSegment, found]
    exact lookup_filter_ne _ _ _
  | none =>
    have unchanged : session.releaseSegment id = session := by rw [releaseSegment, found]
    rw [unchanged]
    by_cases same : other = id
    · rw [if_pos same, same, found]
    · rw [if_neg same]

theorem segment?_bindKey (session : Session) (id other : String) (segment : QueueSegment) :
    Session.segment? { session with segments := bindKey id segment session.segments } other =
      if other = id then some segment else session.segment? other :=
  lookup_bindKey _ _ _ _

/-- A segment that was made or opened takes the place of the one under its id. -/
theorem segment?_keepSegment (session : Session) (id other : String) (after : System) (segment : QueueSegment) :
    (session.keepSegment id (after, .ok segment)).2.segment? other =
      if other = id then some segment else session.segment? other := by
  refine (segment?_bindKey (Session.releaseSegment { session with system := after } id) id other segment).trans ?_
  rw [segment?_releaseSegment]
  split
  · rfl
  · rfl

theorem NamesOwned.stays (h : session.NamesOwned) {truncated : Prop} (same : session.Stays truncated next) :
    next.NamesOwned := by
  have segment?_eq : ∀ id, next.segment? id = session.segment? id := fun id => by
    rw [segment?, segment?, same.segments]
  have live_eq : next.Live = session.Live := by
    funext segment
    simp only [Live, segment?_eq]
  constructor
  case owned =>
    rw [live_eq]
    refine h.owned.congr (fun fd => ?_) fun name => ?_
    · rw [System.object?, System.object?, same.descriptors]
    · rw [System.named?, System.named?, same.names]
  case once =>
    intro id other segment found found'
    rw [segment?_eq] at found found'
    exact h.once id other segment found found'

theorem NamesOwned.releaseSegment (h : session.NamesOwned) (id : String) : (session.releaseSegment id).NamesOwned := by
  cases found : session.segment? id with
  | none =>
    rw [Session.releaseSegment, found]
    exact h
  | some segment =>
    have system_eq : (session.releaseSegment id).system = segment.release session.system := by
      rw [Session.releaseSegment, found]
    have live_eq : (session.releaseSegment id).Live = fun other => session.Live other ∧ other ≠ segment := by
      funext other
      simp only [Live, segment?_releaseSegment, eq_iff_iff]
      constructor
      · rintro ⟨key, held⟩
        split at held
        · cases held
        · rename_i distinct
          refine ⟨⟨key, held⟩, ?_⟩
          rintro rfl
          exact distinct (h.once key id other held found)
      · rintro ⟨⟨key, held⟩, distinct⟩
        refine ⟨key, ?_⟩
        rw [if_neg, held]
        rintro rfl
        exact distinct (Option.some.inj (held.symm.trans found))
    constructor
    case owned =>
      rw [system_eq, live_eq]
      exact h.owned.release ⟨id, found⟩
    case once =>
      intro key other held found' found''
      rw [segment?_releaseSegment] at found' found''
      split at found'
      · cases found'
      · split at found''
        · cases found''
        · exact h.once key other held found' found''

/-- **A segment that is made or opened takes the place of the one under its id**, which is released. -/
theorem NamesOwned.keeps (h : session.NamesOwned) {after : System} {segment : QueueSegment} {object : Nat}
    (new : Holds session.system after segment object) (id : String) :
    (session.keepSegment id (after, .ok segment)).2.NamesOwned := by
  have joined := h.owned.holds new
  have fresh : ¬ session.Live segment := fun member => h.owned.ne_of_holds new member rfl
  have segment?_eq := fun other => session.segment?_keepSegment id other after segment
  have live_iff : ∀ other, (session.keepSegment id (after, .ok segment)).2.Live other ↔
      (other = segment ∨ session.Live other) ∧ session.segment? id ≠ some other := by
    intro other
    simp only [Live, segment?_eq]
    constructor
    · rintro ⟨key, held⟩
      split at held
      · cases held
        exact ⟨.inl rfl, fun found => fresh ⟨id, found⟩⟩
      · rename_i distinct
        exact ⟨.inr ⟨key, held⟩, fun found => distinct (h.once key id other held found)⟩
    · rintro ⟨rfl | ⟨key, held⟩, replaced⟩
      · exact ⟨id, if_pos rfl⟩
      · refine ⟨key, ?_⟩
        rw [if_neg, held]
        rintro rfl
        exact replaced held
  constructor
  case owned =>
    have live_eq := funext fun other => propext (live_iff other)
    rw [live_eq]
    change Owned (Session.releaseSegment { session with system := after } id).system _
    cases found : session.segment? id with
    | none =>
      rw [Session.releaseSegment, show Session.segment? { session with system := after } id = none from found]
      simpa using joined
    | some old =>
      rw [Session.releaseSegment, show Session.segment? { session with system := after } id = some old from found]
      have released := joined.release (.inr ⟨id, found⟩)
      simpa [eq_comm] using released
  case once =>
    intro key other held found found'
    rw [segment?_eq] at found found'
    split at found
    · cases found
      split at found'
      · simp [*]
      · exact absurd ⟨other, found'⟩ fresh
    · split at found'
      · cases found'
        exact absurd ⟨key, found⟩ fresh
      · exact h.once key other held found found'

theorem NamesOwned.undone (h : session.NamesOwned) {after : System} (undone : Undone session.system after) :
    NamesOwned { session with system := after } :=
  ⟨h.owned.congr undone.object?_eq undone.named?_eq, h.once⟩

/-- **A step leaves every name with its owner.** -/
theorem NamesOwned.step (h : session.NamesOwned) (step : Step) : (session.step step).2.NamesOwned := by
  have moved := session.step_moves step
  generalize (session.step step).2 = next at moved ⊢
  cases moved with
  | stays same => exact h.stays same
  | drops id _ segments system =>
    have same : (session.releaseSegment id).Stays False next :=
      ⟨segments, by rw [system], by rw [system], fun _ object => Nat.le_of_eq (by rw [system])⟩
    exact (h.releaseSegment id).stays same
  | @keeps id outcome made =>
    obtain ⟨after, result⟩ := outcome
    rcases made.holds_or_undone with ⟨segment, object, rfl, new, _⟩ | ⟨⟨error, rfl⟩, undone⟩
    · exact h.keeps new id
    · exact h.undone undone

/-- **After any row of steps every name is with its owner.** -/
theorem NamesOwned.run (h : session.NamesOwned) (steps : List Step) : (session.run steps).2.NamesOwned := by
  induction steps generalizing session with
  | nil => exact h
  | cons step steps ih => exact ih (h.step step)

theorem NamesOwned.named?_iff (h : session.NamesOwned) (name : String) :
    (∃ object, session.system.named? name = some object) ↔
      ∃! id, ∃ segment, session.segment? id = some segment ∧ segment.Creates name := by
  constructor
  · rintro ⟨object, bound⟩
    obtain ⟨segment, ⟨id, held⟩, creates, _⟩ := (h.owned.bound name object).1 bound
    refine ⟨id, ⟨segment, held, creates⟩, ?_⟩
    rintro other ⟨segment', held', creates'⟩
    obtain rfl := h.owned.single name segment' segment ⟨other, held'⟩ ⟨id, held⟩ creates' creates
    exact h.once other id segment' held' held
  · rintro ⟨id, ⟨segment, held, creates⟩, _⟩
    exact Option.ne_none_iff_exists'.1 (h.owned.named?_ne_none ⟨id, held⟩ creates)

theorem NamesOwned.named?_eq (h : session.NamesOwned) {id : String} {segment : QueueSegment} {name : String}
    (held : session.segment? id = some segment) (creates : segment.Creates name) :
    ∃ object, session.object? id = some object ∧ session.system.named? name = some object := by
  obtain ⟨object, found⟩ := h.owned.opened segment ⟨id, held⟩
  refine ⟨object, ?_, (h.owned.bound name object).2 ⟨segment, ⟨id, held⟩, creates, found⟩⟩
  rw [object?, held]
  exact found

theorem system_drop (session : Session) (id : String) :
    (session.step (.drop id)).2.system = (session.releaseSegment id).system := rfl

/-- **A name in use belongs to the one live segment that created it.** After any row of steps from an empty
name space: a name is bound exactly if one id holds a segment that created it, and it is bound to this
segment's object. A segment is created only under a name without a live creator; one that is opened reaches
the creator's object, and an opening that fails leaves all names. A segment that is dropped takes the name
that it created with it and no other, so one that only opened an object takes none. -/
theorem names_belong_to_creators (steps : List Step) :
    let session := (empty.run steps).2
    (∀ name, (∃ object, session.system.named? name = some object) ↔
      ∃! id, ∃ segment, session.segment? id = some segment ∧ segment.Creates name) ∧
    (∀ id segment name, session.segment? id = some segment → segment.Creates name →
      ∃ object, session.object? id = some object ∧ session.system.named? name = some object) ∧
    (∀ name layout after segment, QueueSegment.create session.system true name layout = (after, .ok segment) →
      ∀ id other, session.segment? id = some other → ¬ other.Creates name) ∧
    (∀ name layout after segment, QueueSegment.openNamed session.system name layout = (after, .ok segment) →
      ∃ id creator object, session.segment? id = some creator ∧ creator.Creates name ∧
        session.object? id = some object ∧ after.object? segment.fd = some object) ∧
    (∀ name layout after error, QueueSegment.openNamed session.system name layout = (after, .error error) →
      ∀ other, after.named? other = session.system.named? other) ∧
    ∀ id, let dropped := (session.step (.drop id)).2
      (session.segment? id = none → ∀ name, dropped.system.named? name = session.system.named? name) ∧
      ∀ segment, session.segment? id = some segment → ∀ name, dropped.system.named? name =
        if segment.Creates name then none else session.system.named? name := by
  intro session
  have names : session.NamesOwned := namesOwned_empty.run steps
  refine ⟨names.named?_iff, ?_, ?_, ?_, ?_, ?_⟩
  · intro id segment name held creates
    exact names.named?_eq held creates
  · intro name layout after segment created id other held creates
    obtain ⟨made, _⟩ := QueueSegment.create_eq_ok created
    have own : segment.Creates name := by
      rw [made.segment_eq]
      exact ⟨rfl, rfl, rfl⟩
    exact names.owned.not_creates made.toHolds ⟨id, held⟩ own creates
  · intro name layout after segment opened
    obtain ⟨_, object, bound, holds, _⟩ := QueueSegment.openNamed_eq_ok opened
    obtain ⟨creator, ⟨id, held⟩, creates, found⟩ := (names.owned.bound name object).1 bound
    refine ⟨id, creator, object, held, creates, ?_, holds.object?_fd⟩
    rw [object?, held]
    exact found
  · intro name layout after error failed other
    exact (QueueSegment.openNamed_eq_error failed).named?_eq other
  · intro id dropped
    refine ⟨fun unheld name => ?_, fun segment held name => ?_⟩
    · simp only [dropped, system_drop, releaseSegment, unheld]
    · simp only [dropped, system_drop, releaseSegment, held]
      exact named?_release session.system segment name

/-- The opener has gone and a second creation under the name has been refused: the name still belongs to its
creator, and goes with it. -/
theorem names_belong_to_creators_when_shared :
    let steps : List Step := [.create "a" true "ring" 8 3, .openNamed "b" "ring" 8 3, .create "c" true "ring" 4 1,
      .drop "b"]
    let session := (empty.run steps).2
    (∃! id, ∃ segment, session.segment? id = some segment ∧ segment.Creates "ring") ∧
      (session.step (.drop "a")).2.system.named? "ring" = none := by
  intro steps session
  obtain ⟨named?_iff, _, _, _, _, drop⟩ := names_belong_to_creators steps
  have bound : session.system.named? "ring" = some 0 := by decide +kernel
  have held : session.segment? "a" = some ⟨"ring", 3, ⟨8, 3, 24⟩, true, true⟩ := by decide +kernel
  refine ⟨(named?_iff "ring").1 ⟨0, bound⟩, ?_⟩
  exact (drop "a").2 _ held "ring"

end Session

end SharedRing
