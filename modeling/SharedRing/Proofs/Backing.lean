import SharedRing.Proofs.Lineage

/-!
# The object behind each creation

Behind every successful creation there is an object of its own, a later one than those behind the creations before.
What stems from the creation leads there: its name while it has one, the segments that were created or opened on it,
and the queues that were made on these, which touch no other object (`Backed`). Each step that calls no queue keeps
it so (`Backed.quiet`), whatever goes, is opened or is created again.
-/

namespace SharedRing

def OfObject (object : Nat) (place : Address) : Prop := place.object = object

/-- A queue on a segment's descriptor touches the segment's object only. -/
theorem QueueSegment.touches_ofDescriptor {system : System} {segment : QueueSegment} {object : Nat}
    (found : system.object? segment.fd = some object) {element : ElementType} {queue : MessageQueue}
    (made : MessageQueue.ofDescriptor pageSize (fun _ => system.request) element segment.descriptor = .ok queue) :
    queue.Touches (Access.Event.InRegion (OfObject object)) := by
  cases valid : queue.ring with
  | none => exact MessageQueue.touches_of_invalid valid _
  | some ring =>
    have opened := MessageQueue.openedOn_ofDescriptor (by decide) system.honest_request made
      (by rw [MessageQueue.isValid, valid]; rfl)
    have object_eq := System.objects_eq found
    have inside : ∀ place, (MessageQueue.ringOf system.objects segment.descriptor).Region place →
        OfObject object place := by
      rintro place ⟨part, member, i, _, rfl⟩
      simp only [Ring.parts, List.mem_cons, List.not_mem_nil, or_false] at member
      rcases member with rfl | rfl | rfl <;> exact object_eq
    exact opened.touches.mono fun event => Access.Event.InRegion.mono inside

/-- All that stems from a creation leads to the object of that creation, which is a later one than those of the
creations before. -/
structure Backed (object : Nat → Nat) (lineage : Lineage) (session : Session) : Prop where
  names_owned : session.NamesOwned
  bounded : lineage.Bounded
  increasing : ∀ j k, j < k → k < lineage.count → object j < object k
  known : ∀ k < lineage.count, object k < session.system.lengths.length
  object?_eq : ∀ id, session.object? id = (lineage.segments id).map fun origin => object origin.creation
  frees_eq : ∀ id, session.frees id = (lineage.segments id).bind (·.frees)
  named?_eq : ∀ name, session.system.named? name = (lineage.names name).map object
  touches : ∀ q queue, session.queue? q = some queue → ∃ creation < lineage.count,
    lineage.queues q = some creation ∧ queue.Touches (Access.Event.InRegion (OfObject (object creation)))

namespace Backed

open Session

variable {object object' : Nat → Nat} {lineage lineage' : Lineage} {session next : Session}

theorem empty (object : Nat → Nat) : Backed object .empty .empty := by
  constructor
  case names_owned => exact namesOwned_empty
  case bounded => exact ⟨fun _ _ found => (nomatch found), fun _ _ found => (nomatch found)⟩
  case increasing => exact fun j k _ below => absurd below (Nat.not_lt_zero k)
  case known => exact fun k below => absurd below (Nat.not_lt_zero k)
  case object?_eq => exact fun _ => rfl
  case frees_eq => exact fun _ => rfl
  case named?_eq => exact fun _ => rfl
  case touches => exact fun q queue found => nomatch found

theorem object_inj (h : Backed object lineage session) {j k : Nat} (below : j < lineage.count)
    (below' : k < lineage.count) (same : object j = object k) : j = k := by
  rcases Nat.lt_trichotomy j k with earlier | equal | later
  · exact absurd same (Nat.ne_of_lt (h.increasing j k earlier below'))
  · exact equal
  · exact absurd same.symm (Nat.ne_of_lt (h.increasing k j later below))

/-- Only the objects of the creations that there have been matter. -/
theorem congr (h : Backed object lineage session) (agree : ∀ k < lineage.count, object' k = object k) :
    Backed object' lineage session := by
  constructor
  case names_owned => exact h.names_owned
  case bounded => exact h.bounded
  case increasing =>
    intro j k lt below
    rw [agree j (Nat.lt_trans lt below), agree k below]
    exact h.increasing j k lt below
  case known =>
    intro k below
    rw [agree k below]
    exact h.known k below
  case object?_eq =>
    intro id
    rw [h.object?_eq]
    cases found : lineage.segments id with
    | none => rfl
    | some origin => simp [agree _ (h.bounded.segments id origin found)]
  case frees_eq => exact h.frees_eq
  case named?_eq =>
    intro name
    rw [h.named?_eq]
    cases found : lineage.names name with
    | none => rfl
    | some creation => simp [agree _ (h.bounded.names name creation found)]
  case touches =>
    intro q queue found
    obtain ⟨creation, below, stems, touches⟩ := h.touches q queue found
    exact ⟨creation, below, stems, agree creation below ▸ touches⟩

theorem perform {α : Type} (h : Backed object lineage session) (operation : Access α) :
    Backed object lineage (session.perform operation).2 :=
  ⟨h.names_owned.stays (@stays_perform session False α operation), h.bounded, h.increasing, h.known, h.object?_eq, h.frees_eq,
    h.named?_eq, h.touches⟩

theorem undone (h : Backed object lineage session) {after : System} (undone : Undone session.system after) :
    Backed object lineage { session with system := after } := by
  constructor
  case names_owned => exact h.names_owned.undone undone
  case bounded => exact h.bounded
  case increasing => exact h.increasing
  case known => exact fun k below => Nat.lt_of_lt_of_le (h.known k below) undone.keeps.count_le
  case object?_eq =>
    intro id
    rw [← h.object?_eq]
    exact congrArg (session.segment? id >>= ·) (funext fun segment => undone.object?_eq segment.fd)
  case frees_eq => exact h.frees_eq
  case named?_eq => exact fun name => (undone.named?_eq name).trans (h.named?_eq name)
  case touches => exact h.touches

/-- **A segment that goes** takes the name that it frees with it, and no queue. -/
theorem drop (h : Backed object lineage session) (id : String) :
    Backed object (lineage.drop id) (session.drop id).2 := by
  constructor
  case names_owned => exact h.names_owned.step (.drop id)
  case bounded => exact ⟨(h.bounded.release id).segments, (h.bounded.release id).names⟩
  case increasing => exact h.increasing
  case known =>
    intro k below
    exact Nat.lt_of_lt_of_eq (h.known k below) (congrArg List.length (session.lengths_releaseSegment id).symm)
  case object?_eq =>
    intro other
    refine (h.names_owned.object?_releaseSegment id other).trans ?_
    simp only [Lineage.drop, Lineage.release, Function.update_apply]
    split
    · rfl
    · exact h.object?_eq other
  case frees_eq =>
    intro other
    refine (session.frees_releaseSegment id other).trans ?_
    simp only [Lineage.drop, Lineage.release, Function.update_apply]
    split
    · rfl
    · exact h.frees_eq other
  case named?_eq =>
    intro name
    refine (session.named?_releaseSegment id name).trans ?_
    simp only [Lineage.drop, Lineage.release, h.frees_eq]
    split
    · rfl
    · exact h.named?_eq name
  case touches =>
    intro q queue found
    have kept : (session.releaseSegment id).queue? q = some queue ∧ q ≠ id := by
      have lookup := (lookup_filter_ne (session.releaseSegment id).queues id q).symm.trans found
      split at lookup
      · cases lookup
      · exact ⟨lookup, ‹_›⟩
    rw [queue?, queues_releaseSegment] at kept
    obtain ⟨creation, below, stems, touches⟩ := h.touches q queue kept.1
    exact ⟨creation, below, (Function.update_of_ne kept.2 _ _).trans stems, touches⟩

/-- **A segment that is made or opened** leads to the object of its creation, which may be a new one. -/
theorem keep (h : Backed object lineage session) {after : System} {segment : QueueSegment} (origin : Origin)
    (new : Holds session.system after segment (object origin.creation)) (frees : origin.frees = segment.frees)
    {count : Nat} (le : lineage.count ≤ count) (lt : origin.creation < count)
    (increasing : ∀ j k, j < k → k < count → object j < object k)
    (known : ∀ k < count, object k < after.lengths.length) (id : String) :
    Backed object { lineage.keep id origin with count } (session.keepSegment id (after, .ok segment)).2 := by
  constructor
  case names_owned => exact h.names_owned.keeps new id
  case bounded => exact h.bounded.keep id le lt
  case increasing => exact increasing
  case known =>
    rw [lengths_keepSegment]
    exact known
  case object?_eq =>
    intro other
    rw [h.names_owned.object?_keepSegment new]
    simp only [Lineage.keep, Lineage.release, Function.update_apply]
    split
    · rfl
    · exact h.object?_eq other
  case frees_eq =>
    intro other
    rw [frees_keepSegment]
    simp only [Lineage.keep, Lineage.release, Function.update_apply]
    split
    · exact frees.symm
    · exact h.frees_eq other
  case named?_eq =>
    intro name
    rw [h.names_owned.named?_keepSegment new]
    simp only [Lineage.keep, Lineage.release, frees, h.frees_eq]
    split
    · rfl
    · split
      · rfl
      · exact h.named?_eq name
  case touches =>
    intro q queue found
    rw [queue?, queues_keepSegment] at found
    obtain ⟨creation, below, touched⟩ := h.touches q queue found
    exact ⟨creation, Nat.lt_of_lt_of_le below le, touched⟩

/-- **A queue that is made** touches the object that its segment has then. -/
theorem connect (h : Backed object lineage session) {seg : String} {segment : QueueSegment} {element : ElementType}
    {queue : MessageQueue} (held : session.segment? seg = some segment)
    (made : MessageQueue.ofDescriptor pageSize (fun _ => session.system.request) element segment.descriptor = .ok queue)
    (q : String) :
    Backed object (lineage.connect q seg) { session with queues := bindKey q queue session.queues } := by
  refine ⟨⟨h.names_owned.owned, h.names_owned.once⟩, ⟨h.bounded.segments, h.bounded.names⟩, h.increasing, h.known,
    h.object?_eq, h.frees_eq, h.named?_eq, fun other found queued => ?_⟩
  have lookup := (lookup_bindKey session.queues q other queue).symm.trans queued
  split at lookup
  · rename_i same
    subst same
    cases lookup
    -- the segment is one of the lineage
    obtain ⟨held_object, found⟩ := h.names_owned.owned.opened segment ⟨seg, held⟩
    have traced := h.object?_eq seg
    rw [object?_of_segment? held, found] at traced
    obtain ⟨origin, stems, rfl⟩ := Option.map_eq_some_iff.1 traced.symm
    refine ⟨origin.creation, h.bounded.segments seg origin stems, ?_, QueueSegment.touches_ofDescriptor found made⟩
    simp [Lineage.connect, stems]
  · rename_i distinct
    obtain ⟨creation, below, stems, touches⟩ := h.touches other found lookup
    exact ⟨creation, below, (Function.update_of_ne distinct _ _).trans stems, touches⟩

/-- **A step that calls no queue** leaves each creation its object, and a creation that it adds gets a new one. -/
theorem quiet (h : Backed object lineage session) (quiet : session.Quiet lineage next lineage') :
    ∃ object', (∀ k < lineage.count, object' k = object k) ∧ lineage.count ≤ lineage'.count ∧
      (∀ k, lineage.count ≤ k → k < lineage'.count → session.system.lengths.length ≤ object' k) ∧
      Backed object' lineage' next := by
  have none_new : ∀ k, lineage.count ≤ k → k < lineage.count → session.system.lengths.length ≤ object k :=
    fun k le lt => absurd le (Nat.not_le_of_lt lt)
  cases quiet with
  | idles undone => exact ⟨object, fun _ _ => rfl, Nat.le_refl _, none_new, h.undone undone⟩
  | drops id => exact ⟨object, fun _ _ => rfl, Nat.le_refl _, none_new, h.drop id⟩
  | connects q held made => exact ⟨object, fun _ _ => rfl, Nat.le_refl _, none_new, h.connect held made q⟩
  | opens id opened =>
    obtain ⟨segment_eq, _, bound, holds, _⟩ := QueueSegment.openNamed_eq_ok opened
    rw [h.named?_eq] at bound
    obtain ⟨creation, stems, rfl⟩ := Option.map_eq_some_iff.1 bound
    have kept := h.keep ⟨creation, none⟩ holds (by rw [segment_eq]; rfl) (Nat.le_refl _)
      (h.bounded.names _ creation stems) h.increasing
      (fun k below => Nat.lt_of_lt_of_le (h.known k below) holds.keeps.count_le) id
    rw [Lineage.openNamed, stems]
    exact ⟨object, fun _ _ => rfl, Nat.le_refl _, none_new, kept⟩
  | @creates id named name layout after segment created =>
    obtain ⟨made, _⟩ := QueueSegment.create_eq_ok created
    let object' := Function.update object lineage.count session.system.lengths.length
    have agree : ∀ k < lineage.count, object' k = object k := fun k below =>
      Function.update_of_ne (Nat.ne_of_lt below) _ _
    have here : object' lineage.count = session.system.lengths.length := Function.update_self _ _ _
    have layout_frees : segment.frees = if named then some name else none := by
      rw [made.segment_eq, QueueSegment.frees, Bool.and_true]
    have known : ∀ k < lineage.count + 1, object' k < after.lengths.length := by
      intro k below
      rcases Nat.lt_succ_iff_lt_or_eq.1 below with earlier | rfl
      · rw [agree k earlier]
        exact Nat.lt_of_lt_of_le (h.known k earlier) made.keeps.count_le
      · rw [here]
        exact made.known
    have increasing : ∀ j k, j < k → k < lineage.count + 1 → object' j < object' k := by
      intro j k lt below
      rcases Nat.lt_succ_iff_lt_or_eq.1 below with earlier | rfl
      · rw [agree j (Nat.lt_trans lt earlier), agree k earlier]
        exact h.increasing j k lt earlier
      · rw [agree j lt, here]
        exact h.known j lt
    have holds : Holds session.system after segment (object' lineage.count) := by
      rw [here]
      exact made.toHolds
    refine ⟨object', agree, Nat.le_succ _, fun k le below => ?_, ?_⟩
    · have same : k = lineage.count := Nat.le_antisymm (Nat.le_of_lt_succ below) le
      exact Nat.le_of_eq (same ▸ here.symm)
    · exact (h.congr agree).keep ⟨lineage.count, if named then some name else none⟩ holds layout_frees.symm
        (Nat.le_succ _) (Nat.lt_succ_self _) increasing known id

end Backed

end SharedRing
