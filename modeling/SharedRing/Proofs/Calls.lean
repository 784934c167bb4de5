import Mathlib.Data.List.Nodup
import Mathlib.Data.List.Perm.Subperm
import SharedRing.Proofs.Opening
import SharedRing.Session

/-!
# What the system's calls do

A system is seen through its lookups: the object of a file descriptor, the object of a name, and the
length and the bytes of an object. The equations below say what each call does to them, so that nothing
else has to be known of the tables. A file descriptor that is opened is fresh (`object?_freeDescriptor`).
-/

namespace SharedRing

/-! ## Tables -/

theorem lookup_cons_eq {κ α : Type} [DecidableEq κ] (entries : List (κ × α)) (key other : κ) (value : α) :
    ((key, value) :: entries).lookup other = if other = key then some value else entries.lookup other := by
  by_cases same : other = key
  · simp [same]
  · simp [List.lookup_cons, beq_false_of_ne same, same]

theorem lookup_filter_ne {κ α : Type} [DecidableEq κ] (entries : List (κ × α)) (key other : κ) :
    (entries.filter (·.1 ≠ key)).lookup other = if other = key then none else entries.lookup other := by
  induction entries with
  | nil => simp
  | cons entry rest ih =>
    obtain ⟨head, value⟩ := entry
    rw [lookup_cons_eq]
    by_cases dropped : head = key
    · rw [List.filter_cons_of_neg (by simp [dropped]), ih, dropped]
      by_cases same : other = key
      · simp [same]
      · simp [same]
    · rw [List.filter_cons_of_pos (by simp [dropped]), lookup_cons_eq, ih]
      by_cases same : other = key
      · subst same
        simp [Ne.symm dropped]
      · simp [same]

/-- The value under a key is the one put in front. -/
theorem lookup_bindKey {α : Type} (entries : List (String × α)) (key other : String) (value : α) :
    (bindKey key value entries).lookup other = if other = key then some value else entries.lookup other := by
  rw [bindKey, lookup_cons_eq, lookup_filter_ne]
  by_cases same : other = key
  · simp [same]
  · simp [same]

theorem mem_keys_of_lookup_ne_none {κ α : Type} [DecidableEq κ] {entries : List (κ × α)} {key : κ}
    (found : entries.lookup key ≠ none) : key ∈ entries.map (·.1) := by
  induction entries with
  | nil => simp at found
  | cons entry rest ih =>
    obtain ⟨head, value⟩ := entry
    rw [lookup_cons_eq] at found
    by_cases same : key = head
    · simp [same]
    · rw [if_neg same] at found
      exact List.mem_cons_of_mem _ (ih found)

namespace System

/-! ## File descriptors -/

/-- **A file descriptor that is opened was not open.** Of the candidates, one more than there are open
file descriptors, not all can be open. -/
theorem object?_freeDescriptor (system : System) : system.object? system.freeDescriptor = none := by
  let candidates := (List.range (system.descriptors.length + 1)).map (· + firstDescriptor)
  have exists_free : ∃ fd ∈ candidates, system.object? fd = none := by
    by_contra open_all
    push Not at open_all
    have nodup : candidates.Nodup :=
      List.nodup_range.map fun a b same => Nat.add_right_cancel same
    have subset : candidates ⊆ system.descriptors.map (·.1) :=
      fun fd member => mem_keys_of_lookup_ne_none (open_all fd member)
    have le := (List.subperm_of_subset nodup subset).length_le
    simp only [candidates, List.length_map, List.length_range] at le
    omega
  obtain ⟨fd, member, free⟩ := exists_free
  cases found : candidates.find? fun fd => (system.object? fd).isNone with
  | none => simpa [free] using List.find?_eq_none.1 found fd member
  | some first =>
    have isNone := List.find?_some found
    rw [show system.freeDescriptor = first by rw [freeDescriptor]; simp only [candidates] at found; rw [found]; rfl]
    exact Option.isNone_iff_eq_none.1 isNone

theorem object?_openObject (system : System) (object fd : Nat) :
    (system.openObject object).2.object? fd =
      if fd = system.freeDescriptor then some object else system.object? fd :=
  lookup_cons_eq _ _ _ _

theorem object?_close (system : System) (fd other : Nat) :
    (system.close fd).object? other = if other = fd then none else system.object? other :=
  lookup_filter_ne _ _ _

/-! ## Names -/

theorem named?_unlink (system : System) (name other : String) :
    (system.unlink name).named? other = if other = name then none else system.named? other :=
  lookup_filter_ne _ _ _

theorem makeAnonymous_eq_ok {system opened : System} {label : String} {fd : Nat}
    (h : system.makeAnonymous label = .ok (fd, opened)) : (fd, opened) = system.newObject := by
  unfold makeAnonymous at h
  split at h
  · cases h
  · exact (Except.ok.inj h).symm

/-- A named object is made only under a name that is free. -/
theorem makeNamed_eq_ok {system opened : System} {name : String} {fd : Nat}
    (h : system.makeNamed name = .ok (fd, opened)) : system.named? name = none ∧ fd = system.newObject.1 ∧
      opened = { system.newObject.2 with names := (name, system.lengths.length) :: system.names } := by
  unfold makeNamed at h
  split at h
  · cases h
  · split at h
    · cases h
    · rename_i unused
      have free : system.named? name = none := by
        simp only [Bool.or_eq_true, not_or, Bool.not_eq_true, Option.isSome_eq_false_iff,
          Option.isNone_iff_eq_none] at unused
        exact unused.2
      cases h
      exact ⟨free, rfl, rfl⟩

theorem openNamed_eq_ok {system opened : System} {name : String} {fd : Nat}
    (h : system.openNamed name = .ok (fd, opened)) :
    ∃ object, system.named? name = some object ∧ (fd, opened) = system.openObject object := by
  unfold openNamed at h
  split at h
  · cases h
  · split at h
    · cases h
    · split at h
      · rename_i object found
        exact ⟨object, found, (Except.ok.inj h).symm⟩
      · cases h

/-! ## Lengths and bytes -/

theorem length_resize (system : System) (object size other : Nat) :
    (system.resize object size).length other =
      if other = object ∧ object < system.lengths.length then size else system.length other := by
  simp only [length, resize, List.getD_eq_getElem?_getD, List.getElem?_set]
  grind

theorem length_storeBytes (system : System) (object offset : Nat) (bytes : List UInt8) (other : Nat) :
    (system.storeBytes object offset bytes).length other =
      if other = object ∧ object < system.lengths.length then max (system.length object) (offset + bytes.length)
      else system.length other := by
  simp only [length, storeBytes, List.getD_eq_getElem?_getD, List.getElem?_set]
  grind

theorem length_le_storeBytes (system : System) (object offset : Nat) (bytes : List UInt8) (other : Nat) :
    system.length other ≤ (system.storeBytes object offset bytes).length other := by
  rw [length_storeBytes]
  split
  · rename_i same
    rw [same.1]
    exact Nat.le_max_left _ _
  · exact Nat.le_refl _

theorem byte_storeBytes_of_ne (system : System) {object offset : Nat} {place : Address} (bytes : List UInt8)
    (other : place.object ≠ object) :
    (system.storeBytes object offset bytes).memory.byte place = system.memory.byte place := by
  rw [storeBytes, Memory.byte_setBytes, if_neg fun inside => other inside.1]

/-- What a write does, whether it succeeds or not: nothing, or it stores bytes in the file descriptor's
object. -/
theorem writeAt_cases (system : System) (fd offset : Nat) (bytes : List UInt8) :
    (system.writeAt fd offset bytes).1 = system ∨
      ∃ object stored, system.object? fd = some object ∧
        (system.writeAt fd offset bytes).1 = system.storeBytes object offset stored := by
  unfold writeAt
  split
  · exact .inl rfl
  · rename_i object found
    simp only
    split
    · exact .inr ⟨object, bytes, found, rfl⟩
    · split
      · exact .inl rfl
      · exact .inr ⟨object, _, found, rfl⟩

theorem writeAt_eq_ok {system after : System} {fd offset : Nat} {bytes : List UInt8}
    (h : system.writeAt fd offset bytes = (after, .ok ())) :
    ∃ object, system.object? fd = some object ∧ after = system.storeBytes object offset bytes := by
  unfold writeAt at h
  split at h
  · cases h
  · rename_i object found
    simp only at h
    split at h
    · cases h
      exact ⟨object, found, rfl⟩
    · split at h <;> cases h

theorem setLength_eq_ok {system after : System} {fd size : Nat} (h : system.setLength fd size = .ok after) :
    ∃ object, system.object? fd = some object ∧ after = system.resize object size := by
  unfold setLength at h
  split at h
  · cases h
  · rename_i object found
    split at h
    · cases h
    · exact ⟨object, found, (Except.ok.inj h).symm⟩

/-! ## Mapping -/

/-- The accesses of an operation change memory only. -/
theorem perform_eq {α : Type} (system : System) (operation : Access α) : system.perform operation =
    ((operation.run system.memory).1, { system with memory := (operation.run system.memory).2 }) := rfl

/-- The objects that file descriptors refer to. -/
def objects (system : System) (fd : Int) : Nat := (system.object? fd.toNat).getD 0

theorem objects_eq {system : System} {fd object : Nat} (held : system.object? fd = some object) :
    system.objects fd = object := by
  rw [objects, Int.toNat_natCast, held, Option.getD_some]

/-- **What the system maps is what the file descriptor refers to.** -/
theorem honest_request (system : System) : MessageQueue.Honest system.objects fun _ => system.request := by
  intro slot fd window object answer
  unfold request at answer
  simp only at answer
  split at answer
  · cases answer
  · rename_i found known
    split at answer
    · cases answer
    · split at answer
      · cases answer
      · cases answer
        split at known
        · cases known
        · rw [objects, known]
          rfl

/-! ## Objects that are left alone -/

/-- Every object that was there has kept its length and its bytes. -/
structure Keeps (before after : System) : Prop where
  count_le : before.lengths.length ≤ after.lengths.length
  length_eq : ∀ object < before.lengths.length, after.length object = before.length object
  byte_eq : ∀ place, place.object < before.lengths.length → after.memory.byte place = before.memory.byte place

theorem Keeps.refl (system : System) : Keeps system system :=
  ⟨Nat.le_refl _, fun _ _ => rfl, fun _ _ => rfl⟩

variable {before now : System}

theorem Keeps.length_le (h : Keeps before now) (object : Nat) : before.length object ≤ now.length object := by
  rcases Nat.lt_or_ge object before.lengths.length with known | new
  · exact Nat.le_of_eq (h.length_eq object known).symm
  · rw [length, List.getD_eq_getElem?_getD, List.getElem?_eq_none new]
    exact Nat.zero_le _

theorem keeps_newObject (system : System) : Keeps system system.newObject.2 := by
  refine ⟨by simp [newObject, openObject], fun object known => ?_, fun _ _ => rfl⟩
  simp only [length, newObject, openObject, List.getD_eq_getElem?_getD]
  rw [List.getElem?_append_left known]

/-- The length of a new object may be set. -/
theorem Keeps.resize (h : Keeps before now) {object : Nat} (new : before.lengths.length ≤ object) (size : Nat) :
    Keeps before (now.resize object size) := by
  refine ⟨?_, fun other known => ?_, fun place known => ?_⟩
  · rw [System.resize, List.length_set]
    exact h.count_le
  · rw [length_resize, if_neg (by omega), h.length_eq other known]
  · rw [System.resize, Memory.byte_clearFrom, if_neg (by omega), h.byte_eq place known]

/-- Bytes may be stored in a new object. -/
theorem Keeps.storeBytes (h : Keeps before now) {object : Nat} (new : before.lengths.length ≤ object) (offset : Nat)
    (bytes : List UInt8) : Keeps before (now.storeBytes object offset bytes) := by
  refine ⟨?_, fun other known => ?_, fun place known => ?_⟩
  · rw [System.storeBytes, List.length_set]
    exact h.count_le
  · rw [length_storeBytes, if_neg (by omega), h.length_eq other known]
  · rw [byte_storeBytes_of_ne now bytes (by omega), h.byte_eq place known]

end System

end SharedRing
