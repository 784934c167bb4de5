import SharedRing.Proofs.Segments

/-!
# What creating a segment does

Under one limit there are three outcomes (`create_eq`): the object cannot be made, and nothing is done; the
limit does not allow its length, and the segment is released; or the segment holds a new object of its
layout's length with both counters zeroed. Zeroing does not fail here, as the counters lie within the length
that the limit allows.
-/

namespace SharedRing

namespace System

/-- Give an object a length and zero its counters. -/
def layOut (system : System) (object size : Nat) : System :=
  ((system.resize object size).storeBytes object QueueLayout.readCounterOffset (bytesOfNat counterSize 0)).storeBytes
    object QueueLayout.writeCounterOffset (bytesOfNat counterSize 0)

theorem memory_layOut (system : System) (object size : Nat) : (system.layOut object size).memory =
    ((system.memory.clearFrom object size).setWord ⟨object, QueueLayout.readCounterOffset⟩ 0).setWord
      ⟨object, QueueLayout.writeCounterOffset⟩ 0 := rfl

@[simp] theorem object?_resize (system : System) (object size fd : Nat) :
    (system.resize object size).object? fd = system.object? fd := rfl

@[simp] theorem object?_storeBytes (system : System) (object offset : Nat) (bytes : List UInt8) (fd : Nat) :
    (system.storeBytes object offset bytes).object? fd = system.object? fd := rfl

theorem object?_layOut (system : System) (object size fd : Nat) :
    (system.layOut object size).object? fd = system.object? fd := by
  rw [layOut, object?_storeBytes, object?_storeBytes, object?_resize]

theorem allows_resize (system : System) (object size wanted : Nat) :
    (system.resize object size).allows wanted = system.allows wanted := rfl

theorem allows_storeBytes (system : System) (object offset : Nat) (bytes : List UInt8) (wanted : Nat) :
    (system.storeBytes object offset bytes).allows wanted = system.allows wanted := rfl

theorem allows_of_le {system : System} {size smaller : Nat} (allowed : system.allows size = true)
    (le : smaller ≤ size) : system.allows smaller = true := by
  unfold allows at allowed ⊢
  cases limit : system.limit with
  | none => rfl
  | some limit =>
    rw [limit] at allowed
    simp only [decide_eq_true_eq] at allowed ⊢
    omega

/-- What the limit allows an object to grow to can be written in full. -/
theorem writeAt_eq_of_allows {system : System} {fd object offset : Nat} {bytes : List UInt8}
    (found : system.object? fd = some object) (allowed : system.allows (offset + bytes.length) = true) :
    system.writeAt fd offset bytes = (system.storeBytes object offset bytes, .ok ()) := by
  have whole : system.admitted offset bytes = bytes := by
    unfold allows at allowed
    unfold admitted
    cases limit : system.limit with
    | none => rfl
    | some limit =>
      rw [limit] at allowed
      simp only [decide_eq_true_eq] at allowed
      exact List.take_of_length_le (by omega)
  simp only [writeAt, found, whole, ↓reduceIte]

theorem setLength_eq {system : System} {fd object size : Nat} (found : system.object? fd = some object)
    (shorter : system.length object < size) :
    system.setLength fd size = if system.allows size then .ok (system.resize object size) else .error .tooLarge := by
  cases allowed : system.allows size with
  | true => simp [setLength, found, allowed]
  | false => simp [setLength, found, allowed, shorter]

theorem length_newObject (system : System) : system.newObject.2.length system.lengths.length = 0 := by
  simp [length, newObject, openObject]

end System

theorem QueueLayout.counter_le_totalSize (layout : QueueLayout) {offset : Nat}
    (counter : offset = readCounterOffset ∨ offset = writeCounterOffset) : offset + counterSize ≤ layout.totalSize := by
  have counters : writeCounterOffset + counterSize ≤ dataOffset := by decide
  have first : readCounterOffset + counterSize ≤ dataOffset := by decide
  rw [totalSize]
  rcases counter with rfl | rfl
  · exact Nat.le_add_right_of_le first
  · exact Nat.le_add_right_of_le counters

/-- A counter that lies within the object is read as the word that it is. -/
theorem QueueSegment.counter_eq_word {system : System} {segment : QueueSegment} {object offset : Nat}
    (found : system.object? segment.fd = some object) (within : offset + counterSize ≤ system.length object) :
    segment.counter system offset = .ok (system.memory.word ⟨object, offset⟩) := by
  simp only [counter, System.readAt, found, within, ↓reduceIte]
  rfl

/-- What the limit allows of a counter is zeroed in full. -/
theorem QueueSegment.zeroCounter_eq_of_allows {system : System} {segment : QueueSegment} {object offset : Nat}
    (found : system.object? segment.fd = some object) (allowed : system.allows (offset + counterSize) = true) :
    segment.zeroCounter system offset = (system.storeBytes object offset (bytesOfNat counterSize 0), .ok ()) := by
  have written := @System.writeAt_eq_of_allows system segment.fd object offset (bytesOfNat counterSize 0) found
    (by rw [length_bytesOfNat]; exact allowed)
  rw [zeroCounter, written]
  rfl

namespace Creation

variable {before now opened : System} {named : Bool} {name : String} {layout : QueueLayout} {segment : QueueSegment}
  {fd object : Nat}

/-! ## Whether the object can be made -/

/-- A name under which the system makes an object. -/
def Proper : Bool → String → Prop
  | true, name => QueueSegment.checkName name = .ok () ∧ name.utf8ByteSize ≤ System.maxSystemNameLength ∧
      System.isDirectoryName name = false
  | false, name => QueueSegment.checkLabel name = .ok () ∧ name.utf8ByteSize ≤ System.maxLabelLength

/-- **The object can be made exactly if its name is a proper one and, for a named object, free.** -/
theorem openObject_isOk_iff (system : System) (named : Bool) (name : String) :
    (∃ made, openObject system named name = .ok made) ↔
      Proper named name ∧ (named = true → system.named? name = none) := by
  cases named with
  | true =>
    simp only [openObject, ↓reduceIte, Proper, System.makeNamed, forall_const]
    cases QueueSegment.checkName name with
    | error fault => simp
    | ok checked =>
      by_cases long : System.maxSystemNameLength < name.utf8ByteSize
      · simp [long, Nat.not_le_of_lt long]
      · cases directory : System.isDirectoryName name with
        | true => simp [long]
        | false => cases found : system.named? name <;> simp [long, Nat.le_of_not_lt long]
  | false =>
    simp only [openObject, Bool.false_eq_true, ↓reduceIte, Proper, System.makeAnonymous, false_implies, and_true]
    cases QueueSegment.checkLabel name with
    | error fault => simp
    | ok checked =>
      by_cases long : System.maxLabelLength < name.utf8ByteSize
      · simp [long, Nat.not_le_of_lt long]
      · simp [long, Nat.le_of_not_lt long]

/-- The object is made alike under any limit, and without a length or bytes. -/
theorem openObject_eq_ok (h : openObject before named name = .ok (fd, opened)) :
    opened.limit = before.limit ∧ opened.memory = before.memory ∧ opened.length before.lengths.length = 0 := by
  unfold openObject at h
  cases named with
  | true =>
    simp only [↓reduceIte] at h
    split at h
    case h_4 opened _ made =>
      cases h
      obtain ⟨_, rfl, rfl⟩ := System.makeNamed_eq_ok made
      exact ⟨rfl, rfl, before.length_newObject⟩
    all_goals cases h
  | false =>
    simp only [Bool.false_eq_true, ↓reduceIte] at h
    split at h
    case h_3 opened _ made =>
      cases h
      obtain ⟨rfl, rfl⟩ := Prod.mk.inj (System.makeAnonymous_eq_ok made)
      exact ⟨rfl, rfl, before.length_newObject⟩
    all_goals cases h

/-! ## Its length and its counters -/

theorem size_eq (found : now.object? segment.fd = some object)
    (shorter : now.length object < segment.layout.totalSize) : size now segment =
      if now.allows segment.layout.totalSize then (now.resize object segment.layout.totalSize, .zeroingRead segment)
      else fail now segment (.createFailed segment.name (.length .tooLarge)) := by
  rw [size, System.setLength_eq found shorter]
  cases now.allows segment.layout.totalSize with
  | true => rfl
  | false => rfl

theorem zero_eq_of_allows (found : now.object? segment.fd = some object) {offset : Nat}
    (allowed : now.allows (offset + counterSize) = true) (next : Creation) :
    zero now segment offset next = (now.storeBytes object offset (bytesOfNat counterSize 0), next) := by
  rw [zero, QueueSegment.zeroCounter_eq_of_allows found allowed]

theorem run_step (system : System) {creation : Creation} (going : creation.outcome? = none) :
    run system creation = run (step system creation).1 (step system creation).2 := by
  rw [run]
  split
  · rename_i outcome ended
    rw [going] at ended
    cases ended
  · rfl

theorem run_of_ended (system : System) {creation : Creation} {outcome : Except SharedMemoryError QueueSegment}
    (ended : creation.outcome? = some outcome) : run system creation = (system, outcome) := by
  rw [run]
  split
  · rename_i outcome' ended'
    rw [ended] at ended'
    cases ended'
    rfl
  · rename_i going
    rw [ended] at going
    cases going

/-- From its length on a creation succeeds, or its segment is released. -/
theorem run_sizing (found : now.object? segment.fd = some object)
    (shorter : now.length object < segment.layout.totalSize) : run now (.sizing segment) =
      if now.allows segment.layout.totalSize then (now.layOut object segment.layout.totalSize, .ok segment)
      else (segment.release now, .error (.createFailed segment.name (.length .tooLarge))) := by
  rw [run_step now rfl]
  change run (size now segment).1 (size now segment).2 = _
  rw [size_eq found shorter]
  cases allowed : now.allows segment.layout.totalSize with
  | false => exact run_of_ended _ rfl
  | true =>
    simp only [↓reduceIte]
    -- the counters lie within the length that has been set
    have read_allowed := System.allows_of_le allowed (segment.layout.counter_le_totalSize (.inl rfl))
    have write_allowed := System.allows_of_le allowed (segment.layout.counter_le_totalSize (.inr rfl))
    have read : step (now.resize object segment.layout.totalSize) (.zeroingRead segment) = _ :=
      zero_eq_of_allows (by simpa using found) (by rw [System.allows_resize, read_allowed]) (.zeroingWrite segment)
    rw [run_step _ rfl, read]
    have write : step ((now.resize object segment.layout.totalSize).storeBytes object QueueLayout.readCounterOffset
        (bytesOfNat counterSize 0)) (.zeroingWrite segment) = _ :=
      zero_eq_of_allows (by simpa using found)
        (by rw [System.allows_storeBytes, System.allows_resize, write_allowed]) (.finished segment)
    rw [run_step _ rfl, write]
    exact run_of_ended _ rfl

end Creation

namespace QueueSegment

open Creation

/-- **What creating a segment does**, in its three outcomes. -/
theorem create_eq (before : System) (named : Bool) (name : String) (layout : QueueLayout) :
    create before named name layout =
      match openObject before named name with
      | .error fault => (before, .error (.createFailed name fault))
      | .ok (fd, opened) =>
        let segment : QueueSegment := { name, fd, layout, named, owner := true }
        if before.allows layout.totalSize then
          (opened.layOut before.lengths.length layout.totalSize, .ok segment)
        else (segment.release opened, .error (.createFailed name (.length .tooLarge))) := by
  rw [create, run_step before rfl]
  change run (make before named name layout).1 (make before named name layout).2 = _
  unfold make
  cases made : openObject before named name with
  | error fault => exact run_of_ended _ rfl
  | ok outcome =>
    obtain ⟨fd, opened⟩ := outcome
    obtain ⟨limit_eq, _, length_eq⟩ := openObject_eq_ok made
    have holds := (@made_of_openObject before opened named name layout fd made).object?_fd
    have nonempty : 0 < layout.totalSize := Nat.lt_of_lt_of_le (by decide) (Nat.le_add_right _ layout.ringBytes)
    have allows_eq : opened.allows layout.totalSize = before.allows layout.totalSize := by
      simp only [System.allows, limit_eq]
    simp only
    rw [run_sizing holds (by rw [length_eq]; exact nonempty), allows_eq]

/-- **A segment can be created exactly if its object can be made and the limit allows its length.** -/
theorem create_isOk_iff (before : System) (named : Bool) (name : String) (layout : QueueLayout) :
    (∃ after segment, create before named name layout = (after, .ok segment)) ↔
      (Proper named name ∧ (named = true → before.named? name = none)) ∧ before.allows layout.totalSize = true := by
  rw [create_eq, ← openObject_isOk_iff]
  cases openObject before named name with
  | error fault => simp
  | ok outcome => cases before.allows layout.totalSize <;> simp

/-- **A new segment's counters are zero**, whatever was there before. -/
theorem create_zeroed {before after : System} {named : Bool} {name : String} {layout : QueueLayout}
    {segment : QueueSegment} (made : create before named name layout = (after, .ok segment)) :
    segment.layout = layout ∧ after.object? segment.fd = some before.lengths.length ∧
      after.memory.word ⟨before.lengths.length, QueueLayout.readCounterOffset⟩ = 0 ∧
      after.memory.word ⟨before.lengths.length, QueueLayout.writeCounterOffset⟩ = 0 := by
  rw [create_eq] at made
  cases outcome : openObject before named name with
  | error fault => simp [outcome] at made
  | ok opened =>
    obtain ⟨fd, opened⟩ := opened
    have found := (@made_of_openObject before opened named name layout fd outcome).object?_fd
    simp only [outcome] at made
    cases allowed : before.allows layout.totalSize with
    | false => simp [allowed] at made
    | true =>
      simp only [allowed, ↓reduceIte, Prod.mk.injEq, Except.ok.injEq] at made
      obtain ⟨rfl, rfl⟩ := made
      have counters : QueueLayout.readCounterOffset + 8 ≤ QueueLayout.writeCounterOffset := by decide
      have apart : Apart ⟨before.lengths.length, QueueLayout.writeCounterOffset⟩ 8
          ⟨before.lengths.length, QueueLayout.readCounterOffset⟩ 8 := .inr (.inr counters)
      refine ⟨rfl, by rw [System.object?_layOut, found], ?_, ?_⟩
      · rw [System.memory_layOut, Memory.word_setWord_of_apart _ _ apart, Memory.word_setWord]
      · rw [System.memory_layOut, Memory.word_setWord]

/-- **Creating a segment stores nothing but zeros, and only if it succeeds.** -/
theorem memory_create {before after : System} {named : Bool} {name : String} {layout : QueueLayout}
    {outcome : Except SharedMemoryError QueueSegment} (created : create before named name layout = (after, outcome)) :
    (∀ error, outcome = .error error → after.memory = before.memory) ∧
      ∀ place, before.memory.byte place = 0 → after.memory.byte place = 0 := by
  rw [create_eq] at created
  cases result : openObject before named name with
  | error fault =>
    simp only [result] at created
    cases created
    exact ⟨fun _ _ => rfl, fun _ zero => zero⟩
  | ok made =>
    obtain ⟨fd, opened⟩ := made
    have memory_eq := (openObject_eq_ok result).2.1
    simp only [result] at created
    split at created
    · obtain ⟨rfl, rfl⟩ := Prod.mk.inj created
      refine ⟨fun error failed => (nomatch failed), fun place zero => ?_⟩
      rw [System.memory_layOut, memory_eq]
      refine Memory.byte_setWord_zero (Memory.byte_setWord_zero ?_)
      rw [Memory.byte_clearFrom, zero, ite_self]
    · obtain ⟨rfl, rfl⟩ := Prod.mk.inj created
      rw [memory_release, memory_eq]
      exact ⟨fun _ _ => rfl, fun _ zero => zero⟩

/-- Opening a segment stores nothing. -/
theorem memory_openNamed (before : System) (name : String) (layout : QueueLayout) :
    (openNamed before name layout).1.memory = before.memory := by
  unfold openNamed
  split
  · rfl
  · rfl
  · rename_i outcome
    obtain ⟨object, _, opening⟩ := System.openNamed_eq_ok outcome
    obtain ⟨rfl, rfl⟩ := Prod.mk.inj opening
    simp only
    split
    · exact memory_release _ _
    · split
      · exact memory_release _ _
      · rfl

end QueueSegment

end SharedRing
