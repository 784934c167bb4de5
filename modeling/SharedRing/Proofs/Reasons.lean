import Std.Data.String.ToNat
import SharedRing.Proofs.Settings

/-!
# Reasons taken at their word

An error about a value gives a reason, and `Requirement.Holds` is what the reason's words ask. `Raw.Asks` says which
reasons there are to refuse which value of a configuration. A refused value fails what its reason asks, but for names:
their reason speaks of characters, and the check counts bytes. So just the names of at most 64 characters and more than
64 bytes are refused without cause (`reasons_hold_but_for_wide_names`).
-/

namespace SharedRing

theorem length_le_utf8ByteSize (s : String) : s.length ≤ s.utf8ByteSize := by
  induction s using String.push_induction with
  | empty => exact Nat.zero_le _
  | push s c ih =>
    have positive := c.utf8Size_pos
    rw [String.length_push, String.utf8ByteSize_push]
    omega

theorem length_pos_iff_utf8ByteSize_pos (s : String) : 0 < s.length ↔ 0 < s.utf8ByteSize := by
  rw [Nat.pos_iff_ne_zero, Nat.pos_iff_ne_zero]
  exact not_congr (String.length_eq_zero_iff.trans String.utf8ByteSize_eq_zero_iff.symm)

/-- A numeral stands for one number. -/
theorem exists_toString_eq_iff {n : Nat} {p : Nat → Prop} : (∃ m, toString n = toString m ∧ p m) ↔ p n := by
  constructor
  · rintro ⟨m, same, holds⟩
    rwa [Nat.repr_inj.1 same]
  · exact fun holds => ⟨n, rfl, holds⟩

/-- What the words of a requirement ask of a value as it is printed: of a text its characters, of a numeral the number
that it stands for, and of a count that no ring is too large for, that there is such a ring. -/
def Requirement.Holds : Requirement → String → Prop
  | .nameLength most, value => 1 ≤ value.length ∧ value.length ≤ most
  | .nameCharacters, value => '/' ∉ value.toList ∧ '\x00' ∉ value.toList
  | .sizeRange most, value => ∃ n : Nat, value = toString n ∧ 1 ≤ n ∧ n ≤ most
  | .atLeastOne, value => ∃ n : Nat, value = toString n ∧ 1 ≤ n
  | .batchRange most, value => ∃ n : Nat, value = toString n ∧ 1 ≤ n ∧ n ≤ most
  | .layout (.overflow size _), value =>
    ∃ n : Nat, value = toString n ∧ size * n + QueueLayout.dataOffset ≤ maxOffset
  | .layout (.emptyRing size _), value => ∃ n : Nat, value = toString n ∧ size ≠ 0 ∧ n ≠ 0
  | .layout (.objectTooShort ..), _ | .layout (.stated _), _ | .stated _, _ => True

namespace Config

/-- What is asked of a configuration's values: the field, the value as it is printed, and the requirement. -/
inductive Raw.Asks (raw : Raw) : String → String → Requirement → Prop where
  | nameLength : Asks raw "queue.name" raw.queue.name (.nameLength maxNameLength)
  | nameCharacters : Asks raw "queue.name" raw.queue.name .nameCharacters
  | size {size : Nat} : raw.queue.quantumSize = some size →
      Asks raw "queue.quantum_size" (toString size) (.sizeRange maxQuantumSize)
  | count {count : Nat} : raw.queue.quantumCount = some count →
      Asks raw "queue.quantum_count" (toString count) .atLeastOne
  | ring {size count : Nat} : raw.queue.quantumSize = some size → raw.queue.quantumCount = some count →
      Asks raw "queue.quantum_count" (toString count) (.layout (.overflow size count))
  | messages : Asks raw "bench.messages" (toString raw.bench.messages) .atLeastOne
  | batch {count : Nat} : raw.queue.quantumCount = some count →
      Asks raw "bench.batch" (toString raw.bench.batch) (.batchRange count)

/-- What is required is given, and every value is as the reasons for which it may be refused ask. -/
structure Raw.AsDocumented (raw : Raw) : Prop where
  size_given : ∃ size, raw.queue.quantumSize = some size
  count_given : ∃ count, raw.queue.quantumCount = some count
  holds : ∀ field value requirement, raw.Asks field value requirement → requirement.Holds value

def WideName (name : String) : Prop := name.length ≤ maxNameLength ∧ maxNameLength < name.utf8ByteSize

theorem WideName.holds {name : String} (wide : WideName name) : (Requirement.nameLength maxNameLength).Holds name := by
  refine ⟨(length_pos_iff_utf8ByteSize_pos name).2 ?_, wide.1⟩
  exact Nat.lt_of_le_of_lt (Nat.zero_le _) wide.2

variable {raw : Raw} {field value name : String} {requirement : Requirement} {size count : Nat}

/-! ## Refused values -/

/-- A refused name is too long in bytes, which need not make it too long in characters, or has a forbidden character. -/
theorem checkName_refuses (refused : checkName name = .error (.invalidValue field value requirement)) :
    field = "queue.name" ∧ value = name ∧
      (requirement = .nameLength maxNameLength ∧ (requirement.Holds value ↔ WideName value) ∨
        requirement = .nameCharacters ∧ ¬ requirement.Holds value) := by
  obtain ⟨demand, member, unmet, same⟩ := ((enforces_checkName name).eq_error_iff.1 refused).exists_unmet
  simp only [nameDemands, List.mem_cons, List.not_mem_nil, or_false] at member
  rcases member with rfl | rfl
  · cases same
    refine ⟨rfl, rfl, .inl ⟨rfl, ?_⟩⟩
    have le := length_le_utf8ByteSize value
    have positive := length_pos_iff_utf8ByteSize_pos value
    simp only [Requirement.Holds, WideName] at unmet ⊢
    omega
  · cases same
    exact ⟨rfl, rfl, .inr ⟨rfl, unmet⟩⟩

theorem checkGeometry_refuses (size_given : raw.queue.quantumSize = some size)
    (count_given : raw.queue.quantumCount = some count)
    (refused : checkGeometry size count = .error (.invalidValue field value requirement)) :
    raw.Asks field value requirement ∧ ¬ requirement.Holds value := by
  obtain ⟨demand, member, unmet, same⟩ := ((enforces_checkGeometry size count).eq_error_iff.1 refused).exists_unmet
  simp only [geometryDemands, List.mem_cons, List.not_mem_nil, or_false] at member
  rcases member with rfl | rfl | rfl
  · cases same
    exact ⟨.size size_given, fun holds => unmet (exists_toString_eq_iff.1 holds)⟩
  · cases same
    have none_held : count = 0 := Nat.lt_one_iff.1 (Nat.not_le.1 unmet)
    rw [none_held] at count_given
    exact ⟨.count count_given, fun holds => Nat.not_succ_le_zero 0 (exists_toString_eq_iff.1 holds)⟩
  · cases same
    refine ⟨.ring size_given count_given, fun holds => unmet ?_⟩
    exact (exists_toString_eq_iff (p := fun n => size * n + QueueLayout.dataOffset ≤ maxOffset)).1 holds

theorem validateBench_refuses {queue : QueueConfig} (count_given : raw.queue.quantumCount = some queue.quantumCount)
    (refused : validateBench raw.bench queue = .error (.invalidValue field value requirement)) :
    raw.Asks field value requirement ∧ ¬ requirement.Holds value := by
  obtain ⟨demand, member, unmet, same⟩ :=
    ((enforces_validateBench raw.bench queue).eq_error_iff.1 refused).exists_unmet
  simp only [benchDemands, List.mem_cons, List.not_mem_nil, or_false] at member
  rcases member with rfl | rfl
  · cases same
    have none_sent : raw.bench.messages = 0 := Nat.lt_one_iff.1 (Nat.not_le.1 unmet)
    have asks : raw.Asks "bench.messages" (toString raw.bench.messages) .atLeastOne := .messages
    rw [none_sent] at asks
    exact ⟨asks, fun holds => Nat.not_succ_le_zero 0 (exists_toString_eq_iff.1 holds)⟩
  · cases same
    exact ⟨.batch count_given, fun holds => unmet (exists_toString_eq_iff.1 holds)⟩

/-- What is left to check, once the name has passed, fails for want of a value or by its geometry. -/
theorem validateQueue_refuses (named : checkName raw.queue.name = .ok ())
    (refused : validateQueue raw.queue = .error (.invalidValue field value requirement)) :
    raw.Asks field value requirement ∧ ¬ requirement.Holds value := by
  unfold validateQueue at refused
  rw [named] at refused
  cases size_given : raw.queue.quantumSize with
  | none =>
    rw [size_given] at refused
    cases refused
  | some size =>
    cases count_given : raw.queue.quantumCount with
    | none =>
      rw [size_given, count_given] at refused
      cases refused
    | some count =>
      rw [size_given, count_given] at refused
      rcases bind_eq_error_iff.1 (show checkGeometry size count >>= _ = _ from refused) with refused | ⟨_, _, refused⟩
      · exact checkGeometry_refuses size_given count_given refused
      · cases refused

/-- **A refused value is one of the configuration's, and it fails what its reason asks unless it is a wide name that is
refused for its length.** -/
theorem validate_refuses (refused : validate raw = .error (.invalidValue field value requirement)) :
    raw.Asks field value requirement ∧
      (requirement.Holds value ↔ requirement = .nameLength maxNameLength ∧ WideName value) := by
  have of_unmet : raw.Asks field value requirement ∧ ¬ requirement.Holds value →
      raw.Asks field value requirement ∧
        (requirement.Holds value ↔ requirement = .nameLength maxNameLength ∧ WideName value) := by
    rintro ⟨asks, unmet⟩
    refine ⟨asks, iff_of_false unmet ?_⟩
    rintro ⟨rfl, wide⟩
    exact unmet wide.holds
  rcases bind_eq_error_iff.1 refused with queue_refused | ⟨queue, checked, bench_refused⟩
  · cases name_checked : checkName raw.queue.name with
    | ok _ => exact of_unmet (validateQueue_refuses name_checked queue_refused)
    | error error =>
      rw [validateQueue, name_checked] at queue_refused
      cases queue_refused
      obtain ⟨rfl, rfl, ⟨rfl, holds_iff⟩ | ⟨rfl, unmet⟩⟩ := checkName_refuses name_checked
      · exact ⟨.nameLength, holds_iff.trans (and_iff_right rfl).symm⟩
      · exact of_unmet ⟨.nameCharacters, unmet⟩
  · obtain ⟨-, -, written⟩ := validateQueue_eq_ok_iff.1 checked
    have count_given : raw.queue.quantumCount = some queue.quantumCount := by rw [written]
    rcases bind_eq_error_iff.1 bench_refused with bench_refused | ⟨_, _, bench_refused⟩
    · exact of_unmet (validateBench_refuses count_given bench_refused)
    · cases bench_refused

/-! ## Documented values -/

theorem asDocumented_written_iff {config : Config} : config.written.AsDocumented ↔
    (1 ≤ config.queue.name.length ∧ config.queue.name.length ≤ maxNameLength) ∧
      ('/' ∉ config.queue.name.toList ∧ '\x00' ∉ config.queue.name.toList) ∧
      (1 ≤ config.queue.quantumSize ∧ config.queue.quantumSize ≤ maxQuantumSize) ∧
      1 ≤ config.queue.quantumCount ∧
      config.queue.quantumSize * config.queue.quantumCount + QueueLayout.dataOffset ≤ maxOffset ∧
      1 ≤ config.bench.messages ∧ 1 ≤ config.bench.batch ∧ config.bench.batch ≤ config.queue.quantumCount := by
  constructor
  · rintro ⟨-, -, holds⟩
    refine ⟨holds _ _ _ .nameLength, holds _ _ _ .nameCharacters, ?_, ?_, ?_, ?_, ?_⟩
    · exact exists_toString_eq_iff.1 (holds _ _ _ (.size rfl))
    · exact exists_toString_eq_iff.1 (holds _ _ _ (.count rfl))
    · exact (exists_toString_eq_iff (p := fun n => _ * n + QueueLayout.dataOffset ≤ maxOffset)).1
        (holds _ _ _ (.ring rfl rfl))
    · exact exists_toString_eq_iff.1 (holds _ _ _ .messages)
    · exact exists_toString_eq_iff.1 (holds _ _ _ (.batch rfl))
  · rintro ⟨length, characters, size, count, ring, messages, batch⟩
    refine ⟨⟨_, rfl⟩, ⟨_, rfl⟩, ?_⟩
    rintro _ _ _ (_ | _ | ⟨⟨⟩⟩ | ⟨⟨⟩⟩ | ⟨⟨⟩, ⟨⟩⟩ | _ | ⟨⟨⟩⟩)
    · exact length
    · exact characters
    · exact ⟨_, rfl, size⟩
    · exact ⟨_, rfl, count⟩
    · exact ⟨_, rfl, ring⟩
    · exact ⟨_, rfl, messages⟩
    · exact ⟨_, rfl, batch⟩

/-- **An accepted configuration is as documented, and its name is not too long in bytes either.** -/
theorem accepted_iff_asDocumented {config : Config} :
    config.Accepted ↔ config.written.AsDocumented ∧ config.queue.name.utf8ByteSize ≤ maxNameLength := by
  rw [asDocumented_written_iff]
  have le := length_le_utf8ByteSize config.queue.name
  have positive := length_pos_iff_utf8ByteSize_pos config.queue.name
  constructor
  · intro accepted
    have bytes_pos := accepted.name.length_pos
    have bytes_le := accepted.name.length_le
    exact ⟨⟨⟨positive.2 bytes_pos, Nat.le_trans le bytes_le⟩, ⟨accepted.name.no_slash, accepted.name.no_nul⟩,
      ⟨accepted.size_pos, accepted.size_le⟩, accepted.count_pos, accepted.total_le, accepted.messages_pos,
      accepted.batch_pos, accepted.batch_le⟩, bytes_le⟩
  · rintro ⟨⟨length, characters, size, count, total, messages, batch⟩, bytes_le⟩
    exact ⟨⟨positive.1 length.1, bytes_le, characters.1, characters.2⟩, size.1, size.2, count, total, messages,
      batch.1, batch.2⟩

theorem Raw.AsDocumented.exists_written (documented : raw.AsDocumented) : ∃ config : Config, raw = config.written := by
  obtain ⟨⟨size, size_given⟩, ⟨count, count_given⟩, -⟩ := documented
  obtain ⟨⟨name, _, _, named⟩, messages, batch⟩ := raw
  cases size_given
  cases count_given
  exact ⟨⟨⟨name, size, count, named⟩, ⟨messages, batch⟩⟩, rfl⟩

/-- **What is refused fails what its reason asks, and what is as documented is accepted, but for names that are wide.** A
name of at most 64 characters is refused as too long exactly if it has more than 64 bytes, and nothing else is refused
without cause. -/
theorem reasons_hold_but_for_wide_names (raw : Raw) :
    (∀ field value requirement, validate raw = .error (.invalidValue field value requirement) →
      raw.Asks field value requirement ∧
        (requirement.Holds value ↔ requirement = .nameLength maxNameLength ∧ WideName value)) ∧
    (∀ config, validate raw = .ok config → raw.AsDocumented) ∧
    (raw.AsDocumented →
      ((∃ config, validate raw = .ok config) ↔ ¬ WideName raw.queue.name) ∧
      (WideName raw.queue.name →
        validate raw = .error (.invalidValue "queue.name" raw.queue.name (.nameLength maxNameLength)))) := by
  refine ⟨fun _ _ _ refused => validate_refuses refused, ?_, fun documented => ?_⟩
  · intro config checked
    obtain ⟨accepted, rfl⟩ := validate_eq_ok_iff.1 checked
    exact (accepted_iff_asDocumented.1 accepted).1
  · obtain ⟨config, rfl⟩ := documented.exists_written
    have length_le : config.queue.name.length ≤ maxNameLength := (asDocumented_written_iff.1 documented).1.2
    have narrow_iff : ¬ WideName config.queue.name ↔ config.queue.name.utf8ByteSize ≤ maxNameLength := by
      rw [WideName, and_iff_right length_le, Nat.not_lt]
    constructor
    · rw [show config.written.queue.name = config.queue.name from rfl, narrow_iff]
      constructor
      · rintro ⟨config', checked⟩
        obtain ⟨accepted, same⟩ := validate_eq_ok_iff.1 checked
        have name_eq : config.queue.name = config'.queue.name := congrArg (fun raw => raw.queue.name) same
        rw [name_eq]
        exact accepted.name.length_le
      · intro narrow
        exact ⟨config, validate_eq_ok_iff.2 ⟨accepted_iff_asDocumented.2 ⟨documented, narrow⟩, rfl⟩⟩
    · intro wide
      have refused : checkName config.written.queue.name =
          .error (.invalidValue "queue.name" config.written.queue.name (.nameLength maxNameLength)) :=
        if_pos (.inr wide.2)
      rw [validate, validateQueue, refused]
      rfl

/-- Thirty-three letters of two bytes each are refused as being more than 64, though all else is as documented too. -/
theorem short_name_refused_as_too_long :
    let name := "ééééééééééééééééééééééééééééééééé"
    let text := "queue:\n  name: " ++ name ++ "\n  quantum_size: 8\n  quantum_count: 64\n"
    load text = .error (.setting (.invalidValue "queue.name" name (.nameLength maxNameLength))) ∧
      name.length = 33 ∧ (Requirement.nameLength maxNameLength).Holds name ∧
      Raw.AsDocumented ⟨⟨name, some 8, some 64, false⟩, ⟨1000000, 16⟩⟩ := by
  intro name text
  have refused : load text = .error (.setting (.invalidValue "queue.name" name (.nameLength maxNameLength))) := by
    decide +kernel
  have length_eq : name.length = 33 := by decide +kernel
  have documented : (Config.mk ⟨name, 8, 64, false⟩ ⟨1000000, 16⟩).written.AsDocumented := by
    rw [asDocumented_written_iff]
    decide +kernel
  exact ⟨refused, length_eq, documented.holds _ _ _ .nameLength, documented⟩

end Config

end SharedRing
