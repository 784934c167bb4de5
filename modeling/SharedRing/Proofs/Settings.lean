import SharedRing.Proofs.Configurations
import SharedRing.Proofs.Demands

/-!
# What is asked of a configuration

`Config.Raw.demands` lists what is asked of a configuration as it was read, in the order in which it is checked: of
the name, that the geometry is given, of the geometry, and of the bench section, whose batch is measured against the
queue section's count. Each of the four checks enforces its own part of the list, and so does the whole
(`settings_report_first_unmet`).
-/

namespace SharedRing.Config

def nameDemands (name : String) : List (Demand SettingError) :=
  [⟨1 ≤ name.utf8ByteSize ∧ name.utf8ByteSize ≤ maxNameLength,
    .invalidValue "queue.name" name (.nameLength maxNameLength)⟩,
   ⟨'/' ∉ name.toList ∧ '\x00' ∉ name.toList, .invalidValue "queue.name" name .nameCharacters⟩]

def requireDemands (field : String) (value : Option Nat) : List (Demand SettingError) :=
  [⟨value.isSome = true, .missingField field "queue"⟩]

def geometryDemands (size count : Nat) : List (Demand SettingError) :=
  [⟨1 ≤ size ∧ size ≤ maxQuantumSize,
    .invalidValue "queue.quantum_size" (toString size) (.sizeRange maxQuantumSize)⟩,
   ⟨1 ≤ count, .invalidValue "queue.quantum_count" "0" .atLeastOne⟩,
   ⟨size * count + QueueLayout.dataOffset ≤ maxOffset,
    .invalidValue "queue.quantum_count" (toString count) (.layout (.overflow size count))⟩]

def benchDemands (bench : RawBench) (count : Nat) : List (Demand SettingError) :=
  [⟨1 ≤ bench.messages, .invalidValue "bench.messages" "0" .atLeastOne⟩,
   ⟨1 ≤ bench.batch ∧ bench.batch ≤ count,
    .invalidValue "bench.batch" (toString bench.batch) (.batchRange count)⟩]

/-- All that is asked of a configuration. Of a size or a count that is not given, the first demand is that it be
given, so that it does not matter which number stands for it in the later ones. -/
def Raw.demands (raw : Raw) : List (Demand SettingError) :=
  let size := raw.queue.quantumSize.getD 0
  let count := raw.queue.quantumCount.getD 0
  nameDemands raw.queue.name ++
  requireDemands "quantum_size" raw.queue.quantumSize ++
  requireDemands "quantum_count" raw.queue.quantumCount ++
  geometryDemands size count ++
  benchDemands raw.bench count

theorem enforces_checkName (name : String) : Enforces (checkName name) (nameDemands name) := by
  unfold checkName
  refine .ite (by omega) fun _ => .ite ?_ fun _ => .nil ()
  simp only [List.any_eq_true, Bool.or_eq_true, decide_eq_true_eq]
  constructor
  · rintro ⟨c, member, rfl | rfl⟩ ⟨no_slash, no_nul⟩
    · exact no_slash member
    · exact no_nul member
  · intro forbidden
    by_cases slash : '/' ∈ name.toList
    · exact ⟨_, slash, .inl rfl⟩
    · exact ⟨_, Classical.not_not.1 fun no_nul => forbidden ⟨slash, no_nul⟩, .inr rfl⟩

theorem enforces_require (field : String) (value : Option Nat) :
    Enforces (require field value) (requireDemands field value) := by
  cases value with
  | some n => exact List.forall_mem_singleton.2 rfl
  | none => exact .here Bool.false_ne_true

/-- With a size and a count, all that is left to ask of a layout is that its object's length be an offset. -/
theorem checkGeometry_eq (size count : Nat) : checkGeometry size count =
    if size = 0 ∨ maxQuantumSize < size then
      .error (.invalidValue "queue.quantum_size" (toString size) (.sizeRange maxQuantumSize))
    else if count = 0 then .error (.invalidValue "queue.quantum_count" "0" .atLeastOne)
    else if maxOffset < size * count + QueueLayout.dataOffset then
      .error (.invalidValue "queue.quantum_count" (toString count) (.layout (.overflow size count)))
    else .ok () := by
  unfold checkGeometry
  by_cases size_range : size = 0 ∨ maxQuantumSize < size
  · rw [if_pos size_range, if_pos size_range]
  · by_cases none_held : count = 0
    · rw [if_neg size_range, if_neg size_range, if_pos none_held, if_pos none_held]
    · rw [if_neg size_range, if_neg size_range, if_neg none_held, if_neg none_held, QueueLayout.ofGeometry,
        if_neg (by omega), QueueLayout.ringBytes?_eq]
      by_cases small : size * count + QueueLayout.dataOffset ≤ maxOffset
      · rw [if_pos small, if_neg (Nat.not_lt.2 small)]
      · rw [if_neg small, if_pos (Nat.not_le.1 small)]

theorem enforces_checkGeometry (size count : Nat) :
    Enforces (checkGeometry size count) (geometryDemands size count) := by
  rw [checkGeometry_eq]
  exact .ite (by omega) fun _ => .ite (by omega) fun _ => .ite Nat.not_le.symm fun _ => .nil ()

theorem enforces_validateBench (raw : RawBench) (queue : QueueConfig) :
    Enforces (validateBench raw queue) (benchDemands raw queue.quantumCount) := by
  unfold validateBench
  exact .ite (by omega) fun _ => .ite (by omega) fun _ => .nil _

theorem enforces_validateQueue (raw : RawQueue) : Enforces (validateQueue raw)
    (nameDemands raw.name ++ requireDemands "quantum_size" raw.quantumSize ++
      requireDemands "quantum_count" raw.quantumCount ++
      geometryDemands (raw.quantumSize.getD 0) (raw.quantumCount.getD 0)) := by
  simp only [List.append_assoc]
  refine (enforces_checkName raw.name).bind fun _ _ => ?_
  refine (enforces_require "quantum_size" raw.quantumSize).bind fun size given => ?_
  refine (enforces_require "quantum_count" raw.quantumCount).bind fun count given' => ?_
  rw [require_eq_ok_iff.1 given, require_eq_ok_iff.1 given']
  exact (enforces_checkGeometry size count).map _

theorem enforces_validate (raw : Raw) : Enforces (validate raw) raw.demands := by
  refine (enforces_validateQueue raw.queue).bind fun queue checked => ?_
  obtain ⟨-, -, written⟩ := validateQueue_eq_ok_iff.1 checked
  have count : raw.queue.quantumCount.getD 0 = queue.quantumCount := by rw [written, Option.getD_some]
  rw [count]
  exact (enforces_validateBench raw.bench queue).map _

/-- **A configuration is accepted if it meets all that is asked of it, with just the values that were read, and is else
refused with the error of the first demand that it does not meet.** -/
theorem settings_report_first_unmet (raw : Raw) :
    ((∃ config, validate raw = .ok config) ↔ ∀ demand ∈ raw.demands, demand.Met) ∧
      (∀ config, validate raw = .ok config → raw = config.written) ∧
      ∀ error, validate raw = .error error ↔ FirstUnmet raw.demands error :=
  ⟨(enforces_validate raw).isOk_iff, fun _ accepted => (validate_eq_ok_iff.1 accepted).2,
    fun _ => (enforces_validate raw).eq_error_iff⟩

/-- Of a batch larger than the ring and a ring larger than all objects, it is the ring that is reported. -/
example : validate ⟨⟨"q", some 2, some (2 ^ 62), false⟩, ⟨1, 2 ^ 63⟩⟩ =
    .error (.invalidValue "queue.quantum_count" "4611686018427387904" (.layout (.overflow 2 (2 ^ 62)))) := by
  decide +kernel

end SharedRing.Config
