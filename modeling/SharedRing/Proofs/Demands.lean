import SharedRing.Proofs.Opening

/-!
# Checks in order

A check enforces a row of demands if it succeeds when all of them are met, and else reports the first that is
not (`Enforces`). Checks that follow one another enforce their demands one after the other (`Enforces.bind`), so what
a whole validation reports is read off a list.

`RegionDescriptor.demands` lists what is asked of a descriptor, with the error of each demand, and validation enforces
just this list (`validation_reports_first_unmet`).
-/

namespace SharedRing

/-- What is asked for, and the error that says that it is missing. -/
structure Demand (ε : Type) where
  Met : Prop
  error : ε

/-- The error of the first demand that is not met. -/
inductive FirstUnmet {ε : Type} : List (Demand ε) → ε → Prop where
  | here {demand : Demand ε} {rest : List (Demand ε)} : ¬ demand.Met → FirstUnmet (demand :: rest) demand.error
  | later {demand : Demand ε} {rest : List (Demand ε)} {error : ε} : demand.Met → FirstUnmet rest error →
      FirstUnmet (demand :: rest) error

/-- The check succeeds if all demands are met, and else reports the first that is not. -/
def Enforces {ε α : Type} (check : Except ε α) (demands : List (Demand ε)) : Prop :=
  match check with
  | .ok _ => ∀ demand ∈ demands, demand.Met
  | .error error => FirstUnmet demands error

section

variable {ε α β : Type} {demands others : List (Demand ε)} {check : Except ε α} {error error' : ε}

namespace FirstUnmet

theorem exists_unmet (h : FirstUnmet demands error) : ∃ demand ∈ demands, ¬ demand.Met ∧ demand.error = error := by
  induction h with
  | here unmet => exact ⟨_, List.mem_cons_self, unmet, rfl⟩
  | later _ _ ih =>
    obtain ⟨demand, member, unmet, same⟩ := ih
    exact ⟨demand, List.mem_cons_of_mem _ member, unmet, same⟩

theorem not_all_met (h : FirstUnmet demands error) : ¬ ∀ demand ∈ demands, demand.Met := by
  intro met
  induction h with
  | here unmet => exact unmet (met _ List.mem_cons_self)
  | later _ _ ih => exact ih fun demand member => met demand (List.mem_cons_of_mem _ member)

theorem unique (h : FirstUnmet demands error) (h' : FirstUnmet demands error') : error = error' := by
  induction h with
  | here unmet =>
    cases h' with
    | here => rfl
    | later met _ => exact absurd met unmet
  | later met _ ih =>
    cases h' with
    | here unmet => exact absurd met unmet
    | later _ rest => exact ih rest

theorem append_left (h : FirstUnmet demands error) (others : List (Demand ε)) :
    FirstUnmet (demands ++ others) error := by
  induction h with
  | here unmet => exact .here unmet
  | later met _ ih => exact .later met ih

theorem append_right (met : ∀ demand ∈ demands, demand.Met) (h : FirstUnmet others error) :
    FirstUnmet (demands ++ others) error := by
  induction demands with
  | nil => exact h
  | cons demand rest ih =>
    obtain ⟨first, rest_met⟩ := List.forall_mem_cons.1 met
    exact .later first (ih rest_met)

end FirstUnmet

namespace Enforces

theorem isOk_iff (h : Enforces check demands) : (∃ a, check = .ok a) ↔ ∀ demand ∈ demands, demand.Met := by
  cases check with
  | ok a => exact iff_of_true ⟨a, rfl⟩ h
  | error error =>
    refine iff_of_false ?_ h.not_all_met
    rintro ⟨_, ⟨⟩⟩

theorem eq_error_iff (h : Enforces check demands) : check = .error error ↔ FirstUnmet demands error := by
  cases check with
  | ok a =>
    refine iff_of_false ?_ fun unmet => unmet.not_all_met h
    rintro ⟨⟩
  | error error' =>
    constructor
    · rintro ⟨⟩
      exact h
    · intro unmet
      rw [unmet.unique h]

/-- A check without demands. -/
theorem nil (a : α) : Enforces (.ok a : Except ε α) [] := List.forall_mem_nil _

/-- A demand that is met may stand before the others. -/
theorem cons {demand : Demand ε} (met : demand.Met) (h : Enforces check demands) :
    Enforces check (demand :: demands) := by
  cases check with
  | ok a => exact List.forall_mem_cons.2 ⟨met, h⟩
  | error error' => exact FirstUnmet.later met h

/-- A check of one demand, before others. -/
theorem ite {p met : Prop} [Decidable p] (unmet_iff : p ↔ ¬ met) (rest : met → Enforces check demands) :
    Enforces (if p then .error error else check) (⟨met, error⟩ :: demands) := by
  by_cases unmet : p
  · rw [if_pos unmet]
    exact FirstUnmet.here (unmet_iff.1 unmet)
  · have is_met : met := Classical.not_not.1 fun missing => unmet (unmet_iff.2 missing)
    rw [if_neg unmet]
    exact cons is_met (rest is_met)

/-- **Checks that follow one another enforce their demands one after the other.** -/
theorem bind {next : α → Except ε β} (h : Enforces check demands)
    (rest : ∀ a, check = .ok a → Enforces (next a) others) : Enforces (check >>= next) (demands ++ others) := by
  cases check with
  | error error => exact h.append_left others
  | ok a =>
    have enforced := rest a rfl
    change Enforces (next a) _
    cases outcome : next a with
    | ok b =>
      rw [outcome] at enforced
      exact List.forall_mem_append.2 ⟨h, enforced⟩
    | error error =>
      rw [outcome] at enforced
      exact FirstUnmet.append_right h enforced

/-- What is made of the result of a check is not asked anything. -/
theorem map (f : α → β) (h : Enforces check demands) :
    Enforces (check >>= fun a => (pure (f a) : Except ε β)) demands := by
  have mapped := h.bind fun a _ => nil (f a)
  rwa [List.append_nil] at mapped

end Enforces

end

/-! ## What is asked of a descriptor -/

namespace RegionDescriptor

def handleDemands (handle : Handle) : List (Demand DescriptorError) :=
  [⟨handle.fds ≠ [], .invalidHandle .empty⟩,
   ⟨∀ fd ∈ handle.fds, 0 ≤ fd, .invalidHandle (.negative handle.fds)⟩]

def ringDemands (descriptor : RegionDescriptor) (expected : Nat) : List (Demand DescriptorError) :=
  let size := descriptor.quantumSize
  let count := descriptor.quantumCount
  [⟨size = expected, .quantumSizeMismatch expected size⟩,
   ⟨size ≠ 0 ∧ count ≠ 0, .emptyRing size count⟩,
   ⟨size * count ≤ maxOffset, .sizeOverflow size count⟩]

def grantorDemands (fdCount slot : Nat) (grantor : Grantor) : List (Demand DescriptorError) :=
  [⟨grantor.fdIndex < fdCount, .fdIndexOutOfRange slot grantor.fdIndex fdCount⟩,
   ⟨grantor.offset + grantor.extent ≤ maxOffset,
    .invalidGrantor slot (.endOverflows grantor.offset grantor.extent)⟩]

def counterDemands (slot : Nat) (grantor : Grantor) : List (Demand DescriptorError) :=
  [⟨counterSize ≤ grantor.extent, .invalidGrantor slot (.counterTooSmall grantor.extent)⟩,
   ⟨counterSize ∣ grantor.offset, .invalidGrantor slot (.counterMisaligned grantor.offset)⟩]

def dataDemands (ringBytes : Nat) (grantor : Grantor) : List (Demand DescriptorError) :=
  [⟨ringBytes ≤ grantor.extent, .invalidGrantor dataSlot (.dataTooSmall grantor.extent ringBytes)⟩]

/-- What is asked of the grantor in a slot, if there is one. -/
def slotDemands (descriptor : RegionDescriptor) (slot : Nat) (demands : Grantor → List (Demand DescriptorError)) :
    List (Demand DescriptorError) :=
  (descriptor.grantor? slot).toList.flatMap demands

/-- All that is asked of a descriptor: of the handle, of the number of grantors, of the ring, of each grantor by slot,
and then of the three slots with a role. -/
def demands (descriptor : RegionDescriptor) (expected : Nat) : List (Demand DescriptorError) :=
  let fdCount := descriptor.handle.fds.length
  let slots := descriptor.grantors.length
  handleDemands descriptor.handle ++
  [⟨requiredSlots ≤ slots, .tooFewGrantors slots requiredSlots⟩] ++
  descriptor.ringDemands expected ++
  (descriptor.grantors.zipIdx.flatMap fun (grantor, slot) => grantorDemands fdCount slot grantor) ++
  descriptor.slotDemands readSlot (counterDemands readSlot) ++
  descriptor.slotDemands writeSlot (counterDemands writeSlot) ++
  descriptor.slotDemands dataSlot (dataDemands (descriptor.quantumSize * descriptor.quantumCount))

theorem enforces_checkHandle (handle : Handle) : Enforces (checkHandle handle) (handleDemands handle) := by
  have valid_iff : handle.isValid = true ↔ handle.fds ≠ [] ∧ ∀ fd ∈ handle.fds, 0 ≤ fd := by
    simp [Handle.isValid]
  unfold checkHandle
  by_cases empty : handle.fds = []
  · have invalid : handle.isValid = false := Bool.eq_false_iff.2 fun valid => (valid_iff.1 valid).1 empty
    simp only [invalid, empty, Bool.false_eq_true, ↓reduceIte, List.isEmpty_nil]
    exact .here (Classical.not_not.2 empty)
  · by_cases valid : handle.isValid = true
    · rw [if_pos valid]
      simpa [Enforces, handleDemands] using valid_iff.1 valid
    · rw [if_neg valid, if_neg (by simpa using empty)]
      exact .later empty (.here fun nonneg => valid (valid_iff.2 ⟨empty, nonneg⟩))

/-- Whether the product is a word makes no difference, as what is not a word is not an offset either. -/
theorem checkRing_eq (descriptor : RegionDescriptor) (expected : Nat) :
    descriptor.checkRing expected =
      let size := descriptor.quantumSize
      let count := descriptor.quantumCount
      if size ≠ expected then .error (.quantumSizeMismatch expected size)
      else if size = 0 ∨ count = 0 then .error (.emptyRing size count)
      else if maxOffset < size * count then .error (.sizeOverflow size count)
      else .ok (size * count) := by
  have word : maxOffset < wordLimit := by decide
  unfold checkRing ringBytes?
  dsimp only
  congr 2
  generalize descriptor.quantumSize * descriptor.quantumCount = bytes
  by_cases small : bytes ≤ maxOffset
  · have fits : bytes < wordLimit := by omega
    simp only [if_pos fits, if_pos small, if_neg (Nat.not_lt.2 small)]
  · rw [if_pos (Nat.not_le.1 small)]
    by_cases fits : bytes < wordLimit
    · simp only [if_pos fits, if_neg small]
    · simp only [if_neg fits]

theorem enforces_checkRing (descriptor : RegionDescriptor) (expected : Nat) :
    Enforces (descriptor.checkRing expected) (descriptor.ringDemands expected) := by
  rw [checkRing_eq]
  exact .ite Iff.rfl fun _ => .ite (by omega) fun _ => .ite Nat.not_le.symm fun _ => .nil _

theorem enforces_checkGrantor (fdCount slot : Nat) (grantor : Grantor) :
    Enforces (checkGrantor fdCount slot grantor) (grantorDemands fdCount slot grantor) := by
  unfold checkGrantor
  exact .ite Nat.not_lt.symm fun _ => .ite Nat.not_le.symm fun _ => .nil ()

/-- The scan over the grantors asks of each what is asked of its slot. -/
theorem enforces_checkGrantors (fdCount slot : Nat) (grantors : List Grantor) :
    Enforces (checkGrantors fdCount slot grantors)
      ((grantors.zipIdx slot).flatMap fun (grantor, slot) => grantorDemands fdCount slot grantor) := by
  induction grantors generalizing slot with
  | nil => exact .nil ()
  | cons grantor rest ih =>
    rw [List.zipIdx_cons, List.flatMap_cons]
    exact (enforces_checkGrantor fdCount slot grantor).bind fun _ _ => ih (slot + 1)

theorem enforces_checkCounter (slot : Nat) (grantor : Grantor) :
    Enforces (checkCounter slot grantor) (counterDemands slot grantor) := by
  unfold checkCounter
  exact .ite Nat.not_le.symm fun _ => .ite (not_congr Nat.dvd_iff_mod_eq_zero.symm) fun _ => .nil ()

theorem enforces_checkData (ringBytes : Nat) (grantor : Grantor) :
    Enforces (checkData ringBytes grantor) (dataDemands ringBytes grantor) := by
  unfold checkData
  exact .ite Nat.not_le.symm fun _ => .nil ()

/-- Slots that are there are asked for what is asked of their grantors. -/
theorem slotDemands_of_grantor? {descriptor : RegionDescriptor} {slot : Nat} {grantor : Grantor}
    (slotted : descriptor.grantor? slot = some grantor) (demands : Grantor → List (Demand DescriptorError)) :
    descriptor.slotDemands slot demands = demands grantor := by
  rw [slotDemands, slotted, Option.toList_some, List.flatMap_singleton]

theorem enforces_validate (descriptor : RegionDescriptor) (expected : Nat) :
    Enforces (descriptor.validate expected) (descriptor.demands expected) := by
  simp only [demands, List.append_assoc]
  refine (enforces_checkHandle descriptor.handle).bind fun _ _ => ?_
  split
  · rename_i read write data others grantors
    have read_slot : descriptor.grantor? readSlot = some read := by rw [grantor?, grantors]; rfl
    have write_slot : descriptor.grantor? writeSlot = some write := by rw [grantor?, grantors]; rfl
    have data_slot : descriptor.grantor? dataSlot = some data := by rw [grantor?, grantors]; rfl
    have enough : requiredSlots ≤ descriptor.grantors.length := by
      rw [grantors]
      exact Nat.le_add_left _ _
    rw [slotDemands_of_grantor? read_slot, slotDemands_of_grantor? write_slot, slotDemands_of_grantor? data_slot]
    refine .cons enough ((enforces_checkRing descriptor expected).bind fun bytes ring => ?_)
    obtain ⟨-, -, -, -, rfl⟩ := (checkRing_eq_ok_iff descriptor expected bytes).1 ring
    refine (enforces_checkGrantors _ 0 _).bind fun _ _ => ?_
    refine (enforces_checkCounter readSlot read).bind fun _ _ => ?_
    refine (enforces_checkCounter writeSlot write).bind fun _ _ => ?_
    exact enforces_checkData _ data
  · rename_i few
    refine FirstUnmet.here (Nat.not_le.2 ?_)
    rcases grantors : descriptor.grantors with _ | ⟨read, _ | ⟨write, _ | ⟨data, others⟩⟩⟩
    case cons.cons.cons => exact absurd grantors (few read write data others)
    all_goals simp [requiredSlots]

/-- **A descriptor is accepted if it meets all that is asked of it, and is else refused with the error of the first
demand that it does not meet.** -/
theorem validation_reports_first_unmet (descriptor : RegionDescriptor) (expected : Nat) :
    (descriptor.validate expected = .ok () ↔ ∀ demand ∈ descriptor.demands expected, demand.Met) ∧
      ∀ error, descriptor.validate expected = .error error ↔ FirstUnmet (descriptor.demands expected) error := by
  have enforced := enforces_validate descriptor expected
  exact ⟨⟨fun accepted => enforced.isOk_iff.1 ⟨(), accepted⟩, fun met => (enforced.isOk_iff.2 met).choose_spec⟩,
    fun _ => enforced.eq_error_iff⟩

/-- Of a wrong size and a grantor beyond all offsets, it is the size that is reported. -/
example : RegionDescriptor.validate ⟨⟨[3]⟩, [⟨0, 0, 8⟩, ⟨0, 64, 8⟩, ⟨0, maxOffset, 1⟩], 8, 4⟩ 4 =
    .error (.quantumSizeMismatch 4 8) := rfl

end RegionDescriptor

end SharedRing
