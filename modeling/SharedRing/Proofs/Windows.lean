import SharedRing.Proofs.Construction

/-!
# Mapping any grantor

Validation looks at the role of the first three grantors alone; of the others it asks what it asks of all, that the
object is in the handle and that the grantor ends at an offset. That is enough for the window of each, wherever it is,
but the window of an extra grantor may hold nothing: it is empty exactly if the grantor is and starts at a page
boundary, and then the mapping fails before the system is asked (`accepted_grantor_mapped_unless_empty`).
-/

namespace SharedRing

/-- A window that starts at a page boundary, which is an offset, and has all of the grantor in it. -/
structure Window.Encloses (window : Window) (page : Nat) (grantor : Grantor) : Prop where
  aligned : page ∣ window.offset
  offset_le : window.offset ≤ maxOffset
  starts_le : window.offset ≤ grantor.offset
  le_ends : grantor.offset + grantor.extent ≤ window.offset + window.length

namespace Grantor

variable {grantor : Grantor} {page : Nat}

theorem encloses_pages (ends : grantor.offset + grantor.extent ≤ maxOffset) :
    (grantor.pages page).Encloses page grantor := by
  have parts := Nat.div_add_mod' grantor.offset page
  constructor
  case aligned => exact Nat.dvd_mul_left _ _
  all_goals
    dsimp only [pages]
    omega

/-- A window is empty if there is nothing in the grantor and nothing of a page before it. -/
theorem length_pages_eq_zero_iff : (grantor.pages page).length = 0 ↔ grantor.extent = 0 ∧ page ∣ grantor.offset := by
  rw [pages, Nat.add_eq_zero_iff, Nat.dvd_iff_mod_eq_zero, and_comm]

end Grantor

namespace MappedRegion

variable {page : Nat} {handle : Handle} {grantor : Grantor} {fd : Int} {window : Window}

def AsksFor (page : Nat) (handle : Handle) (grantor : Grantor) (fd : Int) (window : Window) : Prop :=
  ∀ request, map page request handle grantor =
    match request fd window with
    | .ok object => .ok { object, window, lead := grantor.offset - window.offset, extent := grantor.extent }
    | .error errno => .error (.failed (.refused errno))

theorem asksFor (known : handle.fd? grantor.fdIndex = some fd) (found : grantor.window page = .ok window)
    (nonempty : window.length ≠ 0) : AsksFor page handle grantor fd window := by
  intro request
  simp only [map, known, found, if_neg nonempty]
  cases request fd window <;> rfl

theorem map_eq_zeroLength (known : handle.fd? grantor.fdIndex = some fd) (found : grantor.window page = .ok window)
    (empty : window.length = 0) (request : MapRequest) :
    map page request handle grantor = .error (.failed .zeroLength) := by
  simp only [map, known, found, if_pos empty]

end MappedRegion

namespace RegionDescriptor

theorem Accepted.extent_pos {descriptor : RegionDescriptor} {size slot : Nat} {grantor : Grantor}
    (accepted : Accepted descriptor size) (slotted : descriptor.grantor? slot = some grantor)
    (below : slot < requiredSlots) : 0 < grantor.extent := by
  obtain ⟨found, extent_pos⟩ := MessageQueue.slotted_of_accepted accepted below
  rwa [Option.some.inj (slotted.symm.trans found)]

/-- **Of an accepted descriptor, each grantor has a window that encloses it, and its mapping fails only if the system
refuses this window, unless the grantor is empty and starts at a page boundary. Then it is an extra one, and no mapping
of it is asked for.** -/
theorem accepted_grantor_mapped_unless_empty {page : Nat} (page_pos : 0 < page) {descriptor : RegionDescriptor}
    {size : Nat} (validated : descriptor.validate size = .ok ()) {slot : Nat} {grantor : Grantor}
    (slotted : descriptor.grantor? slot = some grantor) :
    ∃ fd window, descriptor.handle.fd? grantor.fdIndex = some fd ∧ grantor.window page = .ok window ∧
      window.Encloses page grantor ∧
      (¬ (grantor.extent = 0 ∧ page ∣ grantor.offset) →
        0 < window.length ∧ MappedRegion.AsksFor page descriptor.handle grantor fd window) ∧
      (grantor.extent = 0 ∧ page ∣ grantor.offset →
        requiredSlots ≤ slot ∧ window.length = 0 ∧
          ∀ request, MappedRegion.map page request descriptor.handle grantor = .error (.failed .zeroLength)) := by
  have accepted := (validate_eq_ok_iff _ _).1 validated
  obtain ⟨indexed, ends⟩ := accepted.fits grantor (List.mem_of_getElem? slotted)
  have known : descriptor.handle.fd? grantor.fdIndex = some descriptor.handle.fds[grantor.fdIndex] :=
    List.getElem?_eq_getElem indexed
  have found := Grantor.window_eq_pages page_pos ends
  refine ⟨_, _, known, found, Grantor.encloses_pages ends, fun nonempty => ?_, fun empty => ?_⟩
  · have length_ne : (grantor.pages page).length ≠ 0 := fun zero => nonempty (Grantor.length_pages_eq_zero_iff.1 zero)
    exact ⟨Nat.pos_of_ne_zero length_ne, MappedRegion.asksFor known found length_ne⟩
  · have length_eq := Grantor.length_pages_eq_zero_iff.2 empty
    refine ⟨Nat.not_lt.1 fun below => ?_, length_eq, MappedRegion.map_eq_zeroLength known found length_eq⟩
    exact Nat.ne_of_gt (accepted.extent_pos slotted below) empty.1

/-- A ring of four words, with a fourth grantor that no queue uses. -/
def withExtra (extra : Grantor) : RegionDescriptor :=
  { handle := ⟨[3]⟩, grantors := [⟨0, 0, 8⟩, ⟨0, 64, 8⟩, ⟨0, 128, 16⟩, extra], quantumSize := 4, quantumCount := 4 }

/-- An empty grantor off a page boundary is mapped with what lies before it. -/
theorem extra_grantor_mapped_within_page : 0 < pageSize ∧ (withExtra ⟨0, 4097, 0⟩).validate 4 = .ok () ∧
    (withExtra ⟨0, 4097, 0⟩).grantor? 3 = some ⟨0, 4097, 0⟩ ∧
    MappedRegion.AsksFor pageSize (withExtra ⟨0, 4097, 0⟩).handle ⟨0, 4097, 0⟩ 3 ⟨4096, 1⟩ := by
  have page_pos : 0 < pageSize := by decide
  have validated : (withExtra ⟨0, 4097, 0⟩).validate 4 = .ok () := rfl
  have slotted : (withExtra ⟨0, 4097, 0⟩).grantor? 3 = some ⟨0, 4097, 0⟩ := rfl
  obtain ⟨fd, window, known, found, -, mapped, -⟩ := accepted_grantor_mapped_unless_empty page_pos validated slotted
  cases (show some 3 = some fd from known)
  cases (show Except.ok ⟨4096, 1⟩ = Except.ok window from found)
  exact ⟨page_pos, validated, slotted, (mapped (by decide)).2⟩

/-- At a page boundary it is not mapped at all, though validation has let it pass. -/
theorem accepted_extra_grantor_not_mapped : (withExtra ⟨0, 0, 0⟩).validate 4 = .ok () ∧
    (withExtra ⟨0, 0, 0⟩).grantor? 3 = some ⟨0, 0, 0⟩ ∧
    ∀ request, MappedRegion.map pageSize request (withExtra ⟨0, 0, 0⟩).handle ⟨0, 0, 0⟩ =
      .error (.failed .zeroLength) :=
  ⟨rfl, rfl, fun _ => rfl⟩

end RegionDescriptor

end SharedRing
