import Mathlib.Order.Bounds.Basic
import Mathlib.Order.Interval.Set.LinearOrder
import SharedRing.Session
import SharedRing.Proofs.Windows

/-!
# The tightest window

`Window.Tightest` states what the window of a grantor has to be like, and `window_eq_ok_iff_tightest` that the
computed window is just this one, for pages of any size and grantors anywhere. Nothing is computed only for pages of no
size, or when the length leaves the words (`window_eq_error_iff`). A mapping moves its start forward by as much as the
window was moved back, so the bytes of a region are those of its grantor (`MappedRegion.place_eq`).
-/

namespace SharedRing

/-- The offsets in a window. -/
def Window.range (window : Window) : Set Nat := Set.Ico window.offset (window.offset + window.length)

/-- The offsets of a grantor's bytes. -/
def Grantor.range (grantor : Grantor) : Set Nat := Set.Ico grantor.offset (grantor.offset + grantor.extent)

/-- The window from the last page boundary in front of a grantor to the grantor's end. -/
structure Window.Tightest (window : Window) (page : Nat) (grantor : Grantor) : Prop where
  boundary : IsGreatest {start | page ∣ start ∧ start ≤ grantor.offset} window.offset
  lead_lt : grantor.offset - window.offset < page
  end_eq : window.offset + window.length = grantor.offset + grantor.extent
  covers : grantor.range ⊆ window.range
  least : 0 < grantor.extent → ∀ other : Window, page ∣ other.offset → grantor.range ⊆ other.range →
    window.length ≤ other.length
  empty_iff : window.length = 0 ↔ grantor.extent = 0 ∧ page ∣ grantor.offset

namespace Grantor

variable {grantor : Grantor} {page : Nat} {window : Window}

theorem window_eq_error_iff {fault : Fault} : grantor.window page = .error fault ↔
    page = 0 ∧ fault = .divideByZero ∨
      0 < page ∧ wordLimit ≤ grantor.offset % page + grantor.extent ∧ fault = .addOverflow := by
  have lead : grantor.offset - grantor.offset / page * page = grantor.offset % page := grantor.offset_sub_pages page
  simp only [Grantor.window, addWords, lead]
  by_cases zero : page = 0
  · simp [zero, eq_comm]
  · by_cases small : grantor.offset % page + grantor.extent < wordLimit
    · simp [zero, small, Nat.not_le.2 small, bind, Except.bind, pure, Except.pure]
    · simp [zero, small, Nat.pos_of_ne_zero zero, Nat.not_lt.1 small, bind, Except.bind, eq_comm]

theorem isGreatest_pages (page_pos : 0 < page) :
    IsGreatest {start | page ∣ start ∧ start ≤ grantor.offset} (grantor.pages page).offset := by
  constructor
  · exact ⟨Nat.dvd_mul_left _ _, Nat.div_mul_le_self _ _⟩
  · rintro _ ⟨⟨count, rfl⟩, le⟩
    have count_le : count ≤ grantor.offset / page := by
      rw [Nat.le_div_iff_mul_le page_pos, Nat.mul_comm]
      exact le
    rw [Nat.mul_comm]
    exact Nat.mul_le_mul_right page count_le

theorem pages_end_eq (grantor : Grantor) (page : Nat) :
    (grantor.pages page).offset + (grantor.pages page).length = grantor.offset + grantor.extent := by
  have parts := Nat.div_add_mod' grantor.offset page
  dsimp only [pages]
  omega

/-- A window that starts at another boundary in front of the grantor starts earlier, and it ends no earlier. -/
theorem tightest_pages (page_pos : 0 < page) : (grantor.pages page).Tightest page grantor := by
  have boundary := grantor.isGreatest_pages page_pos
  have end_eq := pages_end_eq grantor page
  constructor
  case boundary => exact boundary
  case lead_lt =>
    rw [offset_sub_pages]
    exact Nat.mod_lt _ page_pos
  case end_eq => exact end_eq
  case covers =>
    rw [Window.range, end_eq]
    exact Set.Ico_subset_Ico_left boundary.1.2
  case least =>
    intro nonempty other aligned covered
    obtain ⟨starts, ends⟩ := (Set.Ico_subset_Ico_iff (by omega)).1 covered
    have before := boundary.2 ⟨aligned, starts⟩
    omega
  case empty_iff => exact length_pages_eq_zero_iff

/-- **The window that is computed is the tightest one.** -/
theorem window_eq_ok_iff_tightest : grantor.window page = .ok window ↔
    0 < page ∧ grantor.offset % page + grantor.extent < wordLimit ∧ window.Tightest page grantor := by
  rw [window_eq_ok_iff]
  constructor
  · rintro ⟨page_pos, small, rfl⟩
    exact ⟨page_pos, small, tightest_pages page_pos⟩
  · rintro ⟨page_pos, small, tightest⟩
    have offset_eq := tightest.boundary.unique (grantor.isGreatest_pages page_pos)
    have end_eq := tightest.end_eq.trans (pages_end_eq grantor page).symm
    obtain ⟨offset, length⟩ := window
    cases offset_eq
    cases Nat.add_left_cancel end_eq
    exact ⟨page_pos, small, rfl⟩

end Grantor

namespace MappedRegion

variable {page : Nat} {request : MapRequest} {handle : Handle} {grantor : Grantor} {region : MappedRegion}

theorem map_eq_ok (mapped : map page request handle grantor = .ok region) :
    grantor.window page = .ok region.window ∧ region.lead = grantor.offset - region.window.offset ∧
      region.extent = grantor.extent := by
  unfold map at mapped
  split at mapped
  · cases mapped
  · split at mapped
    · cases mapped
    · rename_i window found
      split at mapped
      · cases mapped
      · split at mapped
        · cases mapped
        · cases mapped
          exact ⟨found, rfl, rfl⟩

/-- What the window was moved back by, the region's start is moved forward by. -/
theorem place_eq (mapped : map page request handle grantor = .ok region) (k : Nat) :
    region.place k = ⟨region.object, grantor.offset + k⟩ := by
  obtain ⟨found, lead_eq, -⟩ := map_eq_ok mapped
  obtain ⟨-, -, tightest⟩ := Grantor.window_eq_ok_iff_tightest.1 found
  have starts_le : region.window.offset ≤ grantor.offset := tightest.boundary.1.2
  rw [place, start, Address.advance, lead_eq, Nat.add_sub_cancel' starts_le]

end MappedRegion

/-- **The window of a grantor is the tightest one that starts at a page boundary, whatever the page size, and a region's
bytes are its grantor's.** The computation breaks off exactly for pages of no size, and where what lies between
boundary and grantor and the grantor's extent are together no word. -/
theorem window_is_tightest (grantor : Grantor) (page : Nat) :
    (∀ fault, grantor.window page = .error fault ↔
      page = 0 ∧ fault = .divideByZero ∨
        0 < page ∧ wordLimit ≤ grantor.offset % page + grantor.extent ∧ fault = .addOverflow) ∧
    (∀ window, grantor.window page = .ok window ↔
      0 < page ∧ grantor.offset % page + grantor.extent < wordLimit ∧ window.Tightest page grantor) ∧
    ∀ request handle region, MappedRegion.map page request handle grantor = .ok region →
      region.length = grantor.extent ∧
      (∀ k < grantor.extent, region.place k = ⟨region.object, grantor.offset + k⟩ ∧
        grantor.offset + k ∈ region.window.range) ∧
      ∀ memory : Memory, ∀ start count, start + count ≤ grantor.extent →
        (Session.readRegion region start count).run memory =
          (.bytes (memory.bytes ⟨region.object, grantor.offset + start⟩ count), memory) ∧
        ∀ bytes : List UInt8, bytes.length = count →
          (Session.writeRegion region start bytes).run memory =
            (.bytes bytes, memory.setBytes ⟨region.object, grantor.offset + start⟩ bytes) := by
  refine ⟨fun _ => Grantor.window_eq_error_iff, fun _ => Grantor.window_eq_ok_iff_tightest, ?_⟩
  intro request handle region mapped
  obtain ⟨found, -, extent_eq⟩ := MappedRegion.map_eq_ok mapped
  obtain ⟨-, -, tightest⟩ := Grantor.window_eq_ok_iff_tightest.1 found
  refine ⟨extent_eq, fun k inside => ⟨MappedRegion.place_eq mapped k, ?_⟩, fun memory start count _ => ?_⟩
  · exact tightest.covers ⟨Nat.le_add_right _ _, Nat.add_lt_add_left inside _⟩
  · rw [← MappedRegion.place_eq mapped start]
    exact ⟨rfl, fun _ _ => rfl⟩

/-- A grantor of one word in the second page, and its second byte. -/
theorem window_is_tightest_for_word :
    ∃ region, MappedRegion.map 4096 (fun _ _ => .ok 7) ⟨[3]⟩ ⟨0, 4224, 8⟩ = .ok region ∧
      region.window.range = Set.Ico 4096 4232 ∧ region.place 1 = ⟨7, 4225⟩ ∧ 4225 ∈ region.window.range := by
  obtain ⟨-, -, mapped⟩ := window_is_tightest ⟨0, 4224, 8⟩ 4096
  obtain ⟨-, bytes, -⟩ := mapped (fun _ _ => .ok 7) ⟨[3]⟩ ⟨7, ⟨4096, 136⟩, 128, 8⟩ (by decide)
  exact ⟨_, by decide, rfl, bytes 1 (by decide)⟩

/-- Pages need not have a size that is a power of two. -/
example : Grantor.window ⟨0, 1000, 50⟩ 48 = .ok ⟨960, 90⟩ := by decide

end SharedRing
