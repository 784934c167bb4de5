import SharedRing.Memory
import SharedRing.Window

/-!
# Mapping grantors

`MappedRegion.map` maps one grantor: it finds the backing object in the handle, computes the window
and asks the system for it. The page size and the system's answer are arguments, so that what is said
of mapping holds for every system. A mapping starts at a page boundary and the region `lead` bytes
further on; byte `k` of the region is the byte of the object at the grantor's offset plus `k`.
-/

namespace SharedRing

/-- Why no value was made: an error that is reported, or a fault. -/
inductive Stop (ε : Type) where
  | failed (error : ε)
  | faulted (fault : Fault)
deriving DecidableEq, Repr

abbrev MapRequest := Int → Window → Except Errno Nat

/-- A mapping of one grantor. -/
structure MappedRegion where
  object : Nat
  window : Window
  /-- Distance from the window's start to the region's first byte. -/
  lead : Nat
  extent : Nat
deriving DecidableEq, Repr

namespace MappedRegion

/-- `map` of `MappedRegion`. A mapping that the system grants is never at the null address, so the failure `mmap
returned null` is left out. -/
def map (page : Nat) (request : MapRequest) (handle : Handle) (grantor : Grantor) :
    Except (Stop MapFault) MappedRegion :=
  match handle.fd? grantor.fdIndex with
  | none => .error (.failed (.noSuchFd grantor.fdIndex))
  | some fd =>
    match grantor.window page with
    | .error fault => .error (.faulted fault)
    | .ok window =>
      if window.length = 0 then .error (.failed .zeroLength)
      else match request fd window with
        | .error errno => .error (.failed (.refused errno))
        | .ok object =>
          .ok { object, window, lead := grantor.offset - window.offset, extent := grantor.extent }

/-- `as_ptr`: where the region starts. -/
def start (region : MappedRegion) : Address :=
  ⟨region.object, region.window.offset + region.lead⟩

def place (region : MappedRegion) (k : Nat) : Address := region.start.advance k

def length (region : MappedRegion) : Nat := region.extent

def isEmpty (region : MappedRegion) : Bool := region.extent = 0

end MappedRegion

end SharedRing
