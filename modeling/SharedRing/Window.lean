import SharedRing.Descriptor

/-!
# Mapping windows

A mapping has to start at a page boundary, and a grantor need not. The window of a grantor starts at
the boundary at or below its offset and ends where the grantor ends.
-/

namespace SharedRing

/-- A page-aligned range of a backing object. -/
structure Window where
  offset : Nat
  length : Nat
deriving DecidableEq, Repr

/-- `mapping_window`: the window of a grantor for a page size. The boundary is found by division, and the length is
a sum of words. -/
def Grantor.window (grantor : Grantor) (page : Nat) : Except Fault Window :=
  if page = 0 then .error .divideByZero
  else do
    let offset := grantor.offset / page * page
    let length ← addWords (grantor.offset - offset) grantor.extent
    return { offset, length }

/-- `page_size` of the system. -/
def pageSize : Nat := 4096

end SharedRing
