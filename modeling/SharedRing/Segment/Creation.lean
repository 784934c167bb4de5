import SharedRing.Config
import SharedRing.Segment

/-!
# Creating and opening segments

Creating a segment takes four steps of the system: make the object, set its length, zero the read
counter, zero the write counter. `Creation.step` performs one of them, so that others may act in
between, and `Creation.run` performs those that are left. When a step fails the segment is released.
Opening a named segment checks its length and leaves its counters as they are.
-/

namespace SharedRing

/-- How far the creation of a segment has come. -/
inductive Creation where
  | opening (named : Bool) (name : String) (layout : QueueLayout)
  | sizing (segment : QueueSegment)
  | zeroingRead (segment : QueueSegment)
  | zeroingWrite (segment : QueueSegment)
  | finished (segment : QueueSegment)
  | failed (error : SharedMemoryError)
deriving DecidableEq, Repr

namespace Creation

/-- Make the object, after a check of its name. -/
def openObject (system : System) (named : Bool) (name : String) :
    Except CreateFault (Nat × System) :=
  if named then
    match QueueSegment.checkName name, system.makeNamed name with
    | .error fault, _ => .error (.name fault)
    | .ok (), .error .exists => .error .exists
    | .ok (), .error errno => .error (.named errno)
    | .ok (), .ok opened => .ok opened
  else
    match QueueSegment.checkLabel name, system.makeAnonymous name with
    | .error fault, _ => .error (.name fault)
    | .ok (), .error errno => .error (.anonymous errno)
    | .ok (), .ok opened => .ok opened

def fail (system : System) (segment : QueueSegment) (error : SharedMemoryError) : System × Creation :=
  (segment.release system, .failed error)

def make (system : System) (named : Bool) (name : String) (layout : QueueLayout) : System × Creation :=
  match openObject system named name with
  | .ok (fd, opened) => (opened, .sizing { name, fd, layout, named, owner := true })
  | .error fault => (system, .failed (.createFailed name fault))

/-- The `set_len` of `initialize`. -/
def size (system : System) (segment : QueueSegment) : System × Creation :=
  match system.setLength segment.fd segment.layout.totalSize with
  | .ok sized => (sized, .zeroingRead segment)
  | .error errno => fail system segment (.createFailed segment.name (.length errno))

/-- One write of `reset_counters`. -/
def zero (system : System) (segment : QueueSegment) (offset : Nat) (next : Creation) :
    System × Creation :=
  match segment.zeroCounter system offset with
  | (after, .ok ()) => (after, next)
  | (after, .error fault) => fail after segment (.counterAccess fault)

/-- One step of a creation; nothing is left to do of one that has ended. -/
def step (system : System) : Creation → System × Creation
  | .opening named name layout => make system named name layout
  | .sizing segment => size system segment
  | .zeroingRead segment =>
    zero system segment QueueLayout.readCounterOffset (.zeroingWrite segment)
  | .zeroingWrite segment =>
    zero system segment QueueLayout.writeCounterOffset (.finished segment)
  | .finished segment => (system, .finished segment)
  | .failed error => (system, .failed error)

def outcome? : Creation → Option (Except SharedMemoryError QueueSegment)
  | .finished segment => some (.ok segment)
  | .failed error => some (.error error)
  | _ => none

def stepsLeft : Creation → Nat
  | .opening .. => 4
  | .sizing _ => 3
  | .zeroingRead _ => 2
  | .zeroingWrite _ => 1
  | .finished _ => 0
  | .failed _ => 0

theorem stepsLeft_zero_le (system : System) (segment : QueueSegment) (offset : Nat) (next : Creation) :
    (zero system segment offset next).2.stepsLeft ≤ next.stepsLeft := by
  unfold zero
  split
  · exact Nat.le_refl _
  · exact Nat.zero_le _

theorem stepsLeft_step_lt (system : System) (creation : Creation) (h : creation.outcome? = none) :
    (step system creation).2.stepsLeft < creation.stepsLeft := by
  cases creation with
  | opening named name layout =>
    change (make system named name layout).2.stepsLeft < 4
    unfold make
    split <;> simp [stepsLeft]
  | sizing segment =>
    change (size system segment).2.stepsLeft < 3
    unfold size
    split <;> simp [stepsLeft, fail]
  | zeroingRead segment =>
    exact Nat.lt_succ_of_le (stepsLeft_zero_le system segment _ (.zeroingWrite segment))
  | zeroingWrite segment =>
    exact Nat.lt_succ_of_le (stepsLeft_zero_le system segment _ (.finished segment))
  | finished => simp [outcome?] at h
  | failed => simp [outcome?] at h

/-- Carry a creation through to its end. -/
def run (system : System) (creation : Creation) : System × Except SharedMemoryError QueueSegment :=
  match _h : creation.outcome? with
  | some outcome => (system, outcome)
  | none =>
    let advanced := step system creation
    run advanced.1 advanced.2
termination_by creation.stepsLeft
decreasing_by exact stepsLeft_step_lt system creation _h

end Creation

namespace QueueSegment

/-- `create` of a named segment, `anonymous` of another. -/
def create (system : System) (named : Bool) (name : String) (layout : QueueLayout) :
    System × Except SharedMemoryError QueueSegment :=
  Creation.run system (.opening named name layout)

/-- `create_segment`. -/
def ofConfig (system : System) (config : QueueConfig) :
    System × Except SharedMemoryError QueueSegment :=
  match config.layout with
  | .ok layout => create system config.named config.name layout
  | .error fault => (system, .error (.invalidLayout fault))

/-- `open`: open a segment that was created elsewhere. Its object must be as long as the layout needs. -/
def openNamed (system : System) (name : String) (layout : QueueLayout) :
    System × Except SharedMemoryError QueueSegment :=
  match checkName name, system.openNamed name with
  | .error fault, _ => (system, .error (.openFailed name (.name fault)))
  | .ok (), .error errno => (system, .error (.openFailed name (.named errno)))
  | .ok (), .ok (fd, opened) =>
    let segment := { name, fd, layout, named := true, owner := false }
    match opened.length? fd with
    | .error errno => (segment.release opened, .error (.openFailed name (.length errno)))
    | .ok actual =>
      if actual < layout.totalSize then
        (segment.release opened,
          .error (.invalidLayout (.objectTooShort name actual layout.totalSize)))
      else (opened, .ok segment)

end QueueSegment

end SharedRing
