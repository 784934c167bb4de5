import SharedRing.Access
import SharedRing.Mapping

/-!
# The system

What the operating system keeps for everyone: the bytes and the length of every backing object, the
name space of named objects, the open file descriptors, and the limit on growth. Objects are numbered
in the order of their creation and a number is never used again, so what has been mapped stays what it
was, whatever becomes of names and descriptors.

A call that fails leaves the system as it was; the one exception is a write that the limit cuts short.
-/

namespace SharedRing

structure System where
  memory : Memory
  lengths : List Nat
  /-- Names in use, each with its object. -/
  names : List (String × Nat)
  /-- Open file descriptors, each with its object. -/
  descriptors : List (Nat × Nat)
  /-- The length beyond which no object may grow. -/
  limit : Option Nat

namespace System

def empty : System :=
  { memory := Memory.zero, lengths := [], names := [], descriptors := [], limit := none }

/-! ## Looking up -/

def named? (system : System) (name : String) : Option Nat := system.names.lookup name

/-- The object of an open file descriptor. -/
def object? (system : System) (fd : Nat) : Option Nat := system.descriptors.lookup fd

def length (system : System) (object : Nat) : Nat := system.lengths.getD object 0

def length? (system : System) (fd : Nat) : Except Errno Nat :=
  match system.object? fd with
  | some object => .ok (system.length object)
  | none => .error .badDescriptor

def firstDescriptor : Nat := 3

/-- The lowest file descriptor that is not open. Of one more candidate than descriptors are open, one is free. -/
def freeDescriptor (system : System) : Nat :=
  let candidates := (List.range (system.descriptors.length + 1)).map (· + firstDescriptor)
  (candidates.find? fun fd => (system.object? fd).isNone).getD firstDescriptor

/-! ## Names and descriptors -/

def openObject (system : System) (object : Nat) : Nat × System :=
  let fd := system.freeDescriptor
  (fd, { system with descriptors := (fd, object) :: system.descriptors })

def newObject (system : System) : Nat × System :=
  let object := system.lengths.length
  { system with lengths := system.lengths ++ [0] }.openObject object

/-- The longest label of an anonymous object, in bytes. -/
def maxLabelLength : Nat := 249

/-- The longest name of a named object, in bytes. -/
def maxSystemNameLength : Nat := 255

def makeAnonymous (system : System) (label : String) : Except Errno (Nat × System) :=
  if maxLabelLength < label.utf8ByteSize then .error .invalidArgument else .ok system.newObject

/-- The names that stand for the name space itself. -/
def isDirectoryName (name : String) : Bool := name = "." || name = ".."

def makeNamed (system : System) (name : String) : Except Errno (Nat × System) :=
  if maxSystemNameLength < name.utf8ByteSize then .error .nameTooLong
  else if isDirectoryName name || (system.named? name).isSome then .error .exists
  else
    let (fd, grown) := system.newObject
    .ok (fd, { grown with names := (name, system.lengths.length) :: system.names })

def openNamed (system : System) (name : String) : Except Errno (Nat × System) :=
  if maxSystemNameLength < name.utf8ByteSize then .error .nameTooLong
  else if isDirectoryName name then .error .invalidArgument
  else match system.named? name with
    | some object => .ok (system.openObject object)
    | none => .error .notFound

def close (system : System) (fd : Nat) : System :=
  { system with descriptors := system.descriptors.filter (·.1 ≠ fd) }

def unlink (system : System) (name : String) : System :=
  { system with names := system.names.filter (·.1 ≠ name) }

/-! ## Lengths and bytes -/

/-- Whether the limit lets an object become this long. -/
def allows (system : System) (size : Nat) : Bool :=
  match system.limit with
  | some limit => size ≤ limit
  | none => true

/-- Give an object a length. Bytes beyond the end are forgotten and new ones are zero. -/
def resize (system : System) (object size : Nat) : System :=
  { system with
    memory := system.memory.clearFrom object size
    lengths := system.lengths.set object size }

/-- Set the length of an object; only growing is limited. -/
def setLength (system : System) (fd size : Nat) : Except Errno System :=
  match system.object? fd with
  | none => .error .badDescriptor
  | some object =>
    if system.length object < size && !system.allows size then .error .tooLarge
    else .ok (system.resize object size)

def storeBytes (system : System) (object offset : Nat) (bytes : List UInt8) : System :=
  { system with
    memory := system.memory.setBytes ⟨object, offset⟩ bytes
    lengths := system.lengths.set object (max (system.length object) (offset + bytes.length)) }

/-- The bytes of a write that lie below the limit. -/
def admitted (system : System) (offset : Nat) (bytes : List UInt8) : List UInt8 :=
  match system.limit with
  | some limit => bytes.take (limit - offset)
  | none => bytes

/-- Write bytes at an offset. A limit inside them lets those below it through, and then refuses. -/
def writeAt (system : System) (fd offset : Nat) (bytes : List UInt8) : System × Except Errno Unit :=
  match system.object? fd with
  | none => (system, .error .badDescriptor)
  | some object =>
    let stored := system.admitted offset bytes
    if stored.length = bytes.length then (system.storeBytes object offset bytes, .ok ())
    else if stored.isEmpty then (system, .error .tooLarge)
    else (system.storeBytes object offset stored, .error .tooLarge)

/-- Read bytes at an offset, if the object has all of them. -/
def readAt (system : System) (fd offset count : Nat) : Option (List UInt8) :=
  match system.object? fd with
  | none => none
  | some object =>
    if offset + count ≤ system.length object then some (system.memory.bytes ⟨object, offset⟩ count)
    else none

/-! ## Mapping -/

/-- A mapping of this length or more does not fit the address space. -/
def addressSpace : Nat := 140737488355328

/-- Map a window of a file descriptor. Mappings consist of whole pages, and may reach beyond the end of
the object. -/
def request (system : System) : MapRequest := fun fd window =>
  let length := (window.length + pageSize - 1) / pageSize * pageSize
  match if fd < 0 then none else system.object? fd.toNat with
  | none => .error .badDescriptor
  | some object =>
    if addressSpace ≤ length then .error .outOfMemory
    else if maxOffset < window.offset + length then .error .offsetTooLarge
    else .ok object

def perform {α : Type} (system : System) (operation : Access α) : α × System :=
  let { memory, lengths, names, descriptors, limit } := system
  let (result, after) := operation.run memory
  (result, { memory := after, lengths, names, descriptors, limit })

end System

end SharedRing
