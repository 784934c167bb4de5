import SharedRing.Config.Mismatch

/-!
# Errors

Each error is its cause with the numbers and names that belong to it; `message` words it, and `debug`
shows it as a record. Where a cause is a reason of another kind, the constructor `stated` carries the
words that someone else chose.
-/

namespace SharedRing

/-! ## System errors -/

inductive Errno where
  | notFound
  | badDescriptor
  | outOfMemory
  | exists
  | invalidArgument
  | tooLarge
  | nameTooLong
  | offsetTooLarge
deriving DecidableEq, Repr

/-- The system's words for an error, and its number. -/
def Errno.description : Errno → String × Nat
  | .notFound => ("No such file or directory", 2)
  | .badDescriptor => ("Bad file descriptor", 9)
  | .outOfMemory => ("Cannot allocate memory", 12)
  | .exists => ("File exists", 17)
  | .invalidArgument => ("Invalid argument", 22)
  | .tooLarge => ("File too large", 27)
  | .nameTooLong => ("File name too long", 36)
  | .offsetTooLarge => ("Value too large for defined data type", 75)

def Errno.symbol : Errno → String
  | .notFound => "ENOENT"
  | .badDescriptor => "EBADF"
  | .outOfMemory => "ENOMEM"
  | .exists => "EEXIST"
  | .invalidArgument => "EINVAL"
  | .tooLarge => "EFBIG"
  | .nameTooLong => "ENAMETOOLONG"
  | .offsetTooLarge => "EOVERFLOW"

def Errno.message (errno : Errno) : String :=
  s!"{errno.description.1} (os error {errno.description.2})"

/-- The wording by symbol. -/
def Errno.symbolic (errno : Errno) : String :=
  errno.symbol ++ ": " ++ errno.description.1

/-! ## Descriptors -/

inductive HandleFault where
  | empty
  | negative (fds : List Int)
  | stated (reason : String)
deriving DecidableEq, Repr

def HandleFault.reason : HandleFault → String
  | .empty => "no file descriptors"
  | .negative fds => "negative file descriptor in " ++ Text.bracketed (fds.map toString)
  | .stated reason => reason

inductive GrantorFault where
  | endOverflows (offset extent : Nat)
  | counterTooSmall (extent : Nat)
  | counterMisaligned (offset : Nat)
  | dataTooSmall (extent ringBytes : Nat)
  | stated (reason : String)
deriving DecidableEq, Repr

def GrantorFault.reason : GrantorFault → String
  | .endOverflows offset extent => s!"offset {offset} + extent {extent} overflows"
  | .counterTooSmall extent => s!"counter extent {extent} is smaller than 8 bytes"
  | .counterMisaligned offset => s!"counter offset {offset} is not 8-byte aligned"
  | .dataTooSmall extent ringBytes => s!"data extent {extent} is smaller than ring size {ringBytes}"
  | .stated reason => reason

/-- `DescriptorError`: why a region descriptor is refused before anything is mapped. -/
inductive DescriptorError where
  | invalidHandle (fault : HandleFault)
  | tooFewGrantors (count min : Nat)
  | quantumSizeMismatch (expected actual : Nat)
  | emptyRing (quantumSize quantumCount : Nat)
  | sizeOverflow (quantumSize quantumCount : Nat)
  | fdIndexOutOfRange (slot fdIndex fdCount : Nat)
  | invalidGrantor (slot : Nat) (fault : GrantorFault)
deriving DecidableEq, Repr

def DescriptorError.message : DescriptorError → String
  | .invalidHandle fault => "Backing handle set is malformed: " ++ fault.reason
  | .tooFewGrantors count min => s!"Too few grantors: {count} (minimum {min})"
  | .quantumSizeMismatch expected actual =>
    s!"Quantum size mismatch: descriptor has {actual} bytes, element type is {expected} bytes"
  | .emptyRing quantumSize quantumCount =>
    s!"Ring geometry is empty: quantum_size={quantumSize}, quantum_count={quantumCount}"
  | .sizeOverflow quantumSize quantumCount => s!"Ring size overflows: {quantumSize} x {quantumCount}"
  | .fdIndexOutOfRange slot fdIndex fdCount =>
    s!"Grantor {slot} references fd index {fdIndex}, handle has {fdCount} fds"
  | .invalidGrantor slot fault => s!"Grantor {slot} is malformed: " ++ fault.reason

def DescriptorError.debug : DescriptorError → String
  | .invalidHandle fault => Text.record "InvalidHandle" [("reason", Text.quoted fault.reason)]
  | .tooFewGrantors count min =>
    Text.record "TooFewGrantors" [("count", toString count), ("min", toString min)]
  | .quantumSizeMismatch expected actual =>
    Text.record "QuantumSizeMismatch" [("expected", toString expected), ("actual", toString actual)]
  | .emptyRing quantumSize quantumCount =>
    Text.record "EmptyRing"
      [("quantum_size", toString quantumSize), ("quantum_count", toString quantumCount)]
  | .sizeOverflow quantumSize quantumCount =>
    Text.record "SizeOverflow"
      [("quantum_size", toString quantumSize), ("quantum_count", toString quantumCount)]
  | .fdIndexOutOfRange slot fdIndex fdCount =>
    Text.record "FdIndexOutOfRange"
      [("slot", toString slot), ("fd_index", toString fdIndex), ("fd_count", toString fdCount)]
  | .invalidGrantor slot fault =>
    Text.record "InvalidGrantor" [("slot", toString slot), ("reason", Text.quoted fault.reason)]

/-! ## Shared memory -/

inductive LayoutFault where
  | emptyRing (quantumSize quantumCount : Nat)
  | overflow (quantumSize quantumCount : Nat)
  | objectTooShort (name : String) (actual needed : Nat)
  | stated (reason : String)
deriving DecidableEq, Repr

def LayoutFault.reason : LayoutFault → String
  | .emptyRing quantumSize quantumCount =>
    s!"quantum_size ({quantumSize}) and quantum_count ({quantumCount}) must be non-zero"
  | .overflow quantumSize quantumCount => s!"ring size overflows: {quantumSize} x {quantumCount}"
  | .objectTooShort name actual needed => s!"segment {name} is {actual} bytes, layout needs {needed}"
  | .stated reason => reason

inductive NameFault where
  | empty
  | slash
  /-- The number of bytes before the first NUL. -/
  | nul (position : Nat)
deriving DecidableEq, Repr

def NameFault.reason : NameFault → String
  | .empty => "Name cannot be empty"
  | .slash => "Name cannot contain '/'"
  | .nul position => s!"Invalid name: nul byte found in provided data at position: {position}"

inductive CreateFault where
  | name (fault : NameFault)
  | exists
  | named (errno : Errno)
  | anonymous (errno : Errno)
  | length (errno : Errno)
  | stated (reason : String)
deriving DecidableEq, Repr

def CreateFault.reason : CreateFault → String
  | .name fault => fault.reason
  | .exists => "Shared memory already exists"
  | .named errno => "shm_open failed: " ++ errno.message
  | .anonymous errno => "memfd_create failed: " ++ errno.symbolic
  | .length errno => "ftruncate failed: " ++ errno.message
  | .stated reason => reason

inductive OpenFault where
  | name (fault : NameFault)
  | named (errno : Errno)
  | length (errno : Errno)
  | stated (reason : String)
deriving DecidableEq, Repr

def OpenFault.reason : OpenFault → String
  | .name fault => fault.reason
  | .named errno => "shm_open failed: " ++ errno.message
  | .length errno => "fstat failed: " ++ errno.message
  | .stated reason => reason

inductive MapFault where
  | noSuchFd (index : Nat)
  | zeroLength
  | refused (errno : Errno)
  | stated (reason : String)
deriving DecidableEq, Repr

def MapFault.reason : MapFault → String
  | .noSuchFd index => s!"fd index {index} not in handle"
  | .zeroLength => "zero-length grantor"
  | .refused errno => "mmap failed: " ++ errno.message
  | .stated reason => reason

inductive CounterFault where
  | shortRead (offset : Nat)
  | zeroing (offset : Nat) (errno : Errno)
  | stated (reason : String)
deriving DecidableEq, Repr

def CounterFault.reason : CounterFault → String
  | .shortRead offset => s!"reading counter at {offset}: failed to fill whole buffer"
  | .zeroing offset errno => s!"zeroing counter at {offset}: " ++ errno.message
  | .stated reason => reason

inductive SharedMemoryError where
  | createFailed (name : String) (fault : CreateFault)
  | openFailed (name : String) (fault : OpenFault)
  | mapFailed (fault : MapFault)
  | invalidLayout (fault : LayoutFault)
  | counterAccess (fault : CounterFault)
deriving DecidableEq, Repr

def SharedMemoryError.message : SharedMemoryError → String
  | .createFailed name fault => s!"Failed to create shared memory region: {name} - " ++ fault.reason
  | .openFailed name fault => s!"Failed to open shared memory region: {name} - " ++ fault.reason
  | .mapFailed fault => "Failed to map shared memory: " ++ fault.reason
  | .invalidLayout fault => "Invalid queue layout: " ++ fault.reason
  | .counterAccess fault => "Counter access failed: " ++ fault.reason

def SharedMemoryError.debug : SharedMemoryError → String
  | .createFailed name fault =>
    Text.record "CreateFailed" [("name", Text.quoted name), ("reason", Text.quoted fault.reason)]
  | .openFailed name fault =>
    Text.record "OpenFailed" [("name", Text.quoted name), ("reason", Text.quoted fault.reason)]
  | .mapFailed fault => Text.record "MapFailed" [("reason", Text.quoted fault.reason)]
  | .invalidLayout fault => Text.record "InvalidLayout" [("reason", Text.quoted fault.reason)]
  | .counterAccess fault => Text.record "CounterAccess" [("reason", Text.quoted fault.reason)]

/-! ## Settings -/

/-- What a value of a configuration has to satisfy. -/
inductive Requirement where
  | nameLength (most : Nat)
  | nameCharacters
  | sizeRange (most : Nat)
  | atLeastOne
  | layout (fault : LayoutFault)
  | batchRange (quantumCount : Nat)
  | stated (reason : String)
deriving DecidableEq, Repr

def Requirement.reason : Requirement → String
  | .nameLength most => s!"Must be 1 to {most} characters"
  | .nameCharacters => "Must not contain '/' or NUL"
  | .sizeRange most => s!"Must be between 1 and {most} bytes"
  | .atLeastOne => "Must be at least 1"
  | .layout fault => (SharedMemoryError.invalidLayout fault).message
  | .batchRange quantumCount => s!"Must be between 1 and quantum_count ({quantumCount})"
  | .stated reason => reason

/-- `HardValidationError`: why the values of a configuration are refused. -/
inductive SettingError where
  | missingField (field context : String)
  | invalidValue (field value : String) (requirement : Requirement)
deriving DecidableEq, Repr

def SettingError.message : SettingError → String
  | .missingField field context => s!"Missing required field: {field} in {context}"
  | .invalidValue field value requirement =>
    s!"Invalid field value: {field} = {value} - " ++ requirement.reason

def SettingError.debug : SettingError → String
  | .missingField field context =>
    Text.record "MissingRequiredField" [("field", Text.quoted field), ("context", Text.quoted context)]
  | .invalidValue field value requirement =>
    Text.record "InvalidFieldValue"
      [("field", Text.quoted field), ("value", Text.quoted value),
       ("reason", Text.quoted requirement.reason)]

/-! ## All errors -/

inductive ParseFault where
  | shape (error : Config.ShapeError)
  | stated (message : String)
deriving DecidableEq, Repr

def ParseFault.message : ParseFault → String
  | .shape error => "YAML parse error: " ++ error.message
  | .stated message => message

inductive FileFault where
  | isDirectory
  | notUtf8
  | stated (text : String)
deriving DecidableEq, Repr

def FileFault.message : FileFault → String
  | .isDirectory => "Is a directory (os error 21)"
  | .notUtf8 => "stream did not contain valid UTF-8"
  | .stated text => text

def FileFault.debug : FileFault → String
  | .isDirectory =>
    Text.record "Os"
      [("code", "21"), ("kind", "IsADirectory"), ("message", Text.quoted "Is a directory")]
  | .notUtf8 =>
    Text.record "Error"
      [("kind", "InvalidData"), ("message", Text.quoted "stream did not contain valid UTF-8")]
  | .stated text => Text.record "Custom" [("kind", "Other"), ("error", Text.quoted text)]

/-- `QueueError`: every way in which the library fails. -/
inductive Error where
  | setting (error : SettingError)
  | configNotFound (path : String)
  | configParse (fault : ParseFault)
  | descriptor (error : DescriptorError)
  | sharedMemory (error : SharedMemoryError)
  | io (context : String) (source : FileFault)
deriving DecidableEq, Repr

namespace Error

def message : Error → String
  | .setting error => "Hard validation error: " ++ error.message
  | .configNotFound path => "Configuration file not found: " ++ path
  | .configParse fault => "Configuration parse error: " ++ fault.message
  | .descriptor error => "Invalid region descriptor: " ++ error.message
  | .sharedMemory error => "Shared memory error: " ++ error.message
  | .io context source => s!"IO error: {context} - " ++ source.message

/-- `source`: the words of the error that this one is about, if there is one. -/
def sourceMessage? : Error → Option String
  | .setting error => some error.message
  | .configNotFound _ => none
  | .configParse _ => none
  | .descriptor error => some error.message
  | .sharedMemory error => some error.message
  | .io _ source => some source.message

def debug : Error → String
  | .setting error => Text.wrapped "HardValidation" error.debug
  | .configNotFound path => Text.record "ConfigNotFound" [("path", Text.quotedPath path)]
  | .configParse fault => Text.record "ConfigParse" [("message", Text.quoted fault.message)]
  | .descriptor error => Text.wrapped "Descriptor" error.debug
  | .sharedMemory error => Text.wrapped "SharedMemory" error.debug
  | .io context source =>
    Text.record "Io" [("context", Text.quoted context), ("source", source.debug)]

end Error

end SharedRing
