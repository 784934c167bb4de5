import SharedRing.Text.Debug
import SharedRing.Yaml.Token

/-!
# Why a document is no configuration

Either the text is no single YAML document, or its tree does not have the shape of a configuration. In
the second case the message says at which keys, what was found and what was wanted, and where.
-/

namespace SharedRing.Config

/-- What stands where something else is wanted. -/
inductive Found where
  | scalar (meaning : Yaml.Meaning)
  | sequence
  | mapping
deriving DecidableEq, Repr

/-- What the shape of a configuration asks for. -/
inductive Wanted where
  | text
  | size
  | count
  | boolean
  | key
  | queueSection
  | benchSection
  | sections
deriving DecidableEq, Repr

inductive Complaint where
  | missingField (name : String)
  | duplicateField (name : String)
  | invalidType (found : Found) (wanted : Wanted)
  /-- A text does not spell a value of the type that its tag names. -/
  | invalidValue (text type : String)
deriving DecidableEq, Repr

/-- Where in a document a complaint belongs: the keys on the way there, and the place in the text. -/
structure Place where
  path : List String
  mark : Yaml.Mark
deriving DecidableEq, Repr

def Place.inside (place : Place) (key : String) : List String :=
  place.path ++ [key]

inductive ShapeError where
  /-- The text is no YAML, or not one document. -/
  | malformed
  | mismatch (place : Place) (complaint : Complaint)
deriving DecidableEq, Repr

/-! ## Words -/

def inBackticks (s : String) : String :=
  let mark := String.singleton (Char.ofNat 96)
  mark ++ s ++ mark

/-- An integer, with the width it needs if that is more than 64 bits. -/
def integerText (n : Int) : String :=
  let width :=
    if (wordLimit : Int) ≤ n then " as u128"
    else if n < -(maxOffset : Int) - 1 then " as i128"
    else ""
  "integer " ++ inBackticks (toString n) ++ width

def Found.message : Found → String
  | .scalar .null => "unit value"
  | .scalar (.boolean b) => "boolean " ++ inBackticks (if b then "true" else "false")
  | .scalar (.integer n) => integerText n
  | .scalar (.float x) => "floating point " ++ inBackticks x.text
  | .scalar (.text s) => "string " ++ Text.quoted s
  | .sequence => "sequence"
  | .mapping => "map"

def Wanted.message : Wanted → String
  | .text => "a string"
  | .size => "usize"
  | .count => "u64"
  | .boolean => "a boolean"
  | .key => "field identifier"
  | .queueSection => "struct RawQueueConfig"
  | .benchSection => "struct RawBenchConfig"
  | .sections => "struct RawConfig"

def Complaint.message : Complaint → String
  | .missingField name => "missing field " ++ inBackticks name
  | .duplicateField name => "duplicate field " ++ inBackticks name
  | .invalidType found wanted => "invalid type: " ++ found.message ++ ", expected " ++ wanted.message
  | .invalidValue text type => "invalid value: string " ++ Text.quoted text ++ ", expected " ++ type

/-- The place in the text, counted from one; the very start is not mentioned. -/
def markSuffix (mark : Yaml.Mark) : String :=
  if mark.line = 0 ∧ mark.column = 0 then ""
  else s!" at line {mark.line + 1} column {mark.column + 1}"

def ShapeError.message : ShapeError → String
  | .malformed => "not a single well-formed document"
  | .mismatch place complaint =>
    let path := if place.path.isEmpty then "" else ".".intercalate place.path ++ ": "
    path ++ complaint.message ++ markSuffix place.mark

end SharedRing.Config
