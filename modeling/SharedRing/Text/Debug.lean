import SharedRing.Text.Printable

/-!
# One-line form of values

The form in which values appear in diagnostics: a record is its name and its fields in braces, a list
stands in square brackets, and text stands in double quotes with everything that is not visible
written as an escape.
-/

namespace SharedRing.Text

def hex (n : Nat) : String :=
  String.ofList (Nat.toDigits 16 n)

/-- A character between double quotes. -/
def escape (c : Char) : List Char :=
  if c = '\x00' then ['\\', '0']
  else if c = '\t' then ['\\', 't']
  else if c = '\r' then ['\\', 'r']
  else if c = '\n' then ['\\', 'n']
  else if c = '"' then ['\\', '"']
  else if c = '\\' then ['\\', '\\']
  else if isShown c then [c]
  else ['\\', 'u', '{'] ++ (hex c.toNat).toList ++ ['}']

def quoted (s : String) : String :=
  String.ofList ('"' :: s.toList.flatMap escape ++ ['"'])

/-- A path in double quotes; single quotes are escaped too. -/
def quotedPath (path : String) : String :=
  String.ofList ('"' :: (path.toList.flatMap fun c => if c = '\'' then ['\\', c] else escape c) ++ ['"'])

def bracketed (items : List String) : String :=
  "[" ++ ", ".intercalate items ++ "]"

def record (name : String) (fields : List (String × String)) : String :=
  name ++ " \x7b " ++ ", ".intercalate (fields.map fun field => field.1 ++ ": " ++ field.2) ++ " \x7d"

def wrapped (name value : String) : String :=
  name ++ "(" ++ value ++ ")"

end SharedRing.Text
