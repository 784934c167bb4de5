import SharedRing.Yaml.Token.Cursor

/-!
# Anchors, tags and directives

The tokens that start with `&`, `*`, `!` or, in the first column, `%`. Every function answers `none`
where the text breaks the rules.
-/

namespace SharedRing.Yaml

/-- What may follow the name of an anchor. -/
def endsName : List Char → Bool
  | [] => true
  | c :: _ => isBlank c || isBreak c || c ∈ ['?', ':', ',', ']', '}', '%', '@', Char.ofNat 96]

def anchorName (cursor : Cursor) : Option (String × Cursor) :=
  let start := cursor.skip 1
  let name := start.word isWordChar
  let next := start.skipWhile isWordChar
  if name = "" || !endsName next.rest then none else some (name, next)

/-! ## Tags -/

/-- Characters of a tag; inside angle brackets also comma and square brackets. -/
def isTagChar (bracketed : Bool) (c : Char) : Bool :=
  isWordChar c ||
    c ∈ [';', '/', '?', ':', '@', '&', '=', '+', '$', '.', '%', '!', '~', '*', '\'', '(', ')'] ||
    (bracketed && (c = ',' || c = '[' || c = ']'))

def utf8Width (lead : Nat) : Nat :=
  if lead < 0x80 then 1
  else if 0xC0 ≤ lead && lead < 0xE0 then 2
  else if 0xE0 ≤ lead && lead < 0xF0 then 3
  else if 0xF0 ≤ lead && lead < 0xF8 then 4
  else 0

def escapedByte? : List Char → Option (Nat × List Char)
  | '%' :: a :: b :: rest => do return (← digits? 16 [a, b], rest)
  | _ => none

def escapedTail? : Nat → Nat → List Char → Option (Nat × List Char)
  | 0, code, rest => some (code, rest)
  | count + 1, code, cs => do
    let (byte, rest) ← escapedByte? cs
    if 0x80 ≤ byte && byte < 0xC0 then escapedTail? count (code * 64 + byte % 64) rest else none

/-- A character written as escaped UTF-8 bytes, and what follows. -/
def escapedChar? (cs : List Char) : Option (Char × List Char) := do
  let (lead, rest) ← escapedByte? cs
  let width := utf8Width lead
  if width = 0 then none
  let bits := if width = 1 then lead else lead % Nat.pow 2 (7 - width)
  let (code, rest) ← escapedTail? (width - 1) bits rest
  return (Char.ofNat code, rest)

/-- Read the characters of a tag; every character takes one of `fuel`. -/
def tagChars (bracketed : Bool) : Nat → List Char → List Char → Option (List Char × List Char)
  | 0, _, _ => none
  | fuel + 1, read, cs =>
    match cs with
    | [] => some (read.reverse, [])
    | c :: rest =>
      if c = '%' then do
        let (d, rest) ← escapedChar? cs
        tagChars bracketed fuel (d :: read) rest
      else if isTagChar bracketed c then tagChars bracketed fuel (c :: read) rest
      else some (read.reverse, cs)

def tagText (bracketed : Bool) (cursor : Cursor) : Option (String × Cursor) := do
  let (read, rest) ← tagChars bracketed (cursor.rest.length + 1) [] cursor.rest
  return (String.ofList read, cursor.skip (cursor.rest.length - rest.length))

/-- Read `!`, word characters, and a closing `!` if there is one. -/
def tagHandle (cursor : Cursor) : Option (String × Cursor) :=
  if cursor.rest.head? ≠ some '!' then none
  else
    let start := cursor.skip 1
    let next := start.skipWhile isWordChar
    let name := "!" ++ start.word isWordChar
    if next.rest.head? = some '!' then some (name ++ "!", next.skip 1) else some (name, next)

/-- A handle that names a tag directive: at least two characters, the last one a `!`. -/
def isHandle (handle : String) : Bool :=
  handle.length ≥ 2 && handle.endsWith "!"

def tagParts (cursor : Cursor) : Option (String × String × Cursor) :=
  match cursor.rest with
  | _ :: '<' :: _ => do
    let (suffix, next) ← tagText true (cursor.skip 2)
    if suffix = "" || next.rest.head? ≠ some '>' then none
    return ("", suffix, next.skip 1)
  | _ => do
    let (handle, next) ← tagHandle cursor
    let (suffix, next) ← tagText false next
    if isHandle handle then
      if suffix = "" then none
      return (handle, suffix, next)
    else
      let suffix := String.ofList (handle.toList.drop 1) ++ suffix
      if suffix = "" then return ("", "!", next) else return ("!", suffix, next)

/-- Read a tag token. A gap has to follow, or inside brackets a comma. -/
def tagToken (inFlow : Bool) (cursor : Cursor) : Option (TokenKind × Cursor) := do
  let (handle, suffix, next) ← tagParts cursor
  if atGap next.rest || (inFlow && next.rest.head? = some ',') then
    return (.tag handle suffix, next)
  none

/-! ## Directives -/

/-- A number of a version: at most nine digits. -/
def versionNumber (cursor : Cursor) : Option (Nat × Cursor) := do
  let digits := cursor.rest.takeWhile Char.isDigit
  let n ← digits? 10 digits
  if 9 < digits.length then none else return (n, cursor.skip digits.length)

def versionDirective (cursor : Cursor) : Option (TokenKind × Cursor) := do
  let (major, next) ← versionNumber (cursor.skipWhile isBlank)
  if next.rest.head? ≠ some '.' then none
  let (minor, next) ← versionNumber (next.skip 1)
  return (.versionDirective major minor, next)

def tagDirective (cursor : Cursor) : Option (TokenKind × Cursor) := do
  let (handle, next) ← tagHandle (cursor.skipWhile isBlank)
  if !(handle = "!" || isHandle handle) then none
  if !next.rest.head?.any isBlank then none
  let (replacement, next) ← tagText true (next.skipWhile isBlank)
  if replacement = "" || !atGap next.rest then none
  return (.tagDirective handle replacement, next)

def directiveToken (cursor : Cursor) : Option (TokenKind × Cursor) := do
  let start := cursor.skip 1
  let name := start.word isWordChar
  let next := start.skipWhile isWordChar
  if name = "" || !atGap next.rest then none
  let (kind, next) ←
    if name = "YAML" then versionDirective next
    else if name = "TAG" then tagDirective next
    else none
  return (kind, ← next.finishLine)

end SharedRing.Yaml
