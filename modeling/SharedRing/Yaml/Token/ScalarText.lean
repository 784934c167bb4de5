import SharedRing.Yaml.Token.Cursor

/-!
# Text of scalars

How the three ways of writing a scalar give its text. In plain and quoted scalars the blanks around a
line break are dropped, one line break becomes a space, and of several the first is dropped. A block
scalar keeps its lines, or folds them, and its header says what becomes of the line breaks at its end.
Every function answers `none` where the text breaks the rules.
-/

namespace SharedRing.Yaml

/-! ## Gaps between words -/

/-- What stands between two words of a scalar: blanks within a line, or line breaks. -/
structure Gap where
  /-- The blanks, last one first, as long as no line break came. -/
  blanks : List Char
  first : List Char
  /-- The further line breaks, last one first. -/
  further : List Char
  broken : Bool

def Gap.none : Gap := ⟨[], [], [], false⟩

/-- A gap that starts with a line break that is written off by a backslash. -/
def Gap.escapedBreak : Gap := ⟨[], [], [], true⟩

def Gap.text (gap : Gap) : List Char :=
  if gap.broken then
    if gap.first = ['\n'] then (if gap.further.isEmpty then [' '] else gap.further.reverse)
    else gap.first ++ gap.further.reverse
  else gap.blanks.reverse

def Gap.addBlank (gap : Gap) (c : Char) : Gap :=
  if gap.broken then gap else { gap with blanks := c :: gap.blanks }

def Gap.addBreak (gap : Gap) (c : Char) : Gap :=
  if gap.broken then { gap with further := c :: gap.further }
  else { gap with blanks := [], first := [c], broken := true }

/-- Read a gap. On a new line no tab may stand left of column `tabLimit`. -/
def Gap.read (tabLimit : Nat) : Gap → Mark → List Char → Option (Gap × Cursor)
  | gap, mark, '\r' :: '\n' :: rest => Gap.read tabLimit (gap.addBreak '\n') (mark.nextLine 2) rest
  | gap, mark, c :: rest =>
    if isBlank c then
      if gap.broken && mark.column < tabLimit && c = '\t' then Option.none
      else Gap.read tabLimit (gap.addBlank c) (mark.advance 1) rest
    else if isBreak c then Gap.read tabLimit (gap.addBreak (breakText c)) (mark.nextLine 1) rest
    else some (gap, ⟨c :: rest, mark⟩)
  | gap, mark, [] => some (gap, ⟨[], mark⟩)

/-! ## Plain scalars -/

def isFlowMark (c : Char) : Bool :=
  c = ',' || c = '[' || c = ']' || c = '{' || c = '}'

/-- Read a word of a plain scalar, in front of the characters `read` (last one first). -/
def plainWord (inFlow : Bool) (read : List Char) : Mark → List Char → Option (List Char × Cursor)
  | mark, [] => some (read, ⟨[], mark⟩)
  | mark, c :: rest =>
    if isBlank c || isBreak c then some (read, ⟨c :: rest, mark⟩)
    else if inFlow && c = ':' && rest.head?.any (fun d => isFlowMark d || d = '?') then none
    else if (c = ':' && atGap rest) || (inFlow && isFlowMark c) then some (read, ⟨c :: rest, mark⟩)
    else plainWord inFlow (c :: read) (mark.advance 1) rest

/-- A plain scalar: its text, whether it ended on a later line, and what follows. -/
structure PlainText where
  text : String
  endsOnNewLine : Bool
  next : Cursor

/-- Read the words of a plain scalar; every word takes one of `fuel`. -/
def plainWords (inFlow : Bool) (indent : Nat) :
    Nat → List Char → Gap → Cursor → Option PlainText
  | 0, _, _, _ => none
  | fuel + 1, read, gap, cursor =>
    let finish := fun (text : List Char) (gap : Gap) (next : Cursor) =>
      some ⟨String.ofList text.reverse, gap.broken, next⟩
    if (cursor.mark.column = 0 && atDocumentMark cursor.rest) || cursor.rest.head? = some '#' then
      finish read gap cursor
    else do
      let (word, after) ← plainWord inFlow [] cursor.mark cursor.rest
      let (read, gap) :=
        if word.isEmpty then (read, gap) else (word ++ gap.text.reverse ++ read, Gap.none)
      if after.rest.isEmpty || !atGap after.rest then finish read gap after
      else
        let (gap, next) ← gap.read indent after.mark after.rest
        if !inFlow && next.mark.column < indent then finish read gap next
        else plainWords inFlow indent fuel read gap next

/-- Read a plain scalar. Outside brackets its lines have to be indented to column `indent`. -/
def plainText (inFlow : Bool) (indent : Nat) (cursor : Cursor) : Option PlainText :=
  plainWords inFlow indent (cursor.rest.length + 1) [] Gap.none cursor

/-! ## Quoted scalars -/

def escapes : List (Char × Char) :=
  [('0', '\x00'), ('a', '\x07'), ('b', '\x08'), ('t', '\t'), ('\t', '\t'), ('n', '\n'),
   ('v', '\x0B'), ('f', '\x0C'), ('r', '\r'), ('e', '\x1B'), (' ', ' '), ('"', '"'), ('/', '/'),
   ('\\', '\\'), ('N', '\x85'), ('_', '\xA0'), ('L', '\u2028'), ('P', '\u2029')]

def codeEscapes : List (Char × Nat) := [('x', 2), ('u', 4), ('U', 8)]

/-- The character that an escape stands for, and the number of characters behind the backslash. -/
def escaped? : List Char → Option (Char × Nat)
  | [] => none
  | letter :: rest =>
    match escapes.lookup letter with
    | some c => some (c, 1)
    | none => do
      let count ← codeEscapes.lookup letter
      let digits := rest.take count
      let code ← if digits.length = count then digits? 16 digits else none
      if Nat.isValidChar code then some (Char.ofNat code, 1 + count) else none

/-- Read a word of a quoted scalar up to a gap or the closing quote. The gap that follows is empty, or
has begun with an escaped line break. -/
def quotedWord (quote : Char) : Nat → List Char → Cursor → Option (List Char × Gap × Cursor)
  | 0, _, _ => none
  | fuel + 1, read, cursor =>
    match cursor.rest with
    | [] => some (read, Gap.none, cursor)
    | c :: rest =>
      if isBlank c || isBreak c then some (read, Gap.none, cursor)
      else if c = quote then
        if quote = '\'' && rest.head? = some '\'' then
          quotedWord quote fuel ('\'' :: read) (cursor.skip 2)
        else some (read, Gap.none, cursor)
      else if c = '\\' && quote = '"' then
        if rest.head?.any isBreak then some (read, Gap.escapedBreak, (cursor.skip 1).takeBreak.2)
        else do
          let (d, count) ← escaped? rest
          quotedWord quote fuel (d :: read) (cursor.skip (count + 1))
      else quotedWord quote fuel (c :: read) (cursor.skip 1)

def quotedWords (quote : Char) : Nat → List Char → Cursor → Option (String × Cursor)
  | 0, _, _ => none
  | fuel + 1, read, cursor =>
    if (cursor.mark.column = 0 && atDocumentMark cursor.rest) || cursor.rest.isEmpty then none
    else do
      let (read, gap, after) ← quotedWord quote (cursor.rest.length + 1) read cursor
      if after.rest.head? = some quote then
        return (String.ofList (gap.text.reverse ++ read).reverse, after.skip 1)
      let (gap, next) ← gap.read 0 after.mark after.rest
      quotedWords quote fuel (gap.text.reverse ++ read) next

def quotedText (quote : Char) (cursor : Cursor) : Option (String × Cursor) :=
  quotedWords quote (cursor.rest.length + 1) [] (cursor.skip 1)

/-! ## Block scalars -/

/-- What becomes of the line breaks at the end of a block scalar. -/
inductive Chomping where
  | strip
  | clip
  | keep
deriving DecidableEq, Repr

/-- The header of a block scalar: an indentation digit and a chomping mark, in either order. -/
def blockHeader (cursor : Cursor) : Option (Nat × Chomping × Cursor) :=
  let mark? := fun (c : Cursor) => match c.rest.head? with
    | some '+' => (Chomping.keep, c.skip 1)
    | some '-' => (Chomping.strip, c.skip 1)
    | _ => (Chomping.clip, c)
  let digit? := fun (c : Cursor) => match c.rest.head? with
    | some d => if d = '0' then none else if d.isDigit then some (d.toNat - 48, c.skip 1) else some (0, c)
    | none => some (0, c)
  match mark? cursor with
  | (.clip, _) => do
    let (increment, next) ← digit? cursor
    let (chomping, next) := if increment = 0 then (Chomping.clip, next) else mark? next
    return (increment, chomping, next)
  | (chomping, next) => do
    let (increment, next) ← digit? next
    return (increment, chomping, next)

/-- Pass over indentation and empty lines. With an indentation of zero all spaces at the start of a
line count as indentation, and the deepest one seen is part of the answer: the line breaks (last one
first), that depth, and what follows. -/
def blockBreaks (indent : Nat) :
    List Char → Nat → Mark → List Char → Option (List Char × Nat × Cursor)
  | breaks, deepest, mark, '\r' :: '\n' :: rest =>
    blockBreaks indent ('\n' :: breaks) (max deepest mark.column) (mark.nextLine 2) rest
  | breaks, deepest, mark, c :: rest =>
    let inIndent := indent = 0 || mark.column < indent
    if inIndent && c = ' ' then blockBreaks indent breaks deepest (mark.advance 1) rest
    else if inIndent && c = '\t' then none
    else if isBreak c then
      blockBreaks indent (breakText c :: breaks) (max deepest mark.column) (mark.nextLine 1) rest
    else some (breaks, max deepest mark.column, ⟨c :: rest, mark⟩)
  | breaks, deepest, mark, [] => some (breaks, max deepest mark.column, ⟨[], mark⟩)

/-- What a block scalar has read so far. -/
structure BlockText where
  read : List Char
  ending : List Char
  /-- The empty lines after the last one, last one first. -/
  empty : List Char
  /-- Whether the last line started with a blank. -/
  indented : Bool

def blockLines (fold : Bool) (indent : Nat) :
    Nat → BlockText → Cursor → Option (BlockText × Cursor)
  | 0, _, _ => none
  | fuel + 1, block, cursor =>
    match cursor.rest with
    | [] => some (block, cursor)
    | c :: _ =>
      if cursor.mark.column ≠ indent then some (block, cursor)
      else
        let joins := fold && block.ending = ['\n'] && !block.indented && !isBlank c
        let join := if joins then (if block.empty.isEmpty then [' '] else []) else block.ending
        let line := cursor.rest.takeWhile (!isBreak ·)
        let (ending, after) := (cursor.skip line.length).takeBreak
        do
          let (empty, _, next) ← blockBreaks indent [] 0 after.mark after.rest
          let read := line.reverse ++ (block.empty ++ (join ++ block.read))
          blockLines fold indent fuel ⟨read, ending, empty, isBlank c⟩ next

/-- Read a block scalar from its mark on; `parent` is the column of the collection around it, if there is one. -/
def blockText (fold : Bool) (parent : Option Nat) (cursor : Cursor) : Option (String × Cursor) := do
  let (increment, chomping, next) ← blockHeader (cursor.skip 1)
  let start ← next.finishLine
  let least := match parent with
    | some column => column + 1
    | none => 1
  let stated := if increment = 0 then 0 else parent.getD 0 + increment
  let (empty, deepest, first) ← blockBreaks stated [] 0 start.mark start.rest
  let indent := if stated = 0 then max deepest least else stated
  let (block, after) ←
    blockLines fold indent (first.rest.length + 1) ⟨[], [], empty, false⟩ first
  let tail := match chomping with
    | .strip => []
    | .clip => block.ending
    | .keep => block.empty ++ block.ending
  return (String.ofList (tail ++ block.read).reverse, after)

end SharedRing.Yaml
