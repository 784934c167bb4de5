import SharedRing.Yaml.Token

/-!
# Reading a YAML text

A cursor is the part of the text that is still to be read and the place where it starts. The character
classes are those of the YAML standard: five line breaks, of which a pair of carriage return and line
feed counts as one, two blanks, and the word characters of names.
-/

namespace SharedRing.Yaml

def byteOrderMark : Char := '\uFEFF'

/-- Next line, line separator and paragraph separator also break lines. -/
def isBreak (c : Char) : Bool :=
  c = '\n' || c = '\r' || c = '\x85' || c = '\u2028' || c = '\u2029'

def isBlank (c : Char) : Bool := c = ' ' || c = '\t'

/-- The characters of directive names, anchors and tag handles. -/
def isWordChar (c : Char) : Bool :=
  c.isAlphanum || c = '_' || c = '-'

/-- The characters that a YAML text may hold at all. -/
def isAllowed (c : Char) : Bool :=
  let n := c.toNat
  n = 9 || n = 10 || n = 13 || (32 ≤ n && n ≤ 126) || n = 0x85 || (0xA0 ≤ n && n ≤ 0xFFFD)
    || 0x10000 ≤ n

/-- What a line break becomes in the text of a scalar. -/
def breakText (c : Char) : Char :=
  if c = '\u2028' || c = '\u2029' then c else '\n'

/-- Whether a word ends here: at a blank, at a line break, or at the end of the text. -/
def atGap : List Char → Bool
  | [] => true
  | c :: _ => isBlank c || isBreak c

def atLineEnd : List Char → Bool
  | [] => true
  | c :: _ => isBreak c

/-- Whether three marks of one kind that stand alone, `---` or `...`, are next. -/
def startsWithRule (c : Char) : List Char → Bool
  | a :: b :: d :: rest => a = c && b = c && d = c && atGap rest
  | _ => false

/-- Whether a mark that starts or ends a document is next. -/
def atDocumentMark (cs : List Char) : Bool :=
  startsWithRule '-' cs || startsWithRule '.' cs

structure Cursor where
  rest : List Char
  mark : Mark

namespace Cursor

def skip (cursor : Cursor) (n : Nat) : Cursor :=
  ⟨cursor.rest.drop n, cursor.mark.advance n⟩

def skipWhile (cursor : Cursor) (test : Char → Bool) : Cursor :=
  cursor.skip (cursor.rest.takeWhile test).length

def word (cursor : Cursor) (test : Char → Bool) : String :=
  String.ofList (cursor.rest.takeWhile test)

/-- Pass over a line break, and say what it becomes in a scalar. -/
def takeBreak (cursor : Cursor) : List Char × Cursor :=
  match cursor.rest with
  | '\r' :: '\n' :: rest => (['\n'], ⟨rest, cursor.mark.nextLine 2⟩)
  | c :: rest => if isBreak c then ([breakText c], ⟨rest, cursor.mark.nextLine 1⟩) else ([], cursor)
  | [] => ([], cursor)

def skipComment (cursor : Cursor) : Cursor :=
  if cursor.rest.head? = some '#' then cursor.skipWhile (!isBreak ·) else cursor

/-- Pass over what may stand behind a directive or the header of a block scalar: blanks, a comment and
the line break; anything else is an error. -/
def finishLine (cursor : Cursor) : Option Cursor :=
  let after := (cursor.skipWhile isBlank).skipComment
  if atLineEnd after.rest then some after.takeBreak.2 else none

end Cursor

end SharedRing.Yaml
