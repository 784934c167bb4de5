import SharedRing.Yaml.Token.ScalarText
import SharedRing.Yaml.Token.Property

/-!
# Cutting a YAML text into tokens

A key need not be marked before it starts: only the `:` behind it shows that it was one. So every token
that could start such a key is remembered, per level of brackets, and when the `:` comes a `key` token
is put in front of it, and in front of that a `blockMappingStart` if the key opens a mapping. A
remembered key is given up at the end of its line or after 1024 characters; one that stands at the
column of its mapping has to be a key.

`tokens` runs the lexer to the end. A token leaves the queue once no remembered key could still be put
in front of it, so a fault in the text takes with it exactly the tokens that were still undecided.
-/

namespace SharedRing.Yaml

/-- A token that may turn out to start a key. -/
structure PossibleKey where
  number : Nat
  mark : Mark
  /-- Whether nothing but a key is allowed here. -/
  required : Bool

structure Lexer where
  cursor : Cursor
  /-- The possible key of each level of brackets, innermost first. -/
  keys : List (Option PossibleKey)
  /-- Columns of the open block collections, innermost first. -/
  indents : List Nat
  keyAllowed : Bool
  /-- Tokens read but not released. -/
  queue : List Token
  /-- Number of tokens released. -/
  released : Nat
  ended : Bool

namespace Lexer

def start (text : List Char) : Lexer :=
  { cursor := ⟨text, Mark.start⟩, keys := [none], indents := [], keyAllowed := true, queue := [],
    released := 0, ended := false }

def inFlow (lexer : Lexer) : Bool := decide (1 < lexer.keys.length)

def column (lexer : Lexer) : Nat := lexer.cursor.mark.column

def enqueue (lexer : Lexer) (kind : TokenKind) (mark : Mark) : Lexer :=
  { lexer with queue := lexer.queue ++ [⟨kind, mark⟩] }

/-- Put a token in front of the one with a given number. -/
def insert (lexer : Lexer) (number : Nat) (kind : TokenKind) (mark : Mark) : Lexer :=
  let place := number - lexer.released
  { lexer with queue := lexer.queue.take place ++ ⟨kind, mark⟩ :: lexer.queue.drop place }

/-- Pass over `n` characters and put the token they make into the queue. -/
def take (lexer : Lexer) (n : Nat) (kind : TokenKind) : Lexer :=
  { lexer with cursor := lexer.cursor.skip n }.enqueue kind lexer.cursor.mark

/-! ## Possible keys -/

def isStale (mark : Mark) (key : PossibleKey) : Bool :=
  key.mark.line < mark.line || key.mark.index + 1024 < mark.index

/-- Give up the possible keys that are too far back; a required one must not be given up. -/
def dropStale (lexer : Lexer) : Option Lexer :=
  let stale := fun key? => Option.any (isStale lexer.cursor.mark) key?
  if lexer.keys.any fun key? => stale key? && key?.any (·.required) then none
  else some { lexer with keys := lexer.keys.map fun key? => if stale key? then none else key? }

def dropKey (lexer : Lexer) : Option Lexer :=
  match lexer.keys with
  | some key :: outer => if key.required then none else some { lexer with keys := none :: outer }
  | _ => some lexer

def saveKey (lexer : Lexer) : Option Lexer :=
  if !lexer.keyAllowed then some lexer
  else do
    let lexer ← lexer.dropKey
    let key : PossibleKey :=
      { number := lexer.released + lexer.queue.length
        mark := lexer.cursor.mark
        required := !lexer.inFlow && lexer.indents.head? = some lexer.column }
    return { lexer with keys := some key :: lexer.keys.drop 1 }

/-! ## Indentation -/

/-- Open a block collection at a column if that is deeper than the one around it; `number` is that of
the token it starts in front of. -/
def openBlock (lexer : Lexer) (column : Nat) (number : Option Nat) (kind : TokenKind)
    (mark : Mark) : Lexer :=
  if lexer.inFlow || lexer.indents.head?.any (column ≤ ·) then lexer
  else
    let lexer := { lexer with indents := column :: lexer.indents }
    match number with
    | some n => lexer.insert n kind mark
    | none => lexer.enqueue kind mark

/-- Close the block collections that are deeper than a column, or all of them. -/
def closeBlocks (lexer : Lexer) (column : Option Nat) : Lexer :=
  if lexer.inFlow then lexer
  else
    let deeper := fun (indent : Nat) => column.all (· < indent)
    let closed := lexer.indents.takeWhile deeper
    { lexer with
      indents := lexer.indents.dropWhile deeper
      queue := lexer.queue ++ closed.map fun _ => ⟨.blockEnd, lexer.cursor.mark⟩ }

/-! ## Reading one token -/

/-- Pass over blanks, comments and line breaks, one line for one of `fuel`. A tab is no indentation. A
line break allows a key again. -/
def skipGaps : Nat → Lexer → Lexer
  | 0, lexer => lexer
  | fuel + 1, lexer =>
    let start :=
      if lexer.cursor.mark.index = 0 && lexer.cursor.rest.head? = some byteOrderMark then
        lexer.cursor.skip 1
      else lexer.cursor
    let tabs := lexer.inFlow || !lexer.keyAllowed
    let next := (start.skipWhile fun c => c = ' ' || (tabs && c = '\t')).skipComment
    if next.rest.isEmpty || !atLineEnd next.rest then { lexer with cursor := next }
    else
      skipGaps fuel
        { lexer with cursor := next.takeBreak.2, keyAllowed := !lexer.inFlow || lexer.keyAllowed }

/-- The end of the text closes everything. -/
def fetchStreamEnd (lexer : Lexer) : Option Lexer := do
  let mark := lexer.cursor.mark
  let mark := if mark.column = 0 then mark else ⟨mark.index, mark.line + 1, 0⟩
  let lexer ← ({ lexer with cursor := ⟨[], mark⟩ }.closeBlocks none).dropKey
  return { lexer with keyAllowed := false, ended := true }.enqueue .streamEnd mark

def fetchDirective (lexer : Lexer) : Option Lexer := do
  let lexer ← (lexer.closeBlocks none).dropKey
  let (kind, next) ← directiveToken lexer.cursor
  return { lexer with keyAllowed := false, cursor := next }.enqueue kind lexer.cursor.mark

def fetchDocumentMark (lexer : Lexer) (kind : TokenKind) : Option Lexer := do
  let lexer ← (lexer.closeBlocks none).dropKey
  return { lexer with keyAllowed := false }.take 3 kind

def fetchFlowStart (lexer : Lexer) (kind : TokenKind) : Option Lexer := do
  let lexer ← lexer.saveKey
  return { lexer with keyAllowed := true, keys := none :: lexer.keys }.take 1 kind

def fetchFlowEnd (lexer : Lexer) (kind : TokenKind) : Option Lexer := do
  let lexer ← lexer.dropKey
  let keys := if lexer.inFlow then lexer.keys.drop 1 else lexer.keys
  return { lexer with keyAllowed := false, keys }.take 1 kind

def fetchFlowEntry (lexer : Lexer) : Option Lexer := do
  let lexer ← lexer.dropKey
  return { lexer with keyAllowed := true }.take 1 .flowEntry

def fetchBlockEntry (lexer : Lexer) : Option Lexer := do
  if !lexer.inFlow && !lexer.keyAllowed then none
  let lexer ← (lexer.openBlock lexer.column none .blockSequenceStart lexer.cursor.mark).dropKey
  return { lexer with keyAllowed := true }.take 1 .blockEntry

def fetchKey (lexer : Lexer) : Option Lexer := do
  if !lexer.inFlow && !lexer.keyAllowed then none
  let lexer ← (lexer.openBlock lexer.column none .blockMappingStart lexer.cursor.mark).dropKey
  return { lexer with keyAllowed := !lexer.inFlow }.take 1 .key

/-- A `:` turns the possible key of this level into a key. -/
def fetchValue (lexer : Lexer) : Option Lexer :=
  match lexer.keys with
  | some key :: outer =>
    let marked := { lexer with keys := none :: outer, keyAllowed := false }.insert key.number .key key.mark
    some ((marked.openBlock key.mark.column (some key.number) .blockMappingStart key.mark).take 1 .value)
  | _ =>
    if !lexer.inFlow && !lexer.keyAllowed then none
    else
      let opened := lexer.openBlock lexer.column none .blockMappingStart lexer.cursor.mark
      some ({ opened with keyAllowed := !lexer.inFlow }.take 1 .value)

/-- Read a token that may start a key; it may not be followed by another key on its line. -/
def fetchKeyable (lexer : Lexer) (read : Cursor → Option (TokenKind × Cursor)) : Option Lexer := do
  let lexer ← lexer.saveKey
  let (kind, next) ← read lexer.cursor
  return { lexer with keyAllowed := false, cursor := next }.enqueue kind lexer.cursor.mark

def fetchAnchor (lexer : Lexer) (kind : String → TokenKind) : Option Lexer :=
  lexer.fetchKeyable fun cursor => (anchorName cursor).map fun (name, next) => (kind name, next)

def fetchQuoted (lexer : Lexer) (quote : Char) : Option Lexer :=
  lexer.fetchKeyable fun cursor =>
    (quotedText quote cursor).map fun (text, next) => (.scalar text .quoted, next)

def fetchBlockScalar (lexer : Lexer) (fold : Bool) : Option Lexer := do
  let lexer ← lexer.dropKey
  let (text, next) ← blockText fold lexer.indents.head? lexer.cursor
  let style := if fold then Style.folded else Style.literal
  return { lexer with keyAllowed := true, cursor := next }.enqueue (.scalar text style) lexer.cursor.mark

/-- A plain scalar that ended on a later line leaves room for a key. -/
def fetchPlain (lexer : Lexer) : Option Lexer := do
  let lexer ← lexer.saveKey
  let indent := match lexer.indents with
    | [] => 0
    | column :: _ => column + 1
  let plain ← plainText lexer.inFlow indent lexer.cursor
  return { lexer with keyAllowed := plain.endsOnNewLine, cursor := plain.next }.enqueue
    (.scalar plain.text .plain) lexer.cursor.mark

/-- The marks that no plain scalar starts with. -/
def isIndicator (c : Char) : Bool :=
  c ∈ ['-', '?', ':', ',', '[', ']', '{', '}', '#', '&', '*', '!', '|', '>', '\'', '"', '%', '@',
    Char.ofNat 96]

def startsPlain (lexer : Lexer) (c : Char) (rest : List Char) : Bool :=
  !(isIndicator c || isBlank c)
    || (c = '-' && !rest.head?.any isBlank)
    || (!lexer.inFlow && (c = '?' || c = ':') && !atGap rest)

def fetchToken (lexer : Lexer) (c : Char) (rest : List Char) : Option Lexer :=
  let text := c :: rest
  let opensPair := lexer.inFlow || atGap rest
  if lexer.column = 0 && c = '%' then lexer.fetchDirective
  else if lexer.column = 0 && startsWithRule '-' text then lexer.fetchDocumentMark .documentStart
  else if lexer.column = 0 && startsWithRule '.' text then lexer.fetchDocumentMark .documentEnd
  else if c = '[' then lexer.fetchFlowStart .flowSequenceStart
  else if c = '{' then lexer.fetchFlowStart .flowMappingStart
  else if c = ']' then lexer.fetchFlowEnd .flowSequenceEnd
  else if c = '}' then lexer.fetchFlowEnd .flowMappingEnd
  else if c = ',' then lexer.fetchFlowEntry
  else if c = '-' && atGap rest then lexer.fetchBlockEntry
  else if c = '?' && opensPair then lexer.fetchKey
  else if c = ':' && opensPair then lexer.fetchValue
  else if c = '*' then lexer.fetchAnchor .alias
  else if c = '&' then lexer.fetchAnchor .anchor
  else if c = '!' then lexer.fetchKeyable (tagToken lexer.inFlow)
  else if c = '|' && !lexer.inFlow then lexer.fetchBlockScalar false
  else if c = '>' && !lexer.inFlow then lexer.fetchBlockScalar true
  else if c = '\'' || c = '"' then lexer.fetchQuoted c
  else if lexer.startsPlain c rest then lexer.fetchPlain
  else none

/-- Read the next token, and the block ends in front of it. -/
def fetch (lexer : Lexer) : Option Lexer := do
  let lexer := lexer.skipGaps (lexer.cursor.rest.length + 1)
  let lexer ← lexer.dropStale
  let lexer := lexer.closeBlocks (some lexer.column)
  match lexer.cursor.rest with
  | [] => lexer.fetchStreamEnd
  | c :: rest => lexer.fetchToken c rest

/-- Release tokens and read on in turns, until the text ends or breaks the rules. -/
def run : Nat → Lexer → List Token → TokenStream
  | 0, _, out => ⟨out.reverse, false⟩
  | fuel + 1, lexer, out =>
    let readOn := fun (lexer : Lexer) => match lexer.fetch with
      | some next => run fuel next out
      | none => ⟨out.reverse, false⟩
    match lexer.queue with
    | [] => if lexer.ended then ⟨out.reverse, true⟩ else readOn lexer
    | token :: queue =>
      match lexer.dropStale with
      | none => ⟨out.reverse, false⟩
      | some lexer =>
        if lexer.keys.any fun key? => key?.any (·.number = lexer.released) then readOn lexer
        else run fuel { lexer with queue, released := lexer.released + 1 } (token :: out)

end Lexer

/-- The tokens of a text. A text with a character that YAML does not allow has none. -/
def tokens (text : String) : TokenStream :=
  let cs := text.toList
  if cs.all isAllowed then (Lexer.start cs).run (8 * cs.length + 32) [] else ⟨[], false⟩

end SharedRing.Yaml
