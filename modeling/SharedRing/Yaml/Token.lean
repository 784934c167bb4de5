import SharedRing.Yaml.Scalar

/-!
# Tokens of a YAML stream

The marks, words and scalars that a YAML text is cut into, each with the place where it starts.
Besides what is written, a token says where a block collection opens (`blockSequenceStart`,
`blockMappingStart`) and closes (`blockEnd`), which the text shows only by indentation, and where a
key without `?` in front of it starts (`key`).
-/

namespace SharedRing.Yaml

/-- A place in the text; all three count from zero. -/
structure Mark where
  index : Nat
  line : Nat
  column : Nat
deriving DecidableEq, Repr

def Mark.start : Mark := ⟨0, 0, 0⟩

def Mark.advance (mark : Mark) (n : Nat) : Mark :=
  { mark with index := mark.index + n, column := mark.column + n }

/-- The start of the next line, after a line break of `n` characters. -/
def Mark.nextLine (mark : Mark) (n : Nat) : Mark :=
  ⟨mark.index + n, mark.line + 1, 0⟩

inductive TokenKind where
  | versionDirective (major minor : Nat)
  | tagDirective (handle replacement : String)
  | documentStart
  | documentEnd
  | streamEnd
  | blockSequenceStart
  | blockMappingStart
  | blockEnd
  | flowSequenceStart
  | flowSequenceEnd
  | flowMappingStart
  | flowMappingEnd
  | blockEntry
  | flowEntry
  | key
  | value
  | alias (name : String)
  | anchor (name : String)
  | tag (handle suffix : String)
  | scalar (text : String) (style : Style)
deriving DecidableEq, Repr

structure Token where
  kind : TokenKind
  mark : Mark
deriving DecidableEq, Repr

/-- The tokens of a text, in order. Where the text is no YAML the tokens end early. -/
structure TokenStream where
  tokens : List Token
  whole : Bool
deriving DecidableEq, Repr

end SharedRing.Yaml
