import KeyMidi.Yaml.Mark
/-!
# Tokens of YAML text

The token reader cuts YAML text into indicators (`-`, `?`, `:`, `,`, brackets), scalars with
their style, anchors, aliases, tags and document markers, and makes the block structure
explicit with start and end tokens for indented collections.
-/

namespace KeyMidi.Yaml

/-- How a scalar was written. -/
inductive ScalarStyle where
  | plain
  | singleQuoted
  | doubleQuoted
  | literal
  | folded
  deriving Repr, DecidableEq, Inhabited

/-- A tag as the bytes it stands for once handles are expanded and `%` escapes decoded. Tags are
kept as bytes because escapes may spell bytes that are not UTF-8. -/
structure Tag where
  bytes : List UInt8
  deriving Repr, DecidableEq, Inhabited

namespace Tag

/-- A tag spelled by a text. -/
def ofText (s : String) : Tag := ⟨s.toUTF8.toList⟩

/-- A tag of the core schema: `tag:yaml.org,2002:` and a name. -/
def core (name : String) : Tag := ofText ("tag:yaml.org,2002:" ++ name)

/-- A local tag: one that starts with `!`. -/
def isLocal (t : Tag) : Bool := t.bytes.head? == some 33

/-- The name a local tag gives: what follows its `!` (or the `!` itself when nothing follows),
when that is UTF-8 text. -/
def name? (t : Tag) : Option String :=
  match t.bytes with
  | 33 :: rest => String.fromUTF8? (if rest.isEmpty then [33] else rest).toByteArray
  | _ => none

end Tag

/-- The kinds of tokens. -/
inductive TokenKind where
  | streamStart
  | streamEnd
  | versionDirective (major minor : Nat)
  | tagDirective (handle : String) (pfx : List UInt8)
  | documentStart
  | documentEnd
  | blockSequenceStart
  | blockMappingStart
  | blockEnd
  | flowSequenceStart
  | flowSequenceEnd
  | flowMappingStart
  | flowMappingEnd
  | blockEntry
  | flowEntry
  | key
  | value
  | alias (name : String)
  | anchor (name : String)
  | tag (handle : String) (suffix : List UInt8)
  | scalar (text : String) (style : ScalarStyle)
  deriving Repr, DecidableEq, Inhabited

/-- A token with the marks where it starts and ends. -/
structure Token where
  kind : TokenKind
  start : Mark
  stop : Mark
  deriving Repr, Inhabited

end KeyMidi.Yaml
