import KeyMidi.Yaml.Token
/-!
# Events of a YAML stream

The event reader turns tokens into a flat description of the documents: where a collection
starts and ends, each scalar with its style, anchor and tag, and each alias. Every event carries
the mark where it starts; an empty node (a key with no value, say) is an empty plain scalar.
-/

namespace KeyMidi.Yaml

/-- What an event says. -/
inductive EventKind where
  | streamStart
  | streamEnd
  | documentStart (implicit : Bool)
  | documentEnd
  | alias (name : String)
  | scalar (anchor : Option String) (tag : Option Tag) (text : String) (style : ScalarStyle)
  | sequenceStart (anchor : Option String) (tag : Option Tag) (flow : Bool)
  | sequenceEnd
  | mappingStart (anchor : Option String) (tag : Option Tag) (flow : Bool)
  | mappingEnd
  deriving Repr, DecidableEq, Inhabited

/-- An event with the mark where it starts. -/
structure Event where
  kind : EventKind
  start : Mark
  deriving Repr, Inhabited

end KeyMidi.Yaml
