import Placeholder.Yaml.Token.Basic

namespace Placeholder.Yaml

structure Properties where
  anchor : Option Text := none
  tag : Option Uri := none
  deriving DecidableEq

inductive Event : Type
  | alias : Text → Event
  | scalar : Properties → Text → Style → Event
  | sequenceStart : Properties → Event
  | sequenceEnd : Event
  | mappingStart : Properties → Event
  | mappingEnd : Event
  deriving DecidableEq

structure Located where
  event : Event
  mark : Mark
  deriving DecidableEq

inductive Place : Type
  | node : Place
  | content : Place
  | sequenceFirst : Place
  | sequenceEntry : Place
  | flushEntry : Place
  | mappingFirst : Place
  | mappingKey : Place
  | mappingValue : Place
  | flowSequenceFirst : Place
  | flowSequenceEntry : Place
  | pairKey : Place
  | pairValue : Place
  | pairEnd : Place
  | flowMappingFirst : Place
  | flowMappingKey : Place
  | flowMappingValue : Place
  /-- Behind a key of a flow mapping that no colon may follow. -/
  | flowMappingNoValue : Place
  deriving DecidableEq

end Placeholder.Yaml
