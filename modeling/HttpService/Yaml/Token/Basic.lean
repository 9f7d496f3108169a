import HttpService.Octets

/-!
# Tokens of a document

What a document is made of once its indentation has been turned into marks for where a collection starts and
ends.
-/

namespace HttpService.Yaml

/-- How a scalar is written. -/
inductive ScalarStyle where
  | plain
  | single
  | double
  | literal
  | folded
deriving DecidableEq, Repr

/-- A token. -/
inductive Token where
  | version (major minor : Nat)
  | tagDirective (handle : String) (expansion : Octets)
  | documentStart
  | documentEnd
  | blockSequence
  | blockMapping
  | blockEnd
  | flowSequence
  | flowSequenceEnd
  | flowMapping
  | flowMappingEnd
  | blockItem
  | flowItem
  | key
  | value
  | anchor (name : String)
  | alias (name : String)
  | tag (handle : String) (suffix : Octets)
  | scalar (style : ScalarStyle) (text : String)
deriving DecidableEq, Repr

end HttpService.Yaml
