import HttpBinding.Yaml.Tag

/-!
Tokens of a YAML text. Where a collection in block style starts and ends is a token of
its own, as its indentation tells it.
-/
namespace HttpBinding.Yaml

inductive ScalarStyle where
  | plain | singleQuoted | doubleQuoted | literal | folded
deriving Repr, DecidableEq

inductive Token where
  | version (major minor : Nat)
  | handle (handle : String) (start : Octets)
  | documentStart
  | documentEnd
  | textEnd
  | blockSequence
  | blockMapping
  | blockEnd
  | flowSequence
  | flowSequenceEnd
  | flowMapping
  | flowMappingEnd
  | blockEntry
  | flowEntry
  | key
  | value
  | reference (name : String)
  | anchor (name : String)
  | tag (handle : String) (suffix : Octets)
  | scalar (style : ScalarStyle) (text : String)
deriving Repr, DecidableEq

end HttpBinding.Yaml
