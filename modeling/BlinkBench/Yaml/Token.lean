import BlinkBench.Yaml.Tag
/-!
# Tokens of a YAML text

The pieces a YAML text is made of. Indentation has become tokens of its own: a block collection
starts with a token that is not written, and ends with one.
-/
namespace BlinkBench.Yaml

/-- How a scalar is written. -/
inductive ScalarStyle where
  | plain
  | singleQuoted
  | doubleQuoted
  | literal
  | folded
deriving DecidableEq, Repr

/-- A piece of a YAML text. -/
inductive Token where
  | directive (d : Directive)
  | documentStart
  | documentEnd
  | blockSequenceStart
  | blockMappingStart
  | blockEnd
  | flowSequenceStart
  | flowSequenceEnd
  | flowMappingStart
  | flowMappingEnd
  | blockEntry
  | flowEntry
  | key
  | value
  | alias (name : String)
  | anchor (name : String)
  | tag (t : TagText)
  | scalar (style : ScalarStyle) (text : String)
deriving DecidableEq, Repr

end BlinkBench.Yaml
