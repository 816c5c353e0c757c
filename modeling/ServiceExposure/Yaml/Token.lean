/-! # Tokens of YAML

The pieces of a YAML document. Indentation shows as tokens of its own: each block collection has a
start and an end, and a key that is only known by the colon after it is announced by a token in
front of it. -/

namespace ServiceExposure.Yaml

/-- How a scalar is written. -/
inductive Style where
  | plain | quoted | literal | folded
deriving DecidableEq, Repr

inductive Token where
  | version (major minor : Nat)
  /-- A short form for the start of tags. -/
  | shorthand (handle start : String)
  | documentStart
  | documentEnd
  | blockSequence
  | blockMapping
  | blockEnd
  | flowSequence
  | flowSequenceEnd
  | flowMapping
  | flowMappingEnd
  /-- The hyphen in front of an item. -/
  | entry
  | comma
  | key
  | value
  | alias (name : String)
  | anchor (name : String)
  | tag (handle suffix : String)
  | scalar (style : Style) (text : String)
deriving DecidableEq, Repr

end ServiceExposure.Yaml
