/-!
# Tokens

What a YAML text consists of.  Block collections have no brackets: their starts and ends are tokens
that indentation makes.
-/

namespace ListingQuery.Yaml

/-- How a scalar is written, as far as that bears on its meaning. -/
inductive Style where
  | plain
  /-- A block whose lines are kept. -/
  | literal
  | other
  deriving DecidableEq, Repr

/-- A token. -/
inductive Token where
  | version (major minor : Nat)
  | tagHandle (handle base : List Char)
  | documentStart
  | documentEnd
  | blockSequenceStart
  | blockMappingStart
  | blockEnd
  | flowSequenceStart
  | flowSequenceEnd
  | flowMappingStart
  | flowMappingEnd
  | blockEntry
  | flowEntry
  | key
  | value
  | alias (name : List Char)
  | anchor (name : List Char)
  | tag (handle suffix : List Char)
  | scalar (text : String) (style : Style)
  deriving DecidableEq, Repr

end ListingQuery.Yaml
