import ListingQuery.Regex.Atom

/-!
# Text as a pattern

A text is written as a pattern that matches it alone by a backslash before every character that has
a meaning of its own.
-/

namespace ListingQuery.Regex

/-- The text with a backslash before every character that has a meaning in patterns. -/
def escaped (cs : List Char) : List Char :=
  cs.flatMap fun c => if isMeta c then ['\\', c] else [c]

/-- The pattern that matches one character in any case. -/
def anyCase (c : Char) : Pattern := .chars (.folded (.single c))

/-- Any characters within a line. -/
def anyWithinLine : Pattern := .rep (.chars (.complement (.single '\n'))) 0 none

end ListingQuery.Regex
