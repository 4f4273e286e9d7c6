import ListingQuery.Unicode.Lowercase
import ListingQuery.Unicode.Property

/-!
# Lower-casing

A text is lower-cased character by character, with two exceptions.  Capital I with a dot above
becomes a small i and a combining dot.  Capital sigma becomes the final form of the small letter at
the end of a word: where the nearest character before it that is not case-ignorable is cased and
the nearest such character behind it is not.
-/

namespace ListingQuery.Text

open Unicode

/-! ## Algorithm -/

/-- Whether a character is a letter with case. -/
def isCased (c : Char) : Bool := (Property.binary "Cased").holds c.toNat

/-- Whether a character does not count when the neighbours of a letter are looked at. -/
def isCaseIgnorable (c : Char) : Bool := (Property.binary "Case_Ignorable").holds c.toNat

/-- Whether the first character that is not case-ignorable is cased. -/
def startsCased (cs : List Char) : Bool :=
  match cs.dropWhile isCaseIgnorable with
  | [] => false
  | c :: _ => isCased c

/-- The lower-case form of a character between `before` (nearest first) and `after`. -/
def lowerAt (before : List Char) (c : Char) (after : List Char) : List Char :=
  if c = 'Σ' then
    if startsCased before && !startsCased after then ['ς'] else ['σ']
  else if c = 'İ' then ['i', '\u0307']
  else [Unicode.toLower c]

/-- Lower-case a text that stands behind `before`, whose characters are in reverse. -/
def lowerBehind : (before : List Char) → List Char → List Char
  | _, [] => []
  | before, c :: cs => lowerAt before c cs ++ lowerBehind (c :: before) cs

/-- The lower-case form of a text. -/
def lowerChars (cs : List Char) : List Char := lowerBehind [] cs

/-- The lower-case form of a string. -/
def lower (s : String) : String := String.ofList (lowerChars s.toList)

end ListingQuery.Text
