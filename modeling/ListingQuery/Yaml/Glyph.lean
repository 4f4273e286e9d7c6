/-!
# Text with places

The characters of a YAML text, each with its place.  All line breaks are written as line feeds, but
for the two separators of Unicode, which are breaks of their own.
-/

namespace ListingQuery.Yaml

/-- A character and where it stands, counted from 0. -/
structure Glyph where
  char : Char
  line : Nat
  column : Nat
  /-- The number of characters before it. -/
  index : Nat
  deriving DecidableEq, Repr

/-- Whether a character ends a line. -/
def isBreak (c : Char) : Bool := c == '\n' || c == '\u2028' || c == '\u2029'

/-- Whether a character is a blank within a line. -/
def isSpace (c : Char) : Bool := c == ' ' || c == '\t'

/-- Whether a character is a blank or ends a line. -/
def isSpaceOrBreak (c : Char) : Bool := isSpace c || isBreak c

/-- Whether a character may stand in a text. -/
def isAllowed (c : Char) : Bool :=
  let n := c.toNat
  n == 9 || n == 10 || n == 13 || (0x20 ≤ n && n ≤ 0x7E) || n == 0x85
    || (0xA0 ≤ n && n ≤ 0xFFFD) || 0x10000 ≤ n

/-! ## Algorithm -/

/-- Give the characters their places, from a line, a column and an index on. -/
def place : (line column index : Nat) → List Char → List Glyph
  | _, _, _, [] => []
  | line, column, index, '\r' :: '\n' :: cs =>
    ⟨'\n', line, column, index⟩ :: place (line + 1) 0 (index + 2) cs
  | line, column, index, c :: cs =>
    let c := if c = '\r' ∨ c = '\u0085' then '\n' else c
    ⟨c, line, column, index⟩ ::
      if isBreak c then place (line + 1) 0 (index + 1) cs
      else place line (column + 1) (index + 1) cs

/-- The characters of a text, if all of them are allowed. -/
def glyphs? (text : String) : Option (List Glyph) :=
  if text.toList.all isAllowed then some (place 0 0 0 text.toList) else none

/-- Whether the next character is this one. -/
def startsWith (c : Char) : List Glyph → Bool
  | [] => false
  | g :: _ => g.char == c

/-- Whether a blank, a line break or the end comes next. -/
def atBlank : List Glyph → Bool
  | [] => true
  | g :: _ => isSpaceOrBreak g.char

/-- Whether a line break or the end comes next. -/
def atBreak : List Glyph → Bool
  | [] => true
  | g :: _ => isBreak g.char

/-- The column of the next character. -/
def columnOf? : List Glyph → Option Nat
  | [] => none
  | g :: _ => some g.column

/-- The text behind a mark of three equal characters at the start of a line. -/
def cutMark? (c : Char) : List Glyph → Option (List Glyph)
  | g :: h :: i :: rest =>
    if g.column = 0 ∧ g.char = c ∧ h.char = c ∧ i.char = c ∧ atBlank rest then some rest else none
  | _ => none

/-- Whether a mark of the start or the end of a document comes next. -/
def atDocumentMark (gs : List Glyph) : Bool := (cutMark? '-' gs).isSome || (cutMark? '.' gs).isSome

end ListingQuery.Yaml
