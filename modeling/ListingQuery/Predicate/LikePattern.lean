import ListingQuery.Regex.Escaped
import ListingQuery.Text.Split

/-!
# Like patterns

In a like pattern each percent sign stands for any characters and everything else for itself, in any
case.  A percent sign at either end leaves that end open; one in between stands for characters of one
line.  The pattern is written as a regular expression for stores that have those.
-/

namespace ListingQuery

/-- A like pattern, cut at its percent signs. -/
structure LikePattern where
  /-- Whether the text may start before the first part. -/
  opensFree : Bool
  /-- Whether the text may go on behind the last part. -/
  endsFree : Bool
  /-- The texts between the percent signs. -/
  parts : List (List Char)
  deriving DecidableEq, Repr

namespace LikePattern

/-! ## Algorithm -/

/-- The text before a percent sign at the end, if there is one. -/
def cutEnd? (cs : List Char) : Option (List Char) :=
  match cs.getLast? with
  | some '%' => some cs.dropLast
  | _ => none

/-- Cut a pattern at its percent signs.  A single percent sign leaves the start open only. -/
def ofChars (cs : List Char) : LikePattern :=
  let (opensFree, rest) := match cs with
    | '%' :: rest => (true, rest)
    | _ => (false, cs)
  match cutEnd? rest with
  | some body => ⟨opensFree, true, Text.splitOn '%' body⟩
  | none => ⟨opensFree, false, Text.splitOn '%' rest⟩

/-- The text that matches any characters of a line. -/
def anyText : List Char := ['.', '*']

/-- The parts with the given text between them. -/
def joinParts (sep : List Char) : List (List Char) → List Char
  | [] => []
  | [part] => part
  | part :: parts => part ++ sep ++ joinParts sep parts

/-- The regular expression for the pattern. -/
def regexText (pattern : String) : String :=
  let p := ofChars pattern.toList
  String.ofList (
    (if p.opensFree then anyText else ['^'])
    ++ joinParts anyText (p.parts.map Regex.escaped)
    ++ (if p.endsFree then anyText else ['$']))

/-- The text of one part, in any case. -/
def partRegex (part : List Char) : Regex.Pattern := Regex.Pattern.sequence (part.map Regex.anyCase)

/-- Parts with any characters of a line between them. -/
def partsRegex : List (List Char) → Regex.Pattern
  | [] => .empty
  | [part] => partRegex part
  | part :: parts => .seq (partRegex part) (.seq Regex.anyWithinLine (partsRegex parts))

/-- The regular expression for the pattern, as it is matched. -/
def regex (pattern : String) : Regex.Pattern :=
  let p := ofChars pattern.toList
  .seq (if p.opensFree then Regex.anyWithinLine else .anchor .textStart)
    (.seq (partsRegex p.parts)
      (if p.endsFree then Regex.anyWithinLine else .anchor .textEnd))

/-- Whether a text is like the pattern. -/
def accepts (pattern text : String) : Bool := (regex pattern).search text

end LikePattern

end ListingQuery
