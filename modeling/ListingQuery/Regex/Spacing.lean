import ListingQuery.Text.Blank

/-!
# Blanks between the tokens of a pattern

A pattern may be written with free spacing: blanks, and comments from a number sign to the end of
the line, then stand between its tokens without meaning.  The functions here take a flag that says
whether they do.
-/

namespace ListingQuery.Regex.Spacing

open Text (isBlank)

/-! ## Algorithm -/

/-- The text behind blanks and comments. -/
def skipBlanks : (inComment : Bool) → List Char → List Char
  | _, [] => []
  | true, c :: cs => skipBlanks (c != '\n') cs
  | false, c :: cs =>
    if isBlank c then skipBlanks false cs
    else if c = '#' then skipBlanks true cs
    else c :: cs

/-- The text behind blanks and comments, if these have no meaning. -/
def skip (spaced : Bool) (cs : List Char) : List Char :=
  if spaced then skipBlanks false cs else cs

/-- The characters that pass the test, up to the first that does not, and the text from there. -/
def gather (spaced : Bool) (keep : Char → Bool) :
    (inComment : Bool) → List Char → List Char × List Char
  | _, [] => ([], [])
  | true, c :: cs => gather spaced keep (c != '\n') cs
  | false, c :: cs =>
    if spaced && isBlank c then gather spaced keep false cs
    else if spaced && c == '#' then gather spaced keep true cs
    else if keep c then
      let r := gather spaced keep false cs
      (c :: r.1, r.2)
    else ([], c :: cs)

/-- The character that comes next where a hyphen has just been seen.  The number sign of a comment
is passed over, but not the text of the comment. -/
def peek (spaced : Bool) (cs : List Char) : Option Char :=
  if spaced then
    match cs.dropWhile isBlank with
    | [] => cs.head?
    | '#' :: rest =>
      match rest.dropWhile isBlank with
      | [] => cs.head?
      | c :: _ => some c
    | c :: _ => some c
  else cs.head?

end ListingQuery.Regex.Spacing
