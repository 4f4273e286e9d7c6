import ListingQuery.Yaml.Glyph

/-!
# Scalars

The five ways to write a scalar: plain, in single quotes, in double quotes, and as a block whose
lines are kept or folded.  A reader takes the text behind what marks the scalar and gives its value
and the rest; `none` is a fault.

Where a scalar goes over lines, a single line break stands for a space and of several the first is
dropped.
-/

namespace ListingQuery.Yaml

/-! ## Blanks inside scalars -/

/-- The value of a stretch of blanks and line breaks inside a scalar. -/
def foldedBlanks (stretch : List Char) : List Char :=
  match stretch.filter isBreak with
  | [] => stretch
  | b :: bs => if b = '\n' then (if bs.isEmpty then [' '] else bs) else b :: bs

/-- Whether a tab stands where only the indentation of a line may stand. -/
def hasTabBelow (indent : Nat) (stretch : List Glyph) : Bool :=
  (stretch.dropWhile fun g => !isBreak g.char).any fun g => g.char == '\t' && g.column < indent

/-- The characters of glyphs. -/
def chars (gs : List Glyph) : List Char := gs.map (·.char)

/-- A stretch of blanks and line breaks, and the rest. -/
def spanBlanks (gs : List Glyph) : List Glyph × List Glyph := gs.span fun g => isSpaceOrBreak g.char

/-! ## Plain scalars -/

/-- Whether the character ends plain scalars inside brackets. -/
def isFlowMark (c : Char) : Bool := ",[]\x7b\x7d".toList.contains c

/-- The characters of a plain scalar up to a blank or to what ends it.  Inside brackets a colon may
not stand before a character that would end the scalar. -/
def plainRun (inFlow : Bool) : List Glyph → Option (List Char × List Glyph)
  | [] => some ([], [])
  | g :: gs =>
    if isSpaceOrBreak g.char then some ([], g :: gs)
    else if inFlow && g.char == ':' && gs.head?.any fun h => h.char == '?' || isFlowMark h.char then
      none
    else if (g.char == ':' && atBlank gs) || (inFlow && isFlowMark g.char) then some ([], g :: gs)
    else (plainRun inFlow gs).map fun r => (g.char :: r.1, r.2)

/-- A plain scalar whose lines are indented by `indent` at least; `pending` are the blanks before
what comes next.  The flag says whether a line break stands behind the scalar. -/
def plainText (inFlow : Bool) (indent : Nat) :
    (fuel : Nat) → (pending : List Glyph) → List Glyph → Option (List Char × Bool × List Glyph)
  | 0, _, _ => none
  | fuel + 1, pending, gs =>
    let ended := some ([], pending.any fun g => isBreak g.char, gs)
    if atDocumentMark gs || startsWith '#' gs then ended
    else
      match plainRun inFlow gs with
      | none => none
      | some ([], _) => ended
      | some (run, rest) =>
        let text := foldedBlanks (chars pending) ++ run
        let (blanks, behind) := spanBlanks rest
        if hasTabBelow indent blanks then none
        else if blanks.isEmpty || (!inFlow && (columnOf? behind).all (· < indent)) then
          some (text, blanks.any fun g => isBreak g.char, behind)
        else (plainText inFlow indent fuel blanks behind).map fun r => (text ++ r.1, r.2)

/-! ## Quoted scalars -/

/-- The value of a hexadecimal digit. -/
def hexDigit? (c : Char) : Option Nat :=
  if c.isDigit then some (c.toNat - 0x30)
  else if 'a' ≤ c ∧ c ≤ 'f' then some (c.toNat - 0x61 + 10)
  else if 'A' ≤ c ∧ c ≤ 'F' then some (c.toNat - 0x41 + 10)
  else none

/-- The character that `count` hexadecimal digits stand for; `sofar` is the value of those read. -/
def hexEscape? : (count sofar : Nat) → List Glyph → Option (Char × List Glyph)
  | 0, n, gs =>
    if n < 0xD800 ∨ (0xDFFF < n ∧ n < 0x110000) then some (Char.ofNat n, gs) else none
  | _ + 1, _, [] => none
  | count + 1, n, g :: gs =>
    match hexDigit? g.char with
    | some d => hexEscape? count (16 * n + d) gs
    | none => none

/-- The characters that a backslash and one more character stand for. -/
def escapes : List (Char × Char) := [
  ('0', '\x00'), ('a', '\x07'), ('b', '\x08'), ('t', '\t'), ('\t', '\t'), ('n', '\n'),
  ('v', '\x0b'), ('f', '\x0c'), ('r', '\r'), ('e', '\x1b'), (' ', ' '), ('"', '"'), ('/', '/'),
  ('\\', '\\'), ('N', '\u0085'), ('_', '\u00a0'), ('L', '\u2028'), ('P', '\u2029')]

/-- How many hexadecimal digits follow a backslash and this character. -/
def hexDigitsAfter? (c : Char) : Option Nat :=
  [('x', 2), ('u', 4), ('U', 8)].lookup c

/-- What a backslash stands for, and the rest; the text given is that behind it. -/
def readEscape (gs : List Glyph) : Option (Char × List Glyph) :=
  match gs with
  | [] => none
  | g :: rest =>
    match escapes.lookup g.char, hexDigitsAfter? g.char with
    | some c, _ => some (c, rest)
    | none, some count => hexEscape? count 0 rest
    | none, none => none

/-- A scalar in quotes, behind the opening quote.  A backslash at the end of a line, in double
quotes, takes the line break away. -/
def quotedText (quote : Char) : (fuel : Nat) → List Glyph → Option (List Char × List Glyph)
  | 0, _ => none
  | _ + 1, [] => none
  | fuel + 1, g :: gs =>
    if atDocumentMark (g :: gs) then none
    else if isSpaceOrBreak g.char then
      let (blanks, rest) := spanBlanks (g :: gs)
      (quotedText quote fuel rest).map fun r => (foldedBlanks (chars blanks) ++ r.1, r.2)
    else if g.char = quote then
      if quote = '\'' ∧ startsWith quote gs then
        (quotedText quote fuel (gs.drop 1)).map fun r => (quote :: r.1, r.2)
      else some ([], gs)
    else if quote = '"' ∧ g.char = '\\' then
      if !gs.isEmpty ∧ atBreak gs then
        let (blanks, rest) := spanBlanks (gs.drop 1)
        (quotedText quote fuel rest).map fun r => ((chars blanks).filter isBreak ++ r.1, r.2)
      else
        match readEscape gs with
        | none => none
        | some (c, rest) => (quotedText quote fuel rest).map fun r => (c :: r.1, r.2)
    else (quotedText quote fuel gs).map fun r => (g.char :: r.1, r.2)

/-! ## Block scalars -/

/-- What happens to the line breaks at the end of a block. -/
inductive Chomping where
  | strip
  | clip
  | keep
  deriving DecidableEq, Repr

/-- What a character says about the line breaks at the end. -/
def chomping? : List Glyph → Option (Chomping × List Glyph)
  | [] => none
  | g :: gs =>
    if g.char = '+' then some (.keep, gs) else if g.char = '-' then some (.strip, gs) else none

/-- A number of columns, from 1 to 9. -/
def columns? : List Glyph → Option (Nat × List Glyph)
  | [] => none
  | g :: gs => if '1' ≤ g.char ∧ g.char ≤ '9' then some (g.char.toNat - 0x30, gs) else none

/-- The header of a block: how it ends and by how many columns it is indented, in any order. -/
def blockHeader (gs : List Glyph) : Chomping × Option Nat × List Glyph :=
  match chomping? gs with
  | some (chomping, rest) =>
    match columns? rest with
    | some (n, rest) => (chomping, some n, rest)
    | none => (chomping, none, rest)
  | none =>
    match columns? gs with
    | some (n, rest) =>
      match chomping? rest with
      | some (chomping, rest) => (chomping, some n, rest)
      | none => (.clip, some n, rest)
    | none => (.clip, none, gs)

/-- The rest of a line that may hold a comment; anything else there is a fault. -/
def skipLineEnd (gs : List Glyph) : Option (List Glyph) :=
  let rest := gs.dropWhile fun g => isSpace g.char
  let rest := if startsWith '#' rest then rest.dropWhile fun g => !isBreak g.char else rest
  if atBreak rest then some (rest.drop 1) else none

/-- The empty lines that come next and the indentation of the line behind them; without a given
indentation all blanks belong to it, and the widest column comes along. -/
def blockBreaks (indent? : Option Nat) :
    (widest : Nat) → List Glyph → Option (List Char × Nat × List Glyph)
  | widest, [] => some ([], widest, [])
  | widest, g :: gs =>
    let inIndent := indent?.all (g.column < ·)
    if inIndent && g.char == ' ' then blockBreaks indent? (max widest (g.column + 1)) gs
    else if inIndent && g.char == '\t' then none
    else if isBreak g.char then
      (blockBreaks indent? (max widest g.column) gs).map fun r => (g.char :: r.1, r.2)
    else some ([], max widest g.column, g :: gs)

/-- What stands between two lines of a block. -/
def lineGap (folds : Bool) (breaks empties : List Char) : List Char :=
  if folds && breaks == ['\n'] then (if empties.isEmpty then [' '] else empties)
  else breaks ++ empties

/-- The lines of a block: its value without the end, the break of the last line, and the empty lines
behind it.  `breaks` and `empties` stand before the next line, `wasBlank` says whether the last one
started with a blank. -/
def blockLines (folded : Bool) (indent : Nat) :
    (fuel : Nat) → (breaks empties : List Char) → (wasBlank : Bool) → List Glyph →
    Option (List Char × List Char × List Char × List Glyph)
  | 0, _, _, _, _ => none
  | _ + 1, breaks, empties, _, [] => some ([], breaks, empties, [])
  | fuel + 1, breaks, empties, wasBlank, g :: gs =>
    if g.column ≠ indent then some ([], breaks, empties, g :: gs)
    else
      let isBlank := isSpace g.char
      let gap := lineGap (folded && !wasBlank && !isBlank) breaks empties
      let (line, rest) := (g :: gs).span fun h => !isBreak h.char
      match blockBreaks (some indent) 0 (rest.drop 1) with
      | none => none
      | some (empties, _, behind) =>
        (blockLines folded indent fuel (chars (rest.take 1)) empties isBlank behind).map
          fun r => (gap ++ chars line ++ r.1, r.2)

/-- A block scalar, behind its mark; `outer` is the indentation around it, if there is any. -/
def blockText (folded : Bool) (outer : Option Nat) (gs : List Glyph) :
    Option (List Char × List Glyph) := do
  let (chomping, columns?, rest) := blockHeader gs
  let rest ← skipLineEnd rest
  let given? := columns?.map (outer.getD 0 + ·)
  let (empties, widest, rest) ← blockBreaks given? 0 rest
  let least := match outer with
    | some n => n + 1
    | none => 1
  let indent := given?.getD (max widest least)
  let (text, breaks, empties, rest) ← blockLines folded indent (rest.length + 1) [] empties false rest
  let ending := match chomping with
    | .strip => []
    | .clip => breaks
    | .keep => breaks ++ empties
  some (text ++ ending, rest)

end ListingQuery.Yaml
