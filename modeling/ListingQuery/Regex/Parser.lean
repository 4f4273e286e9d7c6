import ListingQuery.Regex.Bracket

/-!
# Reading patterns

A pattern is read from left to right with a stack of open groups.  Flags hold from where they are
set to the end of their group.  A pattern is refused if it is ill formed, nests too deeply, or would
take too much room.
-/

namespace ListingQuery.Regex

/-- A part of a pattern that has been read. -/
structure Piece where
  pattern : Pattern
  /-- How deeply groups, repetitions, sequences, choices and brackets nest in it. -/
  height : Nat
  /-- Flags stand among the parts, but cannot be repeated. -/
  repeatable : Bool := true

/-- A group that has not been closed yet; the whole pattern counts as one. -/
structure OpenGroup where
  /-- The flags in force around the group. -/
  outer : Flags
  /-- The alternatives before the last bar, the last first. -/
  alternatives : List Piece := []
  /-- The parts behind the last bar, the last first. -/
  parts : List Piece := []

/-- How far reading has come. -/
structure Progress where
  flags : Flags := {}
  /-- The names that groups have. -/
  names : List (List Char) := []
  /-- The groups around the innermost. -/
  outer : List OpenGroup := []
  group : OpenGroup := ⟨{}, [], []⟩

/-- The deepest nesting that is accepted. -/
def heightLimit : Nat := 250

namespace Piece

/-- The height of something around these pieces. -/
def heightAround (ps : List Piece) : Nat := (ps.map (·.height)).foldl max 0 + 1

/-- Pieces one after the other; they come with the last first. -/
def sequence (ps : List Piece) : Piece :=
  match ps with
  | [] => ⟨.empty, 0, true⟩
  | [p] => p
  | ps => ⟨.sequence (ps.reverse.map (·.pattern)), heightAround ps, true⟩

/-- A choice between pieces; they come with the last first. -/
def choice (ps : List Piece) : Piece :=
  match ps.reverse with
  | [] => ⟨.empty, 0, true⟩
  | [p] => p
  | p :: rest => ⟨.anyOf p.pattern (rest.map (·.pattern)), heightAround ps, true⟩

end Piece

namespace OpenGroup

/-- The contents of the group. -/
def contents (g : OpenGroup) : Piece := Piece.choice (Piece.sequence g.parts :: g.alternatives)

/-- Go on behind a bar. -/
def withBar (g : OpenGroup) : OpenGroup :=
  { g with alternatives := Piece.sequence g.parts :: g.alternatives, parts := [] }

/-- Add a part. -/
def add (g : OpenGroup) (p : Piece) : OpenGroup := { g with parts := p :: g.parts }

/-- Repeat the last part. -/
def repeatLast (g : OpenGroup) (min : Nat) (max? : Option Nat) : Option OpenGroup :=
  match g.parts with
  | [] => none
  | p :: ps =>
    if !p.repeatable then none
    else some { g with parts := ⟨.rep p.pattern min max?, p.height + 1, true⟩ :: ps }

end OpenGroup

/-! ## Atoms outside brackets -/

/-- The pattern of an atom.  Without Unicode, a byte that is no character cannot be matched. -/
def Atom.pattern? (f : Flags) : Atom → Option Pattern
  | .char c isByte =>
    if f.unicode then some (.chars (f.fold (.single c)))
    else if c.toNat < 0x80 then some (.chars (f.fold (.single c)))
    else if isByte then none
    else some (.chars (.single c))
  | .set s => some (.chars s)
  | .anchor a => some (.anchor a)

/-- Any character but the end of a line. -/
def dotSet (f : Flags) : Option CharSet :=
  if !f.unicode then none
  else if f.dotAll then some .all
  else if f.returns then some (.complement (.union (.single '\n') (.single '\r')))
  else some (.complement (.single '\n'))

/-- An escape, a sign with a meaning, or a character standing for itself. -/
def readAtom (f : Flags) : List Char → Option (Pattern × List Char)
  | [] => none
  | '\\' :: cs => do
    let (atom, rest) ← readEscape f cs
    let p ← atom.pattern? f
    some (p, rest)
  | '.' :: cs => (dotSet f).map fun s => (.chars s, cs)
  | '^' :: cs => some (.anchor (if f.multiLine then .lineStart f.returns else .textStart), cs)
  | '$' :: cs => some (.anchor (if f.multiLine then .lineEnd f.returns else .textEnd), cs)
  | c :: cs => ((Atom.char c false).pattern? f).map fun p => (p, cs)

/-! ## Repetition -/

/-- A number that fits 32 bits; blanks around it do not count. -/
def readCount (spaced : Bool) (cs : List Char) : Option (Nat × List Char) :=
  let (digits, rest) := Spacing.gather spaced Char.isDigit false (cs.dropWhile Text.isBlank)
  let n := decimal digits
  if digits.isEmpty || Nat.pow 2 32 ≤ n then none
  else some (n, Spacing.skip spaced (rest.dropWhile Text.isBlank))
where
  /-- The number written by decimal digits. -/
  decimal (digits : List Char) : Nat :=
    digits.foldl (fun n c => 10 * n + (c.toNat - 0x30)) 0

/-- The bounds of a repetition, behind the opening brace. -/
def readBounds (spaced : Bool) (cs : List Char) : Option ((Nat × Option Nat) × List Char) := do
  let (min, rest) ← readCount spaced (Spacing.skip spaced cs)
  match rest with
  | '\x7d' :: rest => some ((min, some min), rest)
  | ',' :: rest =>
    match Spacing.skip spaced rest with
    | '\x7d' :: rest => some ((min, none), rest)
    | rest => do
      let (max, rest) ← readCount spaced rest
      match rest with
      | '\x7d' :: rest => if min ≤ max then some ((min, some max), rest) else none
      | _ => none
  | _ => none

/-- The text behind the sign for lazy matching, which changes no answer. -/
def skipLazy (cs : List Char) : List Char :=
  match cs with
  | '?' :: rest => rest
  | _ => cs

/-! ## Groups -/

/-- Flags up to the character that ends them: which, and what they make of the flags in force; the
number of flags read comes along. -/
def readFlags : (on : Bool) → (seen : List Char) → Flags → List Char →
    Option (List Char × Char × Flags × List Char)
  | _, _, _, [] => none
  | on, seen, f, c :: cs =>
    if c = ':' ∨ c = ')' then
      if seen.head? == some '-' then none else some (seen, c, f, cs)
    else if seen.contains c then none
    else if c = '-' then readFlags false ('-' :: seen) f cs
    else
      match f.set? c on with
      | none => none
      | some f => readFlags on (c :: seen) f cs

/-- Whether the character may stand in the name of a group. -/
def isNameChar (first : Bool) (c : Char) : Bool :=
  let alphabetic := (Unicode.Property.binary "Alphabetic").holds c.toNat
  if first then c == '_' || alphabetic
  else c == '_' || c == '.' || c == '[' || c == ']' || alphabetic
    || (Unicode.Property.category ["Nd", "Nl", "No"]).holds c.toNat

/-- The name of a group, up to the closing angle bracket. -/
def readName (cs : List Char) : Option (List Char × List Char) :=
  let name := cs.takeWhile (· != '>')
  match name, cs.drop name.length with
  | first :: more, _ :: rest =>
    if isNameChar true first && more.all (isNameChar false) then some (name, rest) else none
  | _, _ => none

/-- Open a group with these flags. -/
def Progress.openGroup (st : Progress) (f : Flags) : Progress :=
  { st with flags := f, outer := st.group :: st.outer, group := ⟨st.flags, [], []⟩ }

/-- Open a group with a name that no other group has. -/
def readNamedGroup (st : Progress) (cs : List Char) : Option (Progress × List Char) := do
  let (name, rest) ← readName cs
  if st.names.contains name then none
  else some ({ st with names := name :: st.names }.openGroup st.flags, rest)

/-- What follows an opening parenthesis: a group, or flags for the rest of this one.  Looking ahead
or behind is not part of the language. -/
def readGroup (st : Progress) (cs : List Char) : Option (Progress × List Char) :=
  match Spacing.skip st.flags.spaced cs with
  | '?' :: '=' :: _ => none
  | '?' :: '!' :: _ => none
  | '?' :: '<' :: '=' :: _ => none
  | '?' :: '<' :: '!' :: _ => none
  | '?' :: 'P' :: '<' :: cs => readNamedGroup st cs
  | '?' :: '<' :: cs => readNamedGroup st cs
  | '?' :: cs =>
    match readFlags true [] st.flags cs with
    | none => none
    | some (seen, ending, f, rest) =>
      if ending = ':' then some (st.openGroup f, rest)
      else if seen.isEmpty then none
      else some ({ st with flags := f, group := st.group.add ⟨.empty, 0, false⟩ }, rest)
  | cs => some (st.openGroup st.flags, cs)

/-- Close the innermost group. -/
def Progress.closeGroup (st : Progress) : Option Progress :=
  match st.outer with
  | [] => none
  | g :: outer =>
    let inner := st.group.contents
    some { st with
      flags := st.group.outer
      outer := outer
      group := g.add ⟨inner.pattern, inner.height + 1, true⟩ }

/-! ## Algorithm -/

/-- Read one token; it takes at least one character. -/
def readToken (st : Progress) (c : Char) (cs : List Char) : Option (Progress × List Char) :=
  let repeated (min : Nat) (max? : Option Nat) (rest : List Char) : Option (Progress × List Char) :=
    (st.group.repeatLast min max?).map fun g => ({ st with group := g }, skipLazy rest)
  match c with
  | '(' => readGroup st cs
  | ')' => st.closeGroup.map fun st => (st, cs)
  | '|' => some ({ st with group := st.group.withBar }, cs)
  | '[' => do
    let (bracket, rest) ← readClass st.flags cs
    some ({ st with group := st.group.add ⟨.chars bracket.set, bracket.height, true⟩ }, rest)
  | '?' => repeated 0 (some 1) cs
  | '*' => repeated 0 none cs
  | '+' => repeated 1 none cs
  | '\x7b' => do
    let ((min, max?), rest) ← readBounds st.flags.spaced cs
    repeated min max? (Spacing.skip st.flags.spaced rest)
  | c => do
    let (p, rest) ← readAtom st.flags (c :: cs)
    some ({ st with group := st.group.add ⟨p, 0, true⟩ }, rest)

/-- Read tokens to the end of the text; the fuel is one more than its length. -/
def readTokens : (fuel : Nat) → Progress → List Char → Option Progress
  | 0, _, _ => none
  | fuel + 1, st, cs =>
    match Spacing.skip st.flags.spaced cs with
    | [] => some st
    | c :: cs => do
      let (st, rest) ← readToken st c cs
      readTokens fuel st rest

/-- The pattern that a text stands for. -/
def Pattern.ofText? (text : String) : Option Pattern := do
  let cs := text.toList
  let st ← readTokens (cs.length + 1) {} cs
  let whole := st.group.contents
  if st.outer.isEmpty && whole.height ≤ heightLimit
      && whole.pattern.weight ≤ Pattern.weightLimit then
    some whole.pattern
  else none

end ListingQuery.Regex
