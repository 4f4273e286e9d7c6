import ListingQuery.Regex.Atom
import ListingQuery.Text.Split

/-!
# Classes between brackets

A class lists characters, ranges, predefined classes and further classes in brackets; a circumflex in
front takes the complement.  The operators `&&`, `--` and `~~` (intersection, difference, symmetric
difference) bind alike and to the left, and weaker than listing.  Case is ignored in each operand and
in each bracket before it is complemented.
-/

namespace ListingQuery.Regex

/-- A set and how deeply the brackets and operators in it nest. -/
structure Operand where
  set : CharSet
  height : Nat

/-- An operator between the operands of a class. -/
inductive SetOperator where
  | inter
  | diff
  | symmDiff

/-- A bracket that has not been closed yet. -/
structure OpenBracket where
  negated : Bool
  /-- The operand before the last operator, and that operator. -/
  left? : Option (Operand × SetOperator) := none
  /-- What has been listed since, the last first. -/
  items : List Operand := []

namespace SetOperator

/-- The sign of the operator, twice. -/
def sign : SetOperator → Char
  | inter => '&'
  | diff => '-'
  | symmDiff => '~'

/-- The result of an operator. -/
def apply : SetOperator → CharSet → CharSet → CharSet
  | inter => .inter
  | diff => .diff
  | symmDiff => .symmDiff

/-- The operator that the text starts with, and the rest. -/
def read? (cs : List Char) : Option (SetOperator × List Char) :=
  match cs with
  | a :: b :: rest =>
    if a ≠ b then none
    else ([inter, diff, symmDiff].find? fun o => o.sign == a).map fun o => (o, rest)
  | _ => none

end SetOperator

namespace OpenBracket

/-- What has been listed since the last operator. -/
def listed (b : OpenBracket) : Operand :=
  match b.items with
  | [] => ⟨.none, 0⟩
  | [item] => item
  | items => ⟨.unionAll (items.reverse.map (·.set)), (items.map (·.height)).foldl max 0 + 1⟩

/-- All operands so far as one. -/
def combined (f : Flags) (b : OpenBracket) : Operand :=
  match b.left? with
  | none => b.listed
  | some (left, o) =>
    ⟨o.apply (f.fold left.set) (f.fold b.listed.set), max left.height b.listed.height + 1⟩

/-- Add an item. -/
def add (b : OpenBracket) (item : Operand) : OpenBracket := { b with items := item :: b.items }

/-- Go on behind an operator. -/
def withOperator (f : Flags) (b : OpenBracket) (o : SetOperator) : OpenBracket :=
  { b with left? := some (b.combined f, o), items := [] }

/-- The class that a closing bracket makes. -/
def close (f : Flags) (b : OpenBracket) : Option Operand :=
  let inner := b.combined f
  (f.negate? b.negated (f.fold inner.set)).map fun s => ⟨s, inner.height + 1⟩

end OpenBracket

/-! ## Items -/

/-- A character as a member of a class: without Unicode, ASCII only. -/
def memberChar? (f : Flags) (c : Char) : Option Char :=
  if f.unicode || c.toNat < 0x80 then some c else none

/-- An escape or a character standing for itself. -/
def readMember (f : Flags) : List Char → Option (Atom × List Char)
  | [] => none
  | '\\' :: cs => readEscape f cs
  | c :: cs => some (.char c false, cs)

/-- An item that is no range. -/
def Atom.asItem (f : Flags) : Atom → Option CharSet
  | .char c _ => (memberChar? f c).map .single
  | .set s => some s
  | .anchor _ => none

/-- The end of a range. -/
def Atom.asBound (f : Flags) : Atom → Option Char
  | .char c _ => memberChar? f c
  | _ => none

/-- A member, or a range of characters.  A hyphen before the closing bracket or before another
hyphen makes no range. -/
def readItem (f : Flags) (cs : List Char) : Option (CharSet × List Char) := do
  let (first, rest) ← readMember f cs
  let rest := Spacing.skip f.spaced rest
  match rest with
  | [] => none
  | '-' :: behind =>
    let next := Spacing.peek f.spaced behind
    if next == some ']' || next == some '-' then do
      let s ← first.asItem f
      some (s, rest)
    else do
      let (last, rest) ← readMember f (Spacing.skip f.spaced behind)
      let a ← first.asBound f
      let b ← last.asBound f
      if a ≤ b then some (.range a.toNat b.toNat, rest) else none
  | _ => do
    let s ← first.asItem f
    some (s, rest)

/-- A named class, behind the opening bracket of its own; whatever is none is left alone. -/
def readNamedClass? (cs : List Char) : Option (Bool × CharSet × List Char) :=
  match cs with
  | ':' :: cs =>
    let (negated, cs) := match cs with
      | '^' :: cs => (true, cs)
      | _ => (false, cs)
    match cutAt? [':', ']'] cs with
    | some (name, rest) =>
      if name.contains ':' then none
      else (namedClasses.lookup (String.ofList name)).map fun s => (negated, s, rest)
    | none => none
  | _ => none

/-- The hyphens that stand for themselves behind an opening bracket. -/
def readHyphens (spaced : Bool) (cs : List Char) : List Operand × List Char :=
  let (hyphens, rest) := Spacing.gather spaced (· == '-') false cs
  (hyphens.map fun c => ⟨.single c, 0⟩, rest)

/-- What follows an opening bracket: a circumflex, hyphens, or else a closing bracket that stands for
itself. -/
def readOpening (f : Flags) (cs : List Char) : OpenBracket × List Char :=
  let cs := Spacing.skip f.spaced cs
  let (negated, cs) := match cs with
    | '^' :: cs => (true, Spacing.skip f.spaced cs)
    | _ => (false, cs)
  match readHyphens f.spaced cs with
  | ([], ']' :: cs) => (⟨negated, none, [⟨.single ']', 0⟩]⟩, Spacing.skip f.spaced cs)
  | (items, cs) => (⟨negated, none, items⟩, cs)

/-! ## Algorithm -/

/-- Read on inside brackets until the outermost is closed; every round reads at least one
character. -/
def readBrackets (f : Flags) : (fuel : Nat) → (outer : List OpenBracket) → OpenBracket →
    List Char → Option (Operand × List Char)
  | 0, _, _, _ => none
  | fuel + 1, outer, b, cs =>
    match Spacing.skip f.spaced cs with
    | [] => none
    | '[' :: cs =>
      match readNamedClass? cs with
      | some (negated, s, rest) => do
        let s ← f.negate? negated (f.fold s)
        readBrackets f fuel outer (b.add ⟨s, 0⟩) rest
      | none =>
        let (inner, rest) := readOpening f cs
        readBrackets f fuel (b :: outer) inner rest
    | ']' :: cs => do
      let closed ← b.close f
      match outer with
      | [] => some (closed, cs)
      | b :: outer => readBrackets f fuel outer (b.add closed) cs
    | cs =>
      match SetOperator.read? cs with
      | some (o, rest) => readBrackets f fuel outer (b.withOperator f o) rest
      | none => do
        let (s, rest) ← readItem f cs
        readBrackets f fuel outer (b.add ⟨s, 0⟩) rest

/-- The class behind an opening bracket. -/
def readClass (f : Flags) (cs : List Char) : Option (Operand × List Char) :=
  let (b, rest) := readOpening f cs
  readBrackets f (cs.length + 1) [] b rest

end ListingQuery.Regex
