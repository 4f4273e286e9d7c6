import ListingQuery.Unicode.CaseFolding
import ListingQuery.Unicode.Property

/-!
# Sets of characters

A set is built from ranges and named properties by union, intersection, complement and closure under
case.  It is kept as a term: membership is decided character by character, so no set is ever spelled
out.

    (inter a b).contains n = (a.contains n && b.contains n)
    (folded a).contains n  iff  a contains some character that differs from n in case only
-/

namespace ListingQuery.Regex

open Unicode (Property)

/-- A set of code points. -/
inductive CharSet where
  | none
  | range (first last : Nat)
  | property (p : Property)
  | union (a b : CharSet)
  | inter (a b : CharSet)
  | complement (a : CharSet)
  /-- The characters that differ in case only from some member. -/
  | folded (a : CharSet)
  /-- The same for the letters of ASCII alone. -/
  | asciiFolded (a : CharSet)
  deriving DecidableEq, Repr

namespace CharSet

/-! ## Algorithm -/

/-- A single character. -/
def single (c : Char) : CharSet := range c.toNat c.toNat

/-- Every character. -/
def all : CharSet := range 0 0x10FFFF

/-- The union of some sets. -/
def unionAll : List CharSet → CharSet
  | [] => none
  | [a] => a
  | a :: as => union a (unionAll as)

/-- The members of `a` that are not in `b`. -/
def diff (a b : CharSet) : CharSet := inter a (complement b)

/-- The members of exactly one of the two. -/
def symmDiff (a b : CharSet) : CharSet := union (diff a b) (diff b a)

/-- The ASCII letters that differ from this code point in case only, itself among them. -/
def asciiOrbit (n : Nat) : List Nat :=
  if 0x41 ≤ n ∧ n ≤ 0x5A then [n, n + 32]
  else if 0x61 ≤ n ∧ n ≤ 0x7A then [n, n - 32]
  else [n]

/-- Whether the code point is in the set. -/
def contains : CharSet → Nat → Bool
  | none, _ => false
  | range first last, n => first ≤ n && n ≤ last
  | property p, n => p.holds n
  | union a b, n => a.contains n || b.contains n
  | inter a b, n => a.contains n && b.contains n
  | complement a, n => !a.contains n
  | folded a, n => (Unicode.orbit n).any fun m => a.contains m
  | asciiFolded a, n => (asciiOrbit n).any fun m => a.contains m

/-- Whether the set is known to lie within ASCII.  Two letters of ASCII have a form outside it. -/
def isAscii : CharSet → Bool
  | none => true
  | range _ last => last < 0x80
  | property p => p == .ascii
  | union a b => a.isAscii && b.isAscii
  | inter a b => a.isAscii || b.isAscii
  | complement _ => false
  | folded a => a.isAscii && !(a.contains 0x6B || a.contains 0x4B || a.contains 0x73 || a.contains 0x53)
  | asciiFolded a => a.isAscii

/-- About how many ranges the set has. -/
def size : CharSet → Nat
  | none => 0
  | range _ _ => 1
  | property p => p.size
  | union a b => a.size + b.size
  | inter a b => max a.size b.size
  | complement a => a.size + 1
  | folded a => 2 * a.size
  | asciiFolded a => 2 * a.size

/-- About how many bytes an automaton spends on the set. -/
def weight (a : CharSet) : Nat := if a.isAscii then 56 + 8 * a.size else 64 * a.size

end CharSet

end ListingQuery.Regex
