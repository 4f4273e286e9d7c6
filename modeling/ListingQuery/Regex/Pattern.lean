import ListingQuery.Regex.CharSet

/-!
# Patterns and search

A pattern is matched by its derivatives: the patterns that remain to be matched once a character has
been read.  Anchors test the place between two characters without reading, so whether a pattern
matches the empty text depends on its neighbours.

    search p s  iff  p matches some stretch of s
-/

namespace ListingQuery.Regex

open Unicode (Property)

/-- Which side of a place belongs to a word. -/
inductive WordEdge where
  /-- One side and not the other. -/
  | boundary
  /-- Both sides or none. -/
  | inside
  | start
  | finish
  /-- None before, whatever follows. -/
  | startHalf
  /-- None behind, whatever precedes. -/
  | finishHalf
  deriving DecidableEq, Repr

/-- A test of the place between two characters. -/
inductive Anchor where
  | textStart
  | textEnd
  /-- The start of a line; `returns` makes a carriage return end lines as well. -/
  | lineStart (returns : Bool)
  | lineEnd (returns : Bool)
  /-- An edge of a word, of Unicode or of ASCII letters. -/
  | word (edge : WordEdge) (unicode : Bool)
  deriving DecidableEq, Repr

/-- A regular expression. -/
inductive Pattern where
  | empty
  | chars (set : CharSet)
  | anchor (a : Anchor)
  | seq (p q : Pattern)
  | alt (p q : Pattern)
  /-- At least `min` and, if there is a bound, at most `max?` times. -/
  | rep (p : Pattern) (min : Nat) (max? : Option Nat)
  deriving DecidableEq, Repr

/-! ## Words -/

/-- The characters of words. -/
def wordSet : CharSet :=
  .unionAll [.property (.binary "Alphabetic"), .property (.category ["Mc", "Me", "Mn"]),
    .property (.category ["Nd"]), .property (.category ["Pc"]), .property (.binary "Join_Control")]

/-- The characters of words in ASCII. -/
def asciiWordSet : CharSet :=
  .unionAll [.range 0x30 0x39, .range 0x41 0x5A, .single '_', .range 0x61 0x7A]

/-- Whether there is a character and it belongs to a word. -/
def isWord (unicode : Bool) : Option Char → Bool
  | none => false
  | some c => (if unicode then wordSet else asciiWordSet).contains c.toNat

namespace WordEdge

/-- Whether a place between something of a word (or not) and something of a word (or not) is such
an edge. -/
def holds : WordEdge → (before after : Bool) → Bool
  | boundary, before, after => before != after
  | inside, before, after => before == after
  | start, before, after => !before && after
  | finish, before, after => before && !after
  | startHalf, before, _ => !before
  | finishHalf, _, after => !after

end WordEdge

namespace Anchor

/-- Whether the place between two characters passes the test. -/
def holds : Anchor → (before after : Option Char) → Bool
  | textStart, before, _ => before.isNone
  | textEnd, _, after => after.isNone
  | lineStart false, before, _ => before.isNone || before == some '\n'
  | lineStart true, before, after =>
    before.isNone || before == some '\n' || (before == some '\r' && after != some '\n')
  | lineEnd false, _, after => after.isNone || after == some '\n'
  | lineEnd true, before, after =>
    after.isNone || after == some '\r' || (after == some '\n' && before != some '\r')
  | word edge unicode, before, after => edge.holds (isWord unicode before) (isWord unicode after)

end Anchor

namespace Pattern

/-! ## Algorithm -/

/-- Whether the pattern matches the empty text at this place. -/
def nullable (before after : Option Char) : Pattern → Bool
  | empty => true
  | chars _ => false
  | anchor a => a.holds before after
  | seq p q => p.nullable before after && q.nullable before after
  | alt p q => p.nullable before after || q.nullable before after
  | rep p min _ => min == 0 || p.nullable before after

/-- One pattern after the other. -/
def thenMatch : Pattern → Pattern → Pattern
  | empty, q => q
  | p, q => seq p q

/-- What remains of a repetition once one round has begun.  A round that matches the empty text here
may be counted as often as is needed. -/
def remaining (p : Pattern) (min : Nat) (max? : Option Nat) (isFree : Bool) : Pattern :=
  match max? with
  | none => rep p (if isFree then 0 else min - 1) none
  | some max => if max ≤ 1 then empty else rep p (if isFree then 0 else min - 1) (some (max - 1))

/-- The patterns that remain, any of them, once `c` has been read at a place behind `before`. -/
def steps (before : Option Char) (c : Char) : Pattern → List Pattern
  | empty => []
  | chars set => if set.contains c.toNat then [empty] else []
  | anchor _ => []
  | seq p q =>
    (p.steps before c).map (·.thenMatch q)
      ++ (if p.nullable before (some c) then q.steps before c else [])
  | alt p q => p.steps before c ++ q.steps before c
  | rep p min max? =>
    if max? == some 0 then []
    else
      let rest := remaining p min max? (p.nullable before (some c))
      (p.steps before c).map (·.thenMatch rest)

/-- Whether one of the patterns begun, or `p` from here or from a later place, matches. -/
def searchFrom (p : Pattern) : (before : Option Char) → (begun : List Pattern) → List Char → Bool
  | before, begun, [] => (p :: begun).any (nullable before none)
  | before, begun, c :: cs =>
    (p :: begun).any (nullable before (some c))
      || searchFrom p (some c) ((p :: begun).flatMap (steps before c)).eraseDups cs

/-- Whether the pattern matches somewhere in the text. -/
def search (p : Pattern) (s : String) : Bool := searchFrom p none [] s.toList

/-- One pattern after the other, for a list. -/
def sequence : List Pattern → Pattern
  | [] => empty
  | [p] => p
  | p :: ps => seq p (sequence ps)

/-- Any of a list of patterns, of which there is at least one. -/
def anyOf (p : Pattern) : List Pattern → Pattern
  | [] => p
  | q :: qs => alt p (anyOf q qs)

/-- About how many bytes an automaton for the pattern takes. -/
def weight : Pattern → Nat
  | empty => 32
  | chars (.range first last) =>
    if first = last then
      32 * (if last < 0x80 then 1 else if last < 0x800 then 2 else if last < 0x10000 then 3 else 4)
    else (CharSet.range first last).weight
  | chars set => set.weight
  | anchor _ => 32
  | seq p q => p.weight + q.weight
  | alt p q => p.weight + q.weight + 36
  | rep p min none => max min 1 * p.weight + 40
  | rep p _ (some max) => max * (p.weight + 8) + 32

/-- The largest weight of a pattern that is accepted. -/
def weightLimit : Nat := 10 * Nat.pow 2 20

end Pattern

end ListingQuery.Regex
