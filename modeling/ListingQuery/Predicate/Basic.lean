import ListingQuery.Literal.Basic
import ListingQuery.Shape.FieldPath

/-!
# Predicates

A predicate is a test of one record, over canonical field paths and typed literals.  Every store
renders it into a query language of its own.  Paths below `nested` start at the element of the list.

The simplifying constructors `conj`, `disj`, `negate` and `within` fold constants and flatten one
level of the same connective.
-/

namespace ListingQuery

/-- The comparison of a field with a literal. -/
inductive Comparison where
  | eq
  | ne
  | gt
  | gte
  | lt
  | lte
  deriving DecidableEq, Repr

/-- The sign of a comparison. -/
def Comparison.symbol : Comparison → String
  | eq => "="
  | ne => "<>"
  | gt => ">"
  | gte => ">="
  | lt => "<"
  | lte => "<="

/-- A test of one record. -/
inductive Predicate where
  /-- Every record. -/
  | always
  /-- No record. -/
  | never
  | compare (field : FieldPath) (op : Comparison) (value : Literal)
  | among (field : FieldPath) (values : List Literal)
  | notAmong (field : FieldPath) (values : List Literal)
  /-- The text matches a pattern in which percent signs stand for any characters, in any case. -/
  | like (field : FieldPath) (pattern : String)
  | regex (field : FieldPath) (pattern : String)
  /-- The text of the field contains the needle, in any case. -/
  | contains (field : FieldPath) (needle : String)
  /-- The field is there, whatever its value, or is not. -/
  | present (field : FieldPath) (wanted : Bool)
  | isNull (field : FieldPath)
  /-- An empty text or an empty list. -/
  | isEmpty (field : FieldPath)
  /-- Some element of the list satisfies the predicate. -/
  | nested (field : FieldPath) (predicate : Predicate)
  | not (predicate : Predicate)
  | and (parts : List Predicate)
  | or (parts : List Predicate)

namespace Predicate

/-! ## Algorithm -/

/-- The operands of a conjunction without those that always hold, nested conjunctions opened one
level; `none` if some operand never holds. -/
def conjuncts? : List Predicate → Option (List Predicate)
  | [] => some []
  | always :: ps => conjuncts? ps
  | never :: _ => none
  | and parts :: ps => (conjuncts? ps).map (parts ++ ·)
  | p :: ps => (conjuncts? ps).map (p :: ·)

/-- The operands of a disjunction without those that never hold, nested disjunctions opened one
level; `none` if some operand always holds. -/
def disjuncts? : List Predicate → Option (List Predicate)
  | [] => some []
  | never :: ps => disjuncts? ps
  | always :: _ => none
  | or parts :: ps => (disjuncts? ps).map (parts ++ ·)
  | p :: ps => (disjuncts? ps).map (p :: ·)

/-- The conjunction, simplified: without operands it always holds, and a single operand stands for
itself. -/
def conj (ps : List Predicate) : Predicate :=
  match conjuncts? ps with
  | none => never
  | some [] => always
  | some [p] => p
  | some parts => and parts

/-- The disjunction, simplified: without operands it never holds, and a single operand stands for
itself. -/
def disj (ps : List Predicate) : Predicate :=
  match disjuncts? ps with
  | none => always
  | some [] => never
  | some [p] => p
  | some parts => or parts

/-- The negation, with constants and double negation folded. -/
def negate : Predicate → Predicate
  | always => never
  | never => always
  | not p => p
  | p => not p

/-- The predicate for some element of the list at `field`; constants stand for themselves. -/
def within (field : FieldPath) : Predicate → Predicate
  | always => always
  | never => never
  | p => nested field p

/-- Whether the predicate is the one that always holds. -/
def isAlways : Predicate → Bool
  | always => true
  | _ => false

/-- Whether the predicate is the one that never holds. -/
def isNever : Predicate → Bool
  | never => true
  | _ => false

/-- Whether the predicate is a conjunction or a disjunction. -/
def isCompound : Predicate → Bool
  | and _ => true
  | or _ => true
  | _ => false

end Predicate

end ListingQuery
