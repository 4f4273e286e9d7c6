import ListingQuery.Sql.ColumnTest

/-!
# Conditions

A predicate is rendered as a row of tokens: tests of columns, the words that connect them, and
parentheses.  The parts of a disjunction and what is negated have parentheses; a part of a
conjunction only if it is a disjunction.  A nested predicate is rendered about the columns of the
join of its list and has no mark of its own.

The row is the same in every dialect; only its text is not.
-/

namespace ListingQuery.Sql

/-- A token of a condition. -/
inductive ConditionToken where
  | opening
  | closing
  | andWord
  | orWord
  | notWord
  | test (test : ColumnTest)

/-- Token rows with a word between them. -/
def connected (word : ConditionToken) : List (List ConditionToken) → List ConditionToken
  | [] => []
  | [ts] => ts
  | ts :: rest => ts ++ word :: connected word rest

/-- A row of tokens in parentheses. -/
def parenthesized (ts : List ConditionToken) : List ConditionToken :=
  .opening :: ts ++ [.closing]

/-- Whether a part of a conjunction needs parentheses. -/
def isDisjunction : Predicate → Bool
  | .or _ => true
  | _ => false

/-! ## Algorithm -/

mutual

/-- The tokens of a predicate on the record at the path `scope`. -/
def conditionTokens (scope : FieldPath) : Predicate → List ConditionToken
  | .always => [.test (.constant true)]
  | .never => [.test (.constant false)]
  | .compare field op value => [.test (.compare (scope ++ field) op value)]
  | .among field values => [.test (.among (scope ++ field) values)]
  | .notAmong field values => [.test (.notAmong (scope ++ field) values)]
  | .like field pattern => [.test (.like (scope ++ field) (likePattern pattern))]
  | .regex field pattern => [.test (.regex (scope ++ field) pattern)]
  | .contains field needle => [.test (.textLike (scope ++ field) (containsPattern needle))]
  | .present field wanted =>
    [.test (if wanted then .isNotNull (scope ++ field) else .isNull (scope ++ field))]
  | .isNull field => [.test (.isNull (scope ++ field))]
  | .isEmpty field => [.test (.isEmpty (scope ++ field))]
  | .nested field p => conditionTokens (scope ++ field) p
  | .not p => .notWord :: parenthesized (conditionTokens scope p)
  | .and parts => connected .andWord (conjunctTokens scope parts)
  | .or parts => connected .orWord (disjunctTokens scope parts)
  termination_by structural p => p

/-- The tokens of the parts of a conjunction. -/
def conjunctTokens (scope : FieldPath) : List Predicate → List (List ConditionToken)
  | [] => []
  | p :: ps =>
    (if isDisjunction p then parenthesized (conditionTokens scope p)
      else conditionTokens scope p) :: conjunctTokens scope ps
  termination_by structural ps => ps

/-- The tokens of the parts of a disjunction. -/
def disjunctTokens (scope : FieldPath) : List Predicate → List (List ConditionToken)
  | [] => []
  | p :: ps => parenthesized (conditionTokens scope p) :: disjunctTokens scope ps
  termination_by structural ps => ps

end

/-- How a token is written. -/
def ConditionToken.fragments (d : Dialect) : ConditionToken → List Fragment
  | opening => [.fixed "("]
  | closing => [.fixed ")"]
  | andWord => [.fixed " AND "]
  | orWord => [.fixed " OR "]
  | notWord => [.fixed "NOT "]
  | test t => t.fragments d

/-- The fragments of the condition for a predicate. -/
def conditionFragments (d : Dialect) (p : Predicate) : List Fragment :=
  (conditionTokens [] p).flatMap (ConditionToken.fragments d)

end ListingQuery.Sql
