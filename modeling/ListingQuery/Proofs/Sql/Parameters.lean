import Mathlib.Data.List.Basic
import Mathlib.Data.List.Induction
import ListingQuery.Proofs.Sql.Marks

/-!
# Parameters

A statement keeps the values of a predicate out of its text.  Predicates that differ in nothing but
values have the same text and the same joins.  The text has one mark for each value, numbered from
the left, and the values are bound in the same order.  A condition is written alone, in a count and
in a select in the same way, with the same values.

The joins are the records of the columns, each once, in the order in which they are first used:

    every request for a table and a predicate                         (statement_binds_values)
-/

namespace ListingQuery

namespace Predicate

/-! ## Values and columns -/

mutual

/-- The values of a predicate from the left, patterns as they are bound. -/
def literals : Predicate → List Literal
  | compare _ _ value => [value]
  | among _ values => values
  | notAmong _ values => values
  | like _ pattern => [.string (Sql.likePattern pattern)]
  | regex _ pattern => [.string pattern]
  | contains _ needle => [.string (Sql.containsPattern needle)]
  | nested _ p => p.literals
  | not p => p.literals
  | and parts => literalsOf parts
  | or parts => literalsOf parts
  | _ => []
  termination_by structural p => p

/-- The values of predicates. -/
def literalsOf : List Predicate → List Literal
  | [] => []
  | p :: ps => p.literals ++ literalsOf ps
  termination_by structural ps => ps

end

mutual

/-- The columns of a predicate on the record at the path `scope`, from the left. -/
def columns (scope : FieldPath) : Predicate → List FieldPath
  | always => []
  | never => []
  | compare field _ _ => [scope ++ field]
  | among field _ => [scope ++ field]
  | notAmong field _ => [scope ++ field]
  | like field _ => [scope ++ field]
  | regex field _ => [scope ++ field]
  | contains field _ => [scope ++ field]
  | present field _ => [scope ++ field]
  | isNull field => [scope ++ field]
  | isEmpty field => [scope ++ field]
  | nested field p => p.columns (scope ++ field)
  | not p => p.columns scope
  | and parts => columnsOf scope parts
  | or parts => columnsOf scope parts
  termination_by structural p => p

/-- The columns of predicates. -/
def columnsOf (scope : FieldPath) : List Predicate → List FieldPath
  | [] => []
  | p :: ps => p.columns scope ++ columnsOf scope ps
  termination_by structural ps => ps

end

mutual

/-- The predicate without its values; of a list only the length is left. -/
def erased : Predicate → Predicate
  | compare field op _ => compare field op .null
  | among field values => among field (values.map fun _ => .null)
  | notAmong field values => notAmong field (values.map fun _ => .null)
  | like field _ => like field ""
  | regex field _ => regex field ""
  | contains field _ => contains field ""
  | nested field p => nested field p.erased
  | not p => not p.erased
  | and parts => and (erasedAll parts)
  | or parts => or (erasedAll parts)
  | p => p
  termination_by structural p => p

/-- Predicates without their values. -/
def erasedAll : List Predicate → List Predicate
  | [] => []
  | p :: ps => p.erased :: erasedAll ps
  termination_by structural ps => ps

end

theorem literalsOf_eq_flatMap (ps : List Predicate) : literalsOf ps = ps.flatMap literals := by
  induction ps with
  | nil => rfl
  | cons p ps ih => rw [literalsOf, ih, List.flatMap_cons]

theorem columnsOf_eq_flatMap (scope : FieldPath) (ps : List Predicate) :
    columnsOf scope ps = ps.flatMap (columns scope) := by
  induction ps with
  | nil => rfl
  | cons p ps ih => rw [columnsOf, ih, List.flatMap_cons]

theorem erasedAll_eq_map (ps : List Predicate) : erasedAll ps = ps.map erased := by
  induction ps with
  | nil => rfl
  | cons p ps ih => rw [erasedAll, ih, List.map_cons]

theorem isDisjunction_erased (p : Predicate) :
    Sql.isDisjunction p.erased = Sql.isDisjunction p := by
  cases p <;> rfl

end Predicate

namespace Sql

open Predicate

variable {d : Dialect}

/-! ## What fragments hold -/

theorem nil_intercalate {β : Type} (rows : List (List β)) :
    ([] : List β).intercalate rows = rows.flatten := by
  induction rows with
  | nil => rfl
  | cons row rows ih =>
    cases rows with
    | nil => simp
    | cons row' rows => rw [List.intercalate_cons_cons, ih]; simp

section Fragments

variable {β : Type} (g : Fragment → List β)

theorem flatMap_separated (separator : String) (rows : List (List Fragment)) :
    (separated separator rows).flatMap g =
      (g (.fixed separator)).intercalate (rows.map (List.flatMap g)) := by
  induction rows with
  | nil => rfl
  | cons fs rows ih =>
    cases rows with
    | nil => simp [separated]
    | cons gs rows =>
      show (fs ++ .fixed separator :: separated separator (gs :: rows)).flatMap g = _
      rw [List.flatMap_append, List.flatMap_cons, ih, List.map_cons, List.map_cons, List.map_cons,
        List.intercalate_cons_cons, List.append_assoc]

theorem flatMap_connected (word : ConditionToken) (rows : List (List ConditionToken)) :
    (rowFragments d (connected word rows)).flatMap g = ((word.fragments d).flatMap g).intercalate
      (rows.map fun ts => (rowFragments d ts).flatMap g) := by
  induction rows with
  | nil => rfl
  | cons ts rows ih =>
    cases rows with
    | nil => simp [connected]
    | cons us rows =>
      rw [connected_cons_cons, rowFragments_append, rowFragments_cons, List.flatMap_append,
        List.flatMap_append, ih, List.map_cons, List.map_cons, List.map_cons,
        List.intercalate_cons_cons, List.append_assoc]

theorem flatMap_parenthesized (ts : List ConditionToken) :
    (rowFragments d (parenthesized ts)).flatMap g =
      g (.fixed "(") ++ ((rowFragments d ts).flatMap g ++ g (.fixed ")")) := by
  rw [rowFragments_parenthesized]
  simp

/-- What is read off a condition without regard to fixed text is read off its tests, from the
left. -/
theorem flatMap_conditionTokens (read : FieldPath → Predicate → List β)
    (hfixed : ∀ text, g (.fixed text) = [])
    (hconstant : ∀ scope, read scope .always = [] ∧ read scope .never = [])
    (htest : ∀ scope p, p.isTest = true →
      (rowFragments d (conditionTokens scope p)).flatMap g = read scope p)
    (hnested : ∀ scope field p, read scope (.nested field p) = read (scope ++ field) p)
    (hnot : ∀ scope p, read scope (.not p) = read scope p)
    (hparts : ∀ scope parts, read scope (.and parts) = parts.flatMap (read scope) ∧
      read scope (.or parts) = parts.flatMap (read scope)) (p : Predicate) :
    ∀ scope, (rowFragments d (conditionTokens scope p)).flatMap g = read scope p := by
  have hsingle (text : String) : [Fragment.fixed text].flatMap g = [] := by simp [hfixed]
  have hgroup {ts : List ConditionToken} {found : List β}
      (h : (rowFragments d ts).flatMap g = found) :
      (rowFragments d (parenthesized ts)).flatMap g = found := by
    rw [flatMap_parenthesized, hfixed, hfixed, List.nil_append, List.append_nil, h]
  induction p using connectiveInduction with
  | always => exact fun scope => (hsingle _).trans (hconstant scope).1.symm
  | never => exact fun scope => (hsingle _).trans (hconstant scope).2.symm
  | test p ht => exact fun scope => htest scope p ht
  | nested field p ih =>
    intro scope
    rw [conditionTokens, ih, hnested]
  | not p ih =>
    intro scope
    rw [conditionTokens, rowFragments_cons, List.flatMap_append, hgroup (ih scope), hnot]
    exact congrArg (· ++ _) (hsingle "NOT ")
  | and parts ih =>
    intro scope
    have hword : (ConditionToken.andWord.fragments d).flatMap g = [] := hsingle _
    rw [conditionTokens, flatMap_connected, hword, nil_intercalate, conjunctTokens_eq_map,
      List.map_map, (hparts scope parts).1, List.flatMap_def]
    refine congrArg _ (List.map_congr_left fun p hp => ?_)
    rw [Function.comp_apply]
    split
    · exact hgroup (ih p hp scope)
    · exact ih p hp scope
  | or parts ih =>
    intro scope
    have hword : (ConditionToken.orWord.fragments d).flatMap g = [] := hsingle _
    rw [conditionTokens, flatMap_connected, hword, nil_intercalate, disjunctTokens_eq_map,
      List.map_map, (hparts scope parts).2, List.flatMap_def]
    exact congrArg _ (List.map_congr_left fun p hp => hgroup (ih p hp scope))

theorem flatMap_boundList (hfixed : ∀ text, g (.fixed text) = []) (values : List Literal) :
    (boundList values).flatMap g = values.flatMap fun v => g (.bound v) := by
  rw [boundList, List.cons_append, List.flatMap_cons, List.flatMap_append, flatMap_separated,
    hfixed, hfixed, nil_intercalate, List.map_map, List.flatMap_singleton, hfixed,
    List.append_nil, List.nil_append, List.flatMap_def]
  exact congrArg _ (List.map_congr_left fun v _ => List.flatMap_singleton ..)

theorem flatMap_orderClause (hfixed : ∀ text, g (.fixed text) = []) (sort : List SortKey) :
    (Table.orderClause sort).flatMap g = sort.flatMap fun key => g (.column key.field) := by
  have hkey (key : SortKey) : (Table.orderFragments key).flatMap g = g (.column key.field) := by
    simp [Table.orderFragments, hfixed]
  rw [Table.orderClause]
  split
  · next h => rw [List.isEmpty_iff.1 h, List.flatMap_nil, List.flatMap_nil]
  · rw [List.flatMap_cons, flatMap_separated, hfixed, hfixed, nil_intercalate, List.map_map,
      List.nil_append, List.flatMap_def]
    exact congrArg _ (List.map_congr_left fun key _ => hkey key)

end Fragments

/-! ## Values -/

theorem boundValues_eq_flatMap (fs : List Fragment) :
    boundValues fs = fs.flatMap fun f => f.value?.toList :=
  List.filterMap_eq_flatMap_toList ..

theorem boundValues_boundList (values : List Literal) :
    boundValues (boundList values) = values := by
  rw [boundValues_eq_flatMap, flatMap_boundList _ (fun _ => rfl)]
  exact List.flatMap_singleton' values

/-- The values of a condition are bound from the left. -/
theorem boundValues_conditionFragments (p : Predicate) :
    boundValues (conditionFragments d p) = p.literals := by
  rw [boundValues_eq_flatMap]
  refine @flatMap_conditionTokens d _ _ (fun _ p => p.literals) (fun _ => rfl)
    (fun _ => ⟨rfl, rfl⟩) ?_ (fun _ _ _ => rfl) (fun _ _ => rfl)
    (fun _ parts => ⟨literalsOf_eq_flatMap parts, literalsOf_eq_flatMap parts⟩) p []
  intro scope p ht
  rw [← boundValues_eq_flatMap]
  cases p with
  | among field values =>
    rw [conditionTokens, rowFragments, List.flatMap_singleton]
    exact boundValues_boundList values
  | notAmong field values =>
    rw [conditionTokens, rowFragments, List.flatMap_singleton]
    exact boundValues_boundList values
  | present field wanted => cases wanted <;> rfl
  | _ => first | rfl | cases ht

/-! ## Joins -/

/-- The column of a fragment. -/
def Fragment.column? : Fragment → Option FieldPath
  | column path => some path
  | _ => none

/-- The columns of fragments. -/
def mentioned (fs : List Fragment) : List FieldPath := fs.flatMap fun f => f.column?.toList

/-- The joins that columns belong to, each time they are used. -/
def joinUses (columns : List FieldPath) : List FieldPath :=
  (columns.map List.dropLast).filter fun join => !join.isEmpty

theorem mentioned_boundList (values : List Literal) : mentioned (boundList values) = [] := by
  rw [mentioned, flatMap_boundList _ (fun _ => rfl)]
  simp [Fragment.column?]

theorem mentioned_conditionFragments (p : Predicate) :
    mentioned (conditionFragments d p) = p.columns [] := by
  refine @flatMap_conditionTokens d _ _ (fun scope p => p.columns scope) (fun _ => rfl)
    (fun _ => ⟨rfl, rfl⟩) ?_ (fun _ _ _ => rfl) (fun _ _ => rfl)
    (fun scope parts => ⟨columnsOf_eq_flatMap scope parts, columnsOf_eq_flatMap scope parts⟩) p []
  intro scope p ht
  cases p with
  | among field values =>
    rw [conditionTokens, rowFragments, List.flatMap_singleton]
    exact congrArg ((scope ++ field) :: ·) (mentioned_boundList values)
  | notAmong field values =>
    rw [conditionTokens, rowFragments, List.flatMap_singleton]
    exact congrArg ((scope ++ field) :: ·) (mentioned_boundList values)
  | present field wanted => cases wanted <;> rfl
  | _ => first | rfl | cases ht

theorem filterMap_join_eq (fs : List Fragment) :
    fs.filterMap Fragment.join? = joinUses (mentioned fs) := by
  induction fs with
  | nil => rfl
  | cons f fs ih =>
    cases f with
    | column path =>
      show _ = joinUses (path :: mentioned fs)
      rw [List.filterMap_cons, ih, Fragment.join?, recordPath]
      by_cases hjoin : path.dropLast.isEmpty <;> simp [joinUses, hjoin]
    | _ => exact ih

/-- `firsts` are the elements of `uses`, each once, in the order in which they first occur. -/
def AreFirstUses (firsts uses : List FieldPath) : Prop :=
  firsts.Nodup ∧ (∀ join, join ∈ firsts ↔ join ∈ uses) ∧
    firsts.Pairwise fun i j => uses.idxOf i < uses.idxOf j

theorem areFirstUses_eraseDups (uses : List FieldPath) : AreFirstUses uses.eraseDups uses := by
  have hmem (join : FieldPath) : join ∈ uses.eraseDups ↔ join ∈ uses := List.mem_eraseDups
  have horder : uses.eraseDups.Pairwise fun i j => uses.idxOf i < uses.idxOf j := by
    induction uses using List.reverseRecOn with
    | nil => exact List.Pairwise.nil
    | append_singleton uses join ih =>
      have hkeep : uses.eraseDups.Pairwise fun i j =>
          (uses ++ [join]).idxOf i < (uses ++ [join]).idxOf j := by
        refine (ih (fun _ => List.mem_eraseDups)).imp_of_mem fun hi hj h => ?_
        rwa [List.idxOf_append_of_mem (List.mem_eraseDups.1 hi),
          List.idxOf_append_of_mem (List.mem_eraseDups.1 hj)]
      rw [List.eraseDups_append]
      by_cases hjoin : join ∈ uses
      · have hnone : [join].removeAll uses = [] := by simp [List.removeAll, hjoin]
        rw [hnone]
        simpa using hkeep
      · have hnew : [join].removeAll uses = [join] := by simp [List.removeAll, hjoin]
        rw [hnew, List.pairwise_append]
        refine ⟨hkeep, by simp [List.eraseDups_cons], fun i hi j hj => ?_⟩
        have hi' : i ∈ uses := List.mem_eraseDups.1 hi
        obtain rfl : j = join := by simpa using hj
        rw [List.idxOf_append_of_mem hi', List.idxOf_append_of_notMem hjoin]
        exact Nat.lt_add_right _ (List.idxOf_lt_length_iff.2 hi')
  exact ⟨horder.imp fun h => by rintro rfl; exact absurd h (Nat.lt_irrefl _), hmem, horder⟩

/-! ## Texts -/

/-- A fragment without its value. -/
def Fragment.erased : Fragment → Fragment
  | bound _ => bound .null
  | f => f

theorem textFrom_erased (fs : List Fragment) : ∀ next,
    textFrom d next (fs.map Fragment.erased) = textFrom d next fs := by
  induction fs with
  | nil => exact fun _ => rfl
  | cons f fs ih =>
    intro next
    cases f <;> simp [Fragment.erased, textFrom, ih]

theorem mentioned_erased (fs : List Fragment) :
    mentioned (fs.map Fragment.erased) = mentioned fs := by
  rw [mentioned, List.flatMap_map]
  refine congrArg (fs.flatMap ·) (funext fun f => ?_)
  cases f <;> rfl

/-- A condition differs from that of the erased predicate in values only. -/
theorem erased_conditionTokens (p : Predicate) : ∀ scope,
    (rowFragments d (conditionTokens scope p.erased)).map Fragment.erased =
      (rowFragments d (conditionTokens scope p)).map Fragment.erased := by
  have hgroup {ts us : List ConditionToken} (h : (rowFragments d ts).map Fragment.erased =
      (rowFragments d us).map Fragment.erased) :
      (rowFragments d (parenthesized ts)).map Fragment.erased =
        (rowFragments d (parenthesized us)).map Fragment.erased := by
    simp only [rowFragments_parenthesized, List.map_cons, List.map_append, h]
  have hlist (values : List Literal) :
      (boundList (values.map fun _ => .null)).map Fragment.erased =
        (boundList values).map Fragment.erased := by
    simp only [boundList, List.cons_append, List.map_eq_flatMap (f := Fragment.erased),
      List.flatMap_cons, List.flatMap_append, flatMap_separated, List.map_map]
    rfl
  induction p using connectiveInduction with
  | always => exact fun _ => rfl
  | never => exact fun _ => rfl
  | test p ht =>
    intro scope
    cases p with
    | among field values =>
      simp only [erased, conditionTokens, rowFragments, List.flatMap_singleton]
      exact congrArg (_ :: _ :: ·) (hlist values)
    | notAmong field values =>
      simp only [erased, conditionTokens, rowFragments, List.flatMap_singleton]
      exact congrArg (_ :: _ :: ·) (hlist values)
    | like field text | regex field text | contains field text =>
      simp [erased, conditionTokens, rowFragments, ConditionToken.fragments, ColumnTest.fragments,
        Fragment.erased]
    | _ => first | rfl | cases ht
  | nested field p ih => exact fun scope => ih (scope ++ field)
  | not p ih =>
    intro scope
    rw [erased, conditionTokens, conditionTokens, rowFragments_cons, rowFragments_cons,
      List.map_append, List.map_append, hgroup (ih scope)]
  | and parts ih =>
    intro scope
    rw [erased, conditionTokens, conditionTokens, List.map_eq_flatMap, List.map_eq_flatMap,
      flatMap_connected, flatMap_connected, conjunctTokens_eq_map, conjunctTokens_eq_map,
      erasedAll_eq_map, List.map_map, List.map_map, List.map_map]
    refine congrArg _ (List.map_congr_left fun p hp => ?_)
    simp only [Function.comp_apply, isDisjunction_erased, ← List.map_eq_flatMap]
    split
    · exact hgroup (ih p hp scope)
    · exact ih p hp scope
  | or parts ih =>
    intro scope
    rw [erased, conditionTokens, conditionTokens, List.map_eq_flatMap, List.map_eq_flatMap,
      flatMap_connected, flatMap_connected, disjunctTokens_eq_map, disjunctTokens_eq_map,
      erasedAll_eq_map, List.map_map, List.map_map, List.map_map]
    refine congrArg _ (List.map_congr_left fun p hp => ?_)
    simp only [Function.comp_apply, ← List.map_eq_flatMap]
    exact hgroup (ih p hp scope)

/-- Without values, it does not matter what the next mark would be. -/
theorem textFrom_eq_of_boundValues_eq_nil {fs : List Fragment} (h : boundValues fs = []) :
    ∀ next next', textFrom d next fs = textFrom d next' fs := by
  induction fs with
  | nil => exact fun _ _ => rfl
  | cons f fs ih =>
    intro next next'
    cases f with
    | bound v => cases h
    | _ => rw [textFrom, textFrom, ih h next next']

/-- Fragments that differ in values only make statements that do. -/
theorem ofFragments_eq_of_erased_eq {fs gs : List Fragment}
    (h : fs.map Fragment.erased = gs.map Fragment.erased) :
    (Statement.ofFragments d fs).text = (Statement.ofFragments d gs).text ∧
      (Statement.ofFragments d fs).joins = (Statement.ofFragments d gs).joins := by
  constructor
  · show textFrom d 1 fs = textFrom d 1 gs
    rw [← textFrom_erased fs, h, textFrom_erased]
  · show (fs.filterMap Fragment.join?).eraseDups = (gs.filterMap Fragment.join?).eraseDups
    rw [filterMap_join_eq, filterMap_join_eq, ← mentioned_erased fs, h, mentioned_erased]

/-! ## Statements -/

/-- What stands for the table after FROM, as text. -/
def Table.sourceText (t : Table) : String :=
  match t.source? with
  | some text => text
  | none => t.dialect.quoteName t.name

/-- What stands for the table has no marks and ends outside names. -/
def Table.IsUnmarked (t : Table) : Prop :=
  ∀ text, t.source? = some text → ∀ rest, marks t.dialect (text ++ rest) = marks t.dialect rest

theorem Table.marks_sourceText {t : Table} (h : t.IsUnmarked) (rest : String) :
    marks t.dialect (t.sourceText ++ rest) = marks t.dialect rest := by
  rw [sourceText]
  cases hs : t.source? with
  | some text => exact h text hs rest
  | none => rw [marks, String.toList_append, marksFrom_quoteName, marks]

theorem Table.textFrom_source (t : Table) (next : Nat) (fs : List Fragment) :
    textFrom t.dialect next (t.source :: fs) = t.sourceText ++ textFrom t.dialect next fs := by
  rw [source, sourceText]
  cases t.source? <;> rfl

/-- What is asked about the rows that a predicate holds of. -/
inductive Request where
  | condition
  | count
  | select (page : Page) (sort : List SortKey)

namespace Request

/-- The statement for a request. -/
def statement (t : Table) (p : Predicate) : Request → Statement
  | condition => t.condition p
  | count => t.count (some p)
  | select page sort => t.select p page sort

/-- The sort keys of a request. -/
def sort : Request → List SortKey
  | select _ sort => sort
  | _ => []

/-- The text in front of the condition. -/
def head (t : Table) : Request → String
  | condition => ""
  | count => "SELECT COUNT(*) FROM " ++ t.sourceText ++ " WHERE "
  | select .. => "SELECT * FROM " ++ t.sourceText ++ " WHERE "

/-- The text behind the condition. -/
def tail (d : Dialect) : Request → String
  | select page sort => textFrom d 1 (Table.orderClause sort)
    ++ (" LIMIT " ++ toString page.limit ++ " OFFSET " ++ toString page.offset)
  | _ => ""

/-- The fragments in front of the condition. -/
def before (t : Table) : Request → List Fragment
  | condition => []
  | count => [.fixed "SELECT COUNT(*) FROM ", t.source, .fixed " WHERE "]
  | select .. => [.fixed "SELECT * FROM ", t.source, .fixed " WHERE "]

/-- The fragments behind the condition. -/
def after : Request → List Fragment
  | select page sort => Table.orderClause sort
    ++ [.fixed (" LIMIT " ++ toString page.limit ++ " OFFSET " ++ toString page.offset)]
  | _ => []

variable (t : Table) (p : Predicate) (r : Request)

theorem statement_eq : r.statement t p =
    .ofFragments t.dialect (r.before t ++ (conditionFragments t.dialect p ++ r.after)) := by
  cases r with
  | condition => simp [statement, Table.condition, before, after]
  | count => simp [statement, Table.count, before, after]
  | select page sort => simp [statement, Table.select, before, after]

theorem boundValues_before : boundValues (r.before t) = [] := by
  cases r <;> cases h : t.source? <;>
    simp [before, Table.source, h, boundValues, Fragment.value?]

theorem mentioned_before : mentioned (r.before t) = [] := by
  cases r <;> cases h : t.source? <;>
    simp [before, Table.source, h, mentioned, Fragment.column?]

theorem boundValues_after : boundValues r.after = [] := by
  cases r with
  | select page sort =>
    rw [after, boundValues_eq_flatMap, List.flatMap_append, flatMap_orderClause _ (fun _ => rfl)]
    simp [Fragment.value?]
  | _ => rfl

theorem mentioned_after : mentioned r.after = r.sort.map SortKey.field := by
  cases r with
  | select page sort =>
    rw [after, mentioned, List.flatMap_append, flatMap_orderClause _ (fun _ => rfl)]
    simp [Fragment.column?, Request.sort, List.map_eq_flatMap]
  | _ => rfl

theorem textFrom_before (next : Nat) : textFrom t.dialect next (r.before t) = r.head t := by
  have hsource (text : String) : textFrom t.dialect next [.fixed text, t.source, .fixed " WHERE "] =
      text ++ t.sourceText ++ " WHERE " := by
    rw [textFrom, Table.textFrom_source, textFrom, textFrom, String.append_empty,
      String.append_assoc]
  cases r with
  | condition => rfl
  | count => exact hsource _
  | select page sort => exact hsource _

theorem textFrom_after (d : Dialect) (next : Nat) : textFrom d next r.after = r.tail d := by
  rw [textFrom_eq_of_boundValues_eq_nil (boundValues_after r) next 1]
  cases r with
  | select page sort => simp [after, tail, textFrom_append, textFrom]
  | _ => rfl

theorem isMarked_after (d : Dialect) : IsMarked d r.after ∧ StartsCalm d r.after := by
  cases r with
  | select page sort =>
    have htext : (" LIMIT " ++ toString page.limit ++ " OFFSET " ++ toString page.offset).toList =
        " LIMIT ".toList ++ (toString page.limit).toList ++ " OFFSET ".toList
          ++ (toString page.offset).toList := by
      simp only [String.toList_append]
    have hquiet : IsQuiet (" LIMIT " ++ toString page.limit ++ " OFFSET " ++
        toString page.offset).toList := by
      rw [htext]
      exact isQuiet_append (isQuiet_append (isQuiet_append (by decide) (isQuiet_toString _))
        (by decide)) (isQuiet_toString _)
    have hcalm (fs : List Fragment) : StartsCalm d (.fixed (" LIMIT " ++ toString page.limit ++
        " OFFSET " ++ toString page.offset) :: fs) := by
      refine startsCalm_fixed fs ?_ ?_
      · rw [htext]
        simp
      · rw [htext]
        simp [IsCalm]
    refine ⟨isMarked_append (isMarked_orderClause sort) (isMarked_fixed hquiet isMarked_nil)
      (hcalm []), ?_⟩
    rw [after, Table.orderClause]
    split
    · exact hcalm []
    · exact startsCalm_fixed _ (by decide) (by decide)
  | _ => exact ⟨isMarked_nil, startsCalm_nil⟩

theorem text_statement : (r.statement t p).text =
    r.head t ++ ((t.condition p).text ++ r.tail t.dialect) := by
  rw [statement_eq]
  show textFrom _ _ _ = _
  rw [textFrom_append, textFrom_append, textFrom_before, boundValues_before, textFrom_after]
  rfl

theorem parameters_statement : (r.statement t p).parameters = p.literals := by
  rw [statement_eq]
  show boundValues _ = _
  rw [boundValues_append, boundValues_append, boundValues_before, boundValues_after,
    boundValues_conditionFragments, List.append_nil, List.nil_append]

theorem joins_statement : (r.statement t p).joins =
    (joinUses (p.columns [] ++ r.sort.map SortKey.field)).eraseDups := by
  rw [statement_eq]
  show (List.filterMap _ _).eraseDups = _
  rw [filterMap_join_eq, mentioned, List.flatMap_append, List.flatMap_append]
  show (joinUses (mentioned _ ++ (mentioned _ ++ mentioned _))).eraseDups = _
  rw [mentioned_before, mentioned_conditionFragments, mentioned_after, List.nil_append]

/-- Behind the head the marks are those of the values. -/
theorem marks_condition_tail : marks t.dialect ((t.condition p).text ++ r.tail t.dialect) =
    (List.range' 1 p.literals.length).map t.dialect.placeholder := by
  obtain ⟨hmarked, hcalm⟩ := isMarked_after r t.dialect
  have hall := marks_textFrom (isMarked_append (isMarked_conditionFragments p) hmarked hcalm) 1
  rw [textFrom_append, textFrom_after, boundValues_append, boundValues_after, List.append_nil,
    boundValues_conditionFragments] at hall
  exact hall

theorem marks_statement (h : t.IsUnmarked) : marks t.dialect (r.statement t p).text =
    (List.range' 1 p.literals.length).map t.dialect.placeholder := by
  have hhead (before : String) (hquiet : IsQuiet before.toList) (rest : String) :
      marks t.dialect (before ++ t.sourceText ++ " WHERE " ++ rest) = marks t.dialect rest := by
    have hwhere : IsQuiet " WHERE ".toList := by decide
    rw [String.append_assoc, String.append_assoc, marks, String.toList_append,
      marksFrom_quiet hquiet]
    show marks t.dialect (t.sourceText ++ (" WHERE " ++ rest)) = _
    rw [Table.marks_sourceText h, marks, String.toList_append, marksFrom_quiet hwhere, marks]
  rw [text_statement, ← marks_condition_tail t p r]
  cases r with
  | condition => exact congrArg (marks t.dialect) String.empty_append
  | count => exact hhead "SELECT COUNT(*) FROM " (by decide) _
  | select page sort => exact hhead "SELECT * FROM " (by decide) _

end Request

open Request in
/-- Whatever is asked of a table, the values of the predicate are bound and not written. -/
theorem statement_binds_values (t : Table) (p : Predicate) (r : Request) :
    (∀ q : Predicate, q.erased = p.erased → (r.statement t q).text = (r.statement t p).text ∧
      (r.statement t q).joins = (r.statement t p).joins) ∧
    ((r.statement t p).text = r.head t ++ ((t.condition p).text ++ r.tail t.dialect) ∧
      (r.statement t p).parameters = (t.condition p).parameters) ∧
    (r.statement t p).parameters = p.literals ∧
    marks t.dialect ((t.condition p).text ++ r.tail t.dialect) =
      (List.range' 1 (r.statement t p).parameters.length).map t.dialect.placeholder ∧
    (t.IsUnmarked → marks t.dialect (r.statement t p).text =
      (List.range' 1 (r.statement t p).parameters.length).map t.dialect.placeholder) ∧
    AreFirstUses (r.statement t p).joins (joinUses (p.columns [] ++ r.sort.map SortKey.field)) := by
  refine ⟨fun q hq => ?_, ⟨text_statement t p r, ?_⟩, parameters_statement t p r, ?_, ?_, ?_⟩
  · rw [statement_eq, statement_eq]
    refine ofFragments_eq_of_erased_eq ?_
    have hcondition : (conditionFragments t.dialect q).map Fragment.erased =
        (conditionFragments t.dialect p).map Fragment.erased := by
      have hp := erased_conditionTokens (d := t.dialect) p []
      rw [← hq, erased_conditionTokens q []] at hp
      exact hp
    simp only [List.map_append, hcondition]
  · rw [parameters_statement]
    exact (parameters_statement t p .condition).symm
  · rw [parameters_statement, marks_condition_tail]
  · rw [parameters_statement]
    exact marks_statement t p r
  · rw [joins_statement]
    exact areFirstUses_eraseDups _

/-- Orders under a name of their own. -/
def ordersTable : Table := ⟨"orders", .postgres, some "orders AS \"o\""⟩

/-- Orders with this status and more than so many of an item. -/
def bulkOrders (status : String) (count : Int) : Predicate :=
  .and [.compare ["status"] .eq (.string status),
    .nested ["items"] (.compare ["count"] .gt (.integer count))]

theorem ordersTable_statement_binds_values :
    (bulkOrders "$9 OR" 7).erased = (bulkOrders "paid" 2).erased ∧ ordersTable.IsUnmarked ∧
    ((Request.select ⟨0, 10⟩ [⟨["id"], .asc⟩]).statement ordersTable (bulkOrders "$9 OR" 7)).text =
      ((Request.select ⟨0, 10⟩ [⟨["id"], .asc⟩]).statement ordersTable (bulkOrders "paid" 2)).text ∧
    marks .postgres
        ((Request.select ⟨0, 10⟩ [⟨["id"], .asc⟩]).statement ordersTable
          (bulkOrders "paid" 2)).text =
      ["$1", "$2"] := by
  have herased : (bulkOrders "$9 OR" 7).erased = (bulkOrders "paid" 2).erased := rfl
  have hunmarked : ordersTable.IsUnmarked := by
    rintro text ⟨⟩ rest
    rw [marks, String.toList_append]
    rfl
  obtain ⟨hsame, -, hvalues, -, hmarks, -⟩ := statement_binds_values ordersTable
    (bulkOrders "paid" 2) (.select ⟨0, 10⟩ [⟨["id"], .asc⟩])
  refine ⟨herased, hunmarked, (hsame _ herased).1, (hmarks hunmarked).trans ?_⟩
  rw [hvalues]
  rfl

end Sql

end ListingQuery
