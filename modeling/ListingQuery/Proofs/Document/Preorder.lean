import Mathlib.Tactic.ByContra
import ListingQuery.Proofs.Document.StableSort
import ListingQuery.Proofs.Literal.Doubles

/-!
# Where the order of documents is transitive

The order of documents puts each before or behind any other, but it need not be transitive.  It
compares two strings in time if both are dates and as texts otherwise, and two numbers exactly if both
are signed 64-bit integers and as doubles otherwise.  Each of these mixtures is transitive exactly if
its two orders agree on what has a value of the other kind in between         (isTransOn_mixed_iff).

    compareBy keys is a total preorder ↔ the values at each key are in step   (compareBy_preorder_iff)
-/

namespace ListingQuery.Document

open Calendar (Instant)
open Std (TransCmp TransOrd OrientedCmp)

/-! ## Transitive comparisons -/

/-- The comparison is transitive on what satisfies `S`. -/
def IsTransOn {α : Type} (S : α → Prop) (cmp : α → α → Ordering) : Prop :=
  ∀ a b c, S a → S b → S c → (cmp a b).isLE → (cmp b c).isLE → (cmp a c).isLE

/-- The comparison the other way round is the reverse. -/
def IsReversed {α : Type} (cmp : α → α → Ordering) : Prop := ∀ a b, cmp b a = (cmp a b).swap

section Comparisons

variable {α β : Type} {S : α → Prop} {cmp : α → α → Ordering}

theorem IsReversed.isLE_or (h : IsReversed cmp) (a b : α) : (cmp a b).isLE ∨ (cmp b a).isLE := by
  rw [h a b]
  cases cmp a b <;> simp

theorem IsReversed.eq_iff (h : IsReversed cmp) (a b : α) :
    cmp a b = .eq ↔ (cmp a b).isLE ∧ (cmp b a).isLE := by
  rw [h a b]
  cases cmp a b <;> simp

theorem IsReversed.self (h : IsReversed cmp) (a : α) : cmp a a = .eq := by
  rw [h.eq_iff]
  rcases h.isLE_or a a with hle | hle <;> exact ⟨hle, hle⟩

/-- Two values around a third are equal only if all are. -/
theorem IsTransOn.eq_of_eq (htrans : IsTransOn S cmp) (hrev : IsReversed cmp) {a b c : α}
    (ha : S a) (hb : S b) (hc : S c) (hab : (cmp a b).isLE) (hbc : (cmp b c).isLE)
    (hac : cmp a c = .eq) : cmp a b = .eq ∧ cmp b c = .eq := by
  obtain ⟨-, hca⟩ := (hrev.eq_iff a c).1 hac
  exact ⟨(hrev.eq_iff a b).2 ⟨hab, htrans b c a hb hc ha hbc hca⟩,
    (hrev.eq_iff b c).2 ⟨hbc, htrans c a b hc ha hb hca hab⟩⟩

theorem isTransOn_of_transCmp [TransCmp cmp] : IsTransOn S cmp :=
  fun _ _ _ _ _ _ => TransCmp.isLE_trans

/-- The reverse of a transitive comparison is transitive. -/
theorem IsTransOn.swap (h : IsTransOn S cmp) (hrev : IsReversed cmp) :
    IsTransOn S fun a b => (cmp a b).swap := by
  intro a b c ha hb hc
  have hback (a b : α) : (cmp a b).swap = cmp b a := (hrev a b).symm
  simp only [hback]
  exact fun hba hcb => h c b a hc hb ha hcb hba

/-- One transitive comparison after another is transitive. -/
theorem IsTransOn.then {cmp' : α → α → Ordering} (h : IsTransOn S cmp) (hrev : IsReversed cmp)
    (h' : IsTransOn S cmp') : IsTransOn S fun a b => (cmp a b).then (cmp' a b) := by
  have hsplit (o o' : Ordering) : (o.then o').isLE ↔ o.isLE ∧ (o = .eq → o'.isLE) := by
    cases o <;> simp
  intro a b c ha hb hc hab hbc
  rw [hsplit] at hab hbc ⊢
  refine ⟨h a b c ha hb hc hab.1 hbc.1, fun hac => ?_⟩
  obtain ⟨hab', hbc'⟩ := h.eq_of_eq hrev ha hb hc hab.1 hbc.1 hac
  exact h' a b c ha hb hc (hab.2 hab') (hbc.2 hbc')

/-! ## Two comparisons mixed -/

/-- Values that both have a key are compared by their keys, all others as they are. -/
def mixed (key? : α → Option β) (first : β → β → Ordering) (second : α → α → Ordering)
    (x y : α) : Ordering :=
  match key? x, key? y with
  | some a, some b => first a b
  | _, _ => second x y

variable {key? : α → Option β} {first : β → β → Ordering} {second : α → α → Ordering}

theorem mixed_of_some {x y : α} {a b : β} (hx : key? x = some a) (hy : key? y = some b) :
    mixed key? first second x y = first a b := by
  rw [mixed, hx, hy]

theorem mixed_of_none_left {x : α} (hx : key? x = none) (y : α) :
    mixed key? first second x y = second x y := by
  rw [mixed, hx]

theorem mixed_of_none_right (x : α) {y : α} (hy : key? y = none) :
    mixed key? first second x y = second x y := by
  rw [mixed, hy]
  cases key? x <;> rfl

/-- The two comparisons agree on values with keys that have a value without key in between. -/
def AgreeAround (S : α → Prop) (key? : α → Option β) (first : β → β → Ordering)
    (second : α → α → Ordering) : Prop :=
  ∀ x y z a c, S x → S y → S z → key? x = some a → key? y = none → key? z = some c →
    (second x y).isLE → (second y z).isLE → first a c = second x z

theorem agreeAround_of_isTransOn (hfirst : IsReversed first) (hsecond : IsReversed second)
    (htrans : IsTransOn S second) (h : IsTransOn S (mixed key? first second)) :
    AgreeAround S key? first second := by
  intro x y z a c hx hy hz ha hb hc hxy hyz
  have hmixed : mixed key? first second x z = first a c := mixed_of_some ha hc
  have hxy' : mixed key? first second x y = second x y := mixed_of_none_right x hb
  have hyz' : mixed key? first second y z = second y z := mixed_of_none_left hb z
  have hfirst_le : (first a c).isLE := by
    have := h x y z hx hy hz (hxy' ▸ hxy) (hyz' ▸ hyz)
    rwa [hmixed] at this
  have hsecond_le : (second x z).isLE := htrans x y z hx hy hz hxy hyz
  -- equal by one comparison, the outer values are equal to the inner one, and so by the other
  have hiff : first a c = .eq ↔ second x z = .eq := by
    constructor
    · intro heq
      have hca : (mixed key? first second z x).isLE := by
        rw [mixed_of_some hc ha, hfirst a c, heq]
        rfl
      have hzy := h z x y hz hx hy hca (hxy' ▸ hxy)
      have hyx := h y z x hy hz hx (hyz' ▸ hyz) hca
      rw [mixed_of_none_right z hb] at hzy
      rw [mixed_of_none_left hb x] at hyx
      exact (hsecond.eq_iff x z).2 ⟨hsecond_le, htrans z y x hz hy hx hzy hyx⟩
    · intro heq
      obtain ⟨hxy'', hyz''⟩ := htrans.eq_of_eq hsecond hx hy hz hxy hyz heq
      have hzy : (mixed key? first second z y).isLE := by
        rw [mixed_of_none_right z hb, hsecond y z, hyz'']
        rfl
      have hyx : (mixed key? first second y x).isLE := by
        rw [mixed_of_none_left hb x, hsecond x y, hxy'']
        rfl
      have hca := h z y x hz hy hx hzy hyx
      rw [mixed_of_some hc ha] at hca
      exact (hfirst.eq_iff a c).2 ⟨hfirst_le, hca⟩
  cases hac : first a c <;> cases hxz : second x z <;> simp_all

theorem isTransOn_of_agreeAround [TransCmp first] (hsecond : IsReversed second)
    (htrans : IsTransOn S second) (h : AgreeAround S key? first second) :
    IsTransOn S (mixed key? first second) := by
  have hfirst : IsReversed first := fun a b => OrientedCmp.eq_swap
  intro x y z hx hy hz hxy hyz
  cases ha : key? x with
  | none =>
    rw [mixed_of_none_left ha] at hxy ⊢
    cases hb : key? y with
    | none =>
      rw [mixed_of_none_left hb] at hyz
      exact htrans x y z hx hy hz hxy hyz
    | some b =>
      cases hc : key? z with
      | none =>
        rw [mixed_of_none_right y hc] at hyz
        exact htrans x y z hx hy hz hxy hyz
      | some c =>
        rw [mixed_of_some hb hc] at hyz
        by_contra hgt
        -- otherwise `x` lies between `z` and `y`, and the two are equal
        have hzx : (second z x).isLE := (hsecond.isLE_or x z).resolve_left hgt
        have hagree := h z x y c b hz hx hy hc ha hb hzx hxy
        have hcb : (first c b).isLE := hagree ▸ htrans z x y hz hx hy hzx hxy
        have heq : second z y = .eq := hagree ▸ (hfirst.eq_iff c b).2 ⟨hcb, hyz⟩
        exact hgt (htrans x y z hx hy hz hxy ((hsecond.eq_iff z y).1 heq).2)
  | some a =>
    cases hb : key? y with
    | none =>
      rw [mixed_of_none_right x hb] at hxy
      rw [mixed_of_none_left hb] at hyz
      have hxz := htrans x y z hx hy hz hxy hyz
      cases hc : key? z with
      | none => rwa [mixed_of_none_right x hc]
      | some c => rwa [mixed_of_some ha hc, h x y z a c hx hy hz ha hb hc hxy hyz]
    | some b =>
      rw [mixed_of_some ha hb] at hxy
      cases hc : key? z with
      | none =>
        rw [mixed_of_none_right y hc] at hyz
        rw [mixed_of_none_right x hc]
        by_contra hgt
        have hzx : (second z x).isLE := (hsecond.isLE_or x z).resolve_left hgt
        have hagree := h y z x b a hy hz hx hb hc ha hyz hzx
        have hba : (first b a).isLE := hagree ▸ htrans y z x hy hz hx hyz hzx
        have heq : second y x = .eq := hagree ▸ (hfirst.eq_iff b a).2 ⟨hba, hxy⟩
        exact hgt (htrans x y z hx hy hz ((hsecond.eq_iff y x).1 heq).2 hyz)
      | some c =>
        rw [mixed_of_some hb hc] at hyz
        rw [mixed_of_some ha hc]
        exact TransCmp.isLE_trans hxy hyz

/-- A mixture is transitive exactly if its comparisons agree around values without key. -/
theorem isTransOn_mixed_iff [TransCmp first] (hsecond : IsReversed second)
    (htrans : IsTransOn S second) :
    IsTransOn S (mixed key? first second) ↔ AgreeAround S key? first second :=
  ⟨agreeAround_of_isTransOn (fun _ _ => OrientedCmp.eq_swap) hsecond htrans,
    isTransOn_of_agreeAround hsecond htrans⟩

end Comparisons

/-! ## Strings -/

theorem compareStrings_eq_mixed :
    compareStrings = mixed Instant.ofText? Instant.compare compare := by
  funext x y
  rw [compareStrings, mixed]
  cases Instant.ofText? x <;> cases Instant.ofText? y <;> rfl

instance : TransCmp Instant.compare where
  eq_swap := Instant.compare_swap ..
  isLE_trans := by
    have hkey (a b : Instant) : a.compare b = compare
        [a.date.year, a.date.month, a.date.day, a.second, a.nano]
        [b.date.year, b.date.month, b.date.day, b.second, b.nano] := by
      simp only [Instant.compare, Calendar.Date.compare, List.compare_cons_cons,
        Doubles.compare_natCast, List.compare_nil_nil, Ordering.then_eq, Ordering.then_assoc]
    intro a b c
    simp only [hkey]
    exact TransCmp.isLE_trans

/-- A text that is no date stands between two dates only if those are in the order of time. -/
def TextsInStep (S : String → Prop) : Prop :=
  ∀ x t y a b, S x → S t → S y → Instant.ofText? x = some a → Instant.ofText? t = none →
    Instant.ofText? y = some b → x < t → t < y → a.compare b = .lt

theorem compare_eq_lt_iff (x y : String) : compare x y = .lt ↔ x < y :=
  compareOfLessAndEq_eq_lt

theorem isTransOn_compareStrings_iff (S : String → Prop) :
    IsTransOn S compareStrings ↔ TextsInStep S := by
  rw [compareStrings_eq_mixed, isTransOn_mixed_iff (fun _ _ => OrientedCmp.eq_swap)
    isTransOn_of_transCmp]
  -- a date and a text that is none are different texts
  have hlt {x y : String} (hne : Instant.ofText? x ≠ Instant.ofText? y) :
      (compare x y).isLE ↔ x < y := by
    rw [← compare_eq_lt_iff]
    cases hc : compare x y with
    | eq => exact absurd (congrArg _ (Std.LawfulEqOrd.eq_of_compare hc)) hne
    | _ => simp
  constructor
  · intro h x t y a b hx ht hy ha hnone hb hxt hty
    have hagree := h x t y a b hx ht hy ha hnone hb
      ((hlt (by rw [ha, hnone]; nofun)).2 hxt) ((hlt (by rw [hb, hnone]; nofun)).2 hty)
    rw [hagree, compare_eq_lt_iff]
    exact String.lt_trans hxt hty
  · intro h x t y a b hx ht hy ha hnone hb hxt hty
    have hxt := (hlt (by rw [ha, hnone]; nofun)).1 hxt
    have hty := (hlt (by rw [hb, hnone]; nofun)).1 hty
    rw [h x t y a b hx ht hy ha hnone hb hxt hty, eq_comm, compare_eq_lt_iff]
    exact String.lt_trans hxt hty

/-! ## Numbers -/

/-- A number that is no signed 64-bit integer stands between the doubles of two of them only if those
are in order. -/
def NumbersInStep (S : Number → Prop) : Prop :=
  ∀ x t y m n, S x → S t → S y → x.int64? = some m → t.int64? = none → y.int64? = some n →
    x.toFloat ≤ t.toFloat → t.toFloat ≤ y.toFloat → m ≤ n

/-- The order of the doubles of two numbers; there is none if one of them is no number. -/
def compareDoubles (x y : Number) : Ordering :=
  (Literal.compareFloat x.toFloat y.toFloat).getD .eq

theorem compareNumbers_eq_mixed :
    compareNumbers = mixed Number.int64? compare compareDoubles := by
  funext x y
  rw [compareNumbers, mixed]
  cases x.int64? <;> cases y.int64? <;> rfl

theorem isReversed_compareDoubles : IsReversed compareDoubles := by
  intro x y
  rw [compareDoubles, compareDoubles, Literal.compareFloat_swap]
  cases Literal.compareFloat x.toFloat y.toFloat <;> rfl

/-- The double of a number is a number. -/
def IsNumeric (x : Number) : Prop := x.toFloat.isNaN = false

theorem isTransOn_compareDoubles {S : Number → Prop} (hS : ∀ x, S x → IsNumeric x) :
    IsTransOn S compareDoubles := by
  have hkey {x y : Number} (hx : S x) (hy : S y) :
      compareDoubles x y = compare (Doubles.floatKey x.toFloat) (Doubles.floatKey y.toFloat) := by
    rw [compareDoubles, Doubles.compareFloat_eq_compare (hS x hx) (hS y hy), Option.getD_some]
  intro x y z hx hy hz
  rw [hkey hx hy, hkey hy hz, hkey hx hz]
  exact TransCmp.isLE_trans

theorem isLE_compareDoubles_iff {x y : Number} (hx : IsNumeric x) (hy : IsNumeric y) :
    (compareDoubles x y).isLE ↔ x.toFloat ≤ y.toFloat := by
  have hle : x.toFloat ≤ y.toFloat ↔
      (x.toFloat.toModel.unpack.compare y.toFloat.toModel.unpack).any (·.isLE) = true := by
    show Float.le x.toFloat y.toFloat = true ↔ _
    rw [Float.le, decide_eq_true_iff]
    rfl
  rw [hle, ← Literal.compareFloat_eq, compareDoubles, Doubles.compareFloat_eq_compare hx hy]
  rfl

theorem eq_of_int64? {x : Number} {n : Int} (h : x.int64? = some n) : x = .int n := by
  cases x with
  | int m =>
    obtain ⟨-, h⟩ := Option.ite_none_right_eq_some.1 h
    rw [Option.some.inj h]
  | float => cases h

theorem isTransOn_compareNumbers_iff {S : Number → Prop} (hS : ∀ x, S x → IsNumeric x) :
    IsTransOn S compareNumbers ↔ NumbersInStep S := by
  have htrans := isTransOn_compareDoubles hS
  rw [compareNumbers_eq_mixed, isTransOn_mixed_iff isReversed_compareDoubles htrans]
  constructor
  · intro h x t y m n hx ht hy hm hnone hn hxt hty
    have hxt := (isLE_compareDoubles_iff (hS x hx) (hS t ht)).2 hxt
    have hty := (isLE_compareDoubles_iff (hS t ht) (hS y hy)).2 hty
    have hagree := h x t y m n hx ht hy hm hnone hn hxt hty
    have hle := htrans x t y hx ht hy hxt hty
    rw [← hagree] at hle
    by_contra hgt
    rw [Int.compare_eq_gt.2 (by omega)] at hle
    cases hle
  · intro h x t y m n hx ht hy hm hnone hn hxt hty
    have hxt' := (isLE_compareDoubles_iff (hS x hx) (hS t ht)).1 hxt
    have hty' := (isLE_compareDoubles_iff (hS t ht) (hS y hy)).1 hty
    have hmn := h x t y m n hx ht hy hm hnone hn hxt' hty'
    have hle := htrans x t y hx ht hy hxt hty
    rcases Int.lt_or_eq_of_le hmn with hlt | heq
    -- different integers in order; if their doubles were equal, they would be in order both ways
    · rw [Int.compare_eq_lt.2 hlt]
      cases hc : compareDoubles x y with
      | lt => rfl
      | gt => rw [hc] at hle; cases hle
      | eq =>
        obtain ⟨hxt'', hty''⟩ :=
          htrans.eq_of_eq isReversed_compareDoubles hx ht hy hxt hty hc
        have htx := ((isReversed_compareDoubles.eq_iff x t).1 hxt'').2
        have hyt := ((isReversed_compareDoubles.eq_iff t y).1 hty'').2
        have hnm := h y t x n m hy ht hx hn hnone hm
          ((isLE_compareDoubles_iff (hS y hy) (hS t ht)).1 hyt)
          ((isLE_compareDoubles_iff (hS t ht) (hS x hx)).1 htx)
        omega
    · have hxy : x = y := (eq_of_int64? hm).trans (heq ▸ (eq_of_int64? hn).symm)
      rw [Int.compare_eq_eq.2 heq, hxy, isReversed_compareDoubles.self]

/-! ## Values -/

/-- The values of each kind are in step. -/
structure AreInStep (vs : List Json) : Prop where
  texts : TextsInStep fun s => .string s ∈ vs
  numbers : NumbersInStep fun n => .number n ∈ vs

theorem compareValues_of_rank_ne {x y : Json} (h : rank x ≠ rank y) :
    compareValues x y = compare (rank x) (rank y) := by
  cases x <;> cases y <;> first | rfl | exact absurd rfl h

theorem rank_le_of_isLE {x y : Json} (h : (compareValues x y).isLE) : rank x ≤ rank y := by
  by_cases hrank : rank x = rank y
  · exact Nat.le_of_eq hrank
  · rw [compareValues_of_rank_ne hrank] at h
    by_contra hgt
    rw [Nat.compare_eq_gt.2 (by omega)] at h
    cases h

theorem isTransOn_compareValues {S : Json → Prop}
    (hstrings : IsTransOn (fun s => S (.string s)) compareStrings)
    (hnumbers : IsTransOn (fun n => S (.number n)) compareNumbers) :
    IsTransOn S compareValues := by
  intro x y z hx hy hz hxy hyz
  have hxy' := rank_le_of_isLE hxy
  have hyz' := rank_le_of_isLE hyz
  by_cases hrank : rank x = rank z
  · have hbool (a b c : Bool) : (compare a b).isLE → (compare b c).isLE → (compare a c).isLE :=
      TransCmp.isLE_trans
    -- only values of one kind are left
    cases x with
    | null | array | object => cases z <;> first | rfl | cases hrank
    | bool a =>
      cases z <;> cases hrank
      cases y <;> first | exact hbool _ _ _ hxy hyz | simp [rank] at hxy' hyz'
    | number a =>
      cases z <;> cases hrank
      cases y <;> first | exact hnumbers _ _ _ hx hy hz hxy hyz | simp [rank] at hxy' hyz'
    | string a =>
      cases z <;> cases hrank
      cases y <;> first | exact hstrings _ _ _ hx hy hz hxy hyz | simp [rank] at hxy' hyz'
  · rw [compareValues_of_rank_ne hrank, Nat.compare_eq_lt.2 (by omega)]
    rfl

/-- The order of some values is transitive exactly if the values are in step. -/
theorem isTransOn_compareValues_iff {vs : List Json} (hvs : ∀ n, .number n ∈ vs → IsNumeric n) :
    IsTransOn (· ∈ vs) compareValues ↔ AreInStep vs := by
  constructor
  · intro h
    refine ⟨(isTransOn_compareStrings_iff _).1 ?_, (isTransOn_compareNumbers_iff hvs).1 ?_⟩
    · exact fun x y z => h (.string x) (.string y) (.string z)
    · exact fun x y z => h (.number x) (.number y) (.number z)
  · intro h
    exact isTransOn_compareValues ((isTransOn_compareStrings_iff _).2 h.texts)
      ((isTransOn_compareNumbers_iff hvs).2 h.numbers)

/-! ## Documents -/

/-- Every double in a document is finite. -/
def HasFiniteDoubles (d : Json) : Prop :=
  ∀ path x, .number (.float x) ∈ d.elementsAt path → x.isFinite = true

theorem isNumeric_sortValue {d : Json} (h : HasFiniteDoubles d) {field : FieldPath} {n : Number}
    (hn : .number n = sortValue d field) : IsNumeric n := by
  cases n with
  | int n => exact Doubles.isNaN_ofInt n
  | float x =>
    refine Doubles.isNaN_of_isFinite (h field x ?_)
    rw [sortValue] at hn
    cases hhead : (d.elementsAt field).head? with
    | none => rw [hhead] at hn; cases hn
    | some v =>
      rw [hhead, Option.getD_some] at hn
      exact hn ▸ List.mem_of_mem_head? hhead

/-- The values that a key looks at are in step. -/
def FieldInStep (ds : List Json) (field : FieldPath) : Prop :=
  AreInStep (ds.map fun d => sortValue d field)

theorem isTransOn_sortValue_iff {ds : List Json} (hds : ∀ d ∈ ds, HasFiniteDoubles d)
    (field : FieldPath) :
    IsTransOn (· ∈ ds) (fun a b => compareValues (sortValue a field) (sortValue b field)) ↔
      FieldInStep ds field := by
  rw [FieldInStep, ← isTransOn_compareValues_iff]
  · constructor
    · intro h x y z hx hy hz
      obtain ⟨a, ha, rfl⟩ := List.mem_map.1 hx
      obtain ⟨b, hb, rfl⟩ := List.mem_map.1 hy
      obtain ⟨c, hc, rfl⟩ := List.mem_map.1 hz
      exact h a b c ha hb hc
    · exact fun h a b c ha hb hc => h _ _ _ (List.mem_map_of_mem ha) (List.mem_map_of_mem hb)
        (List.mem_map_of_mem hc)
  · intro n hn
    obtain ⟨d, hd, hv⟩ := List.mem_map.1 hn
    exact isNumeric_sortValue (hds d hd) hv.symm

theorem isReversed_compareBy (keys : List SortKey) : IsReversed (compareBy keys) :=
  compareBy_swap keys

/-- Keys are transitive together if each is. -/
theorem isTransOn_compareBy {ds : List Json} {keys : List SortKey}
    (h : ∀ key ∈ keys, IsTransOn (· ∈ ds) fun a b =>
      compareValues (sortValue a key.field) (sortValue b key.field)) :
    IsTransOn (· ∈ ds) (compareBy keys) := by
  induction keys with
  | nil => exact fun _ _ _ _ _ _ _ _ => rfl
  | cons key keys ih =>
    obtain ⟨hkey, hkeys⟩ := List.forall_mem_cons.1 h
    have hrev : IsReversed fun a b =>
        compareValues (sortValue a key.field) (sortValue b key.field) :=
      fun a b => compareValues_swap ..
    have hdirected : IsTransOn (· ∈ ds) fun a b => key.direction.orient
        (compareValues (sortValue a key.field) (sortValue b key.field)) := by
      cases key.direction with
      | asc => exact hkey
      | desc => exact hkey.swap hrev
    have hrev' : IsReversed fun a b => key.direction.orient
        (compareValues (sortValue a key.field) (sortValue b key.field)) := by
      intro a b
      dsimp only
      rw [compareValues_swap]
      cases key.direction <;> rfl
    exact hdirected.then hrev' (ih hkeys)

/-- The comparison is a total preorder of these documents: each is equal to itself, the comparison
the other way round is the reverse, and it is transitive, equal only through equal ones. -/
structure IsPreorderOn (cmp : Json → Json → Ordering) (ds : List Json) : Prop where
  self : ∀ a ∈ ds, cmp a a = .eq
  reverse : ∀ a ∈ ds, ∀ b ∈ ds, cmp b a = (cmp a b).swap
  trans : ∀ a ∈ ds, ∀ b ∈ ds, ∀ c ∈ ds, (cmp a b).isLE → (cmp b c).isLE →
    (cmp a c).isLE ∧ (cmp a c = .eq → cmp a b = .eq ∧ cmp b c = .eq)

theorem isPreorderOn_iff {cmp : Json → Json → Ordering} (hrev : IsReversed cmp) {ds : List Json} :
    IsPreorderOn cmp ds ↔ IsTransOn (· ∈ ds) cmp := by
  constructor
  · exact fun h a b c ha hb hc hab hbc => (h.trans a ha b hb c hc hab hbc).1
  · exact fun h => ⟨fun a _ => hrev.self a, fun a _ b _ => hrev a b, fun a ha b hb c hc hab hbc =>
      ⟨h a b c ha hb hc hab hbc, h.eq_of_eq hrev ha hb hc hab hbc⟩⟩

/-- Any documents are equal to themselves and compare the other way round in reverse; all keys on
some fields order them as a total preorder exactly if the values at each of the fields are in step. -/
theorem compareBy_preorder_iff {ds : List Json} (hds : ∀ d ∈ ds, HasFiniteDoubles d)
    (fields : List FieldPath) :
    (∀ keys a, compareBy keys a a = .eq) ∧
    (∀ keys a b, compareBy keys b a = (compareBy keys a b).swap) ∧
    ((∀ keys : List SortKey, (∀ key ∈ keys, key.field ∈ fields) →
        IsPreorderOn (compareBy keys) ds) ↔
      ∀ field ∈ fields, FieldInStep ds field) := by
  refine ⟨fun keys => (isReversed_compareBy keys).self, compareBy_swap, ?_, ?_⟩
  · intro h field hfield
    have hkey := h [⟨field, .asc⟩] (by simpa using hfield)
    rw [isPreorderOn_iff (isReversed_compareBy _)] at hkey
    rw [← isTransOn_sortValue_iff hds]
    simpa only [compareBy, Ordering.then_eq, Direction.orient] using hkey
  · intro h keys hkeys
    rw [isPreorderOn_iff (isReversed_compareBy keys)]
    exact isTransOn_compareBy fun key hkey =>
      (isTransOn_sortValue_iff hds key.field).2 (h _ (hkeys key hkey))

/-! ## Documents with a date -/

/-- A document whose only member is a text. -/
def dated (text : String) : Json := .object [("at", .string text)]

theorem hasFiniteDoubles_dated (text : String) : HasFiniteDoubles (dated text) := by
  intro path x hx
  match path with
  | [] => simp [dated, Json.elementsAt, Json.valuesAt, Json.elements] at hx
  | [key] =>
    by_cases hkey : "at" = key <;>
      simp [dated, Json.elementsAt, Json.valuesAt, Json.valuesAtKey, Json.elements, hkey] at hx
  | key :: next :: rest =>
    by_cases hkey : "at" = key <;>
      simp [dated, Json.elementsAt, Json.valuesAt, Json.valuesAtKey, hkey] at hx

theorem sortValue_dated (text : String) : sortValue (dated text) ["at"] = .string text := rfl

/-- A note behind all dates does not disturb their order. -/
theorem notedDates_preorder :
    let ds := [dated "2024-01-01T00:30:00+02:00", dated "2024-01-01T00:00:00Z", dated "soon"]
    (∀ d ∈ ds, HasFiniteDoubles d) ∧ FieldInStep ds ["at"] ∧
      ∀ keys : List SortKey, (∀ key ∈ keys, key.field ∈ [["at"]]) →
        IsPreorderOn (compareBy keys) ds := by
  intro ds
  have hds : ∀ d ∈ ds, HasFiniteDoubles d := by
    simp only [ds, List.forall_mem_cons, hasFiniteDoubles_dated, List.not_mem_nil, false_implies,
      implies_true, and_self]
  have hstep : FieldInStep ds ["at"] := by
    refine ⟨?_, ?_⟩
    · intro x t y a b _ ht hy _ hnone hb _ hty
      simp only [ds, List.map_cons, sortValue_dated, List.map_nil, List.mem_cons, Json.string.injEq,
        List.not_mem_nil, or_false] at ht hy
      have hfirst : Instant.ofText? "2024-01-01T00:30:00+02:00" ≠ none := by decide +kernel
      have hsecond : Instant.ofText? "2024-01-01T00:00:00Z" ≠ none := by decide +kernel
      have hlast : Instant.ofText? "soon" = none := by decide +kernel
      -- the note is the only text that is no date, and no date comes after it
      rcases ht with rfl | rfl | rfl
      · exact absurd hnone hfirst
      · exact absurd hnone hsecond
      · rcases hy with rfl | rfl | rfl
        · exact absurd hty (by decide +kernel)
        · exact absurd hty (by decide +kernel)
        · rw [hlast] at hb
          cases hb
    · intro x t y m n hx
      simp [ds, sortValue_dated] at hx
  refine ⟨hds, hstep, ?_⟩
  have hiff := (compareBy_preorder_iff hds [["at"]]).2.2
  exact hiff.2 (by simpa using hstep)

/-- A document whose only member is a number. -/
def counted (n : Number) : Json := .object [("n", .number n)]

/-- A time without offset or seconds is no date: it stands between two dates as a text, but these are
in the other order in time.  And a double is equal to two integers that are not equal. -/
theorem comparisons_not_transitive :
    (let early := dated "2024-01-01T00:30:00+02:00"
     let late := dated "2024-01-01T00:00:00Z"
     let note := dated "2024-01-01T00:15"
     let keys := [⟨["at"], .asc⟩]
     compareBy keys early late = .lt ∧ compareBy keys late note = .lt ∧
       compareBy keys note early = .lt) ∧
    (let odd := counted (.int 9007199254740993)
     let double := counted (.float 9007199254740992)
     let even := counted (.int 9007199254740992)
     let keys := [⟨["n"], .asc⟩]
     compareBy keys odd double = .eq ∧ compareBy keys double even = .eq ∧
       compareBy keys odd even = .gt) := by
  decide +kernel

end ListingQuery.Document
