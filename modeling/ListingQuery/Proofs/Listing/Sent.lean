import ListingQuery.Proofs.Filter.Typed
import ListingQuery.Proofs.Listing.Calls

/-!
# What stores are sent

A store may rely on the form of the predicates that it is sent, and need not check it: the normal
form, without anything that could be left out, and in every test a path and literals that fit.  What
is compiled from a description has this form.  It is kept where the fixed predicate of the listing
and an additional one are joined with it, if they have the form themselves.

    l.assemble d = .ok q → q.predicate.InForm (InForce l.schema d)    (inForm_of_assemble)
    every predicate in a call has the form                            (sent_predicates_in_form)
-/

namespace ListingQuery

open Predicate

variable {σ ρ : Type} {m : Type → Type}

/-- The literal is one of a filter of the description at this field, read in the type that is in
force for this filter. -/
def InForce (schema : CollectionSchema) (d : QueryDescription) (path : FieldPath) (v : Literal) :
    Prop :=
  ∃ entry ∈ d.filters, ∃ field, schema.shape.resolve entry.1 = .ok field ∧ field.path = path ∧
    v.columnType? = some (typeInForce entry.2 field) ∧
    entry.2.Reads (typeInForce entry.2 field) v

namespace AssembledQuery

/-- A filter that stems from an entry reads literals in the type that is in force. -/
theorem inForce_of_stems {schema : CollectionSchema} {d : QueryDescription} {f : ColumnFilter}
    {path : FieldPath} (h : f.Stems schema.shape d.filters path) :
    FilterNode.ReadsAllowed (InForce schema d) f path := by
  obtain ⟨entry, hentry, field, hfield, rfl, rfl⟩ := h
  intro v hv
  have htype : v.columnType? = some (typeInForce entry.2 field) := by
    obtain ⟨raw, -, hraw⟩ := hv
    exact (ColumnType.proper_of_convert? hraw).2
  exact ⟨entry, hentry, field, hfield, rfl, htype, hv⟩

theorem inForm_of_assemble {schema : CollectionSchema} {d : QueryDescription} {maxPageSize : Nat}
    {q : AssembledQuery} (h : assemble schema d maxPageSize = .ok q) :
    q.predicate.InForm (InForce schema d) := by
  refine ⟨isNormal_of_assemble h, ?_⟩
  obtain ⟨page, t, sort, -, ht, -, rfl⟩ := assemble_eq_ok_iff.1 h
  exact FilterTree.isTyped_predicate fun f path hf => inForce_of_stems (stems_of_tree ht f path hf)

end AssembledQuery

/-- The predicate of a call. -/
def Exchange.predicate? : Exchange ρ → Option Predicate
  | count p? _ => p?
  | find p _ _ _ => some p

/-- All predicates of the calls have the form. -/
def AllInForm (allowed : FieldPath → Literal → Prop) (calls : List (Exchange ρ)) : Prop :=
  ∀ call ∈ calls, ∀ p ∈ call.predicate?, p.InForm allowed

theorem allInForm_cons {allowed : FieldPath → Literal → Prop} {call : Exchange ρ}
    {calls : List (Exchange ρ)} : AllInForm allowed (call :: calls) ↔
      (∀ p ∈ call.predicate?, p.InForm allowed) ∧ AllInForm allowed calls :=
  List.forall_mem_cons

theorem allInForm_nil {allowed : FieldPath → Literal → Prop} :
    AllInForm (ρ := ρ) allowed [] := List.forall_mem_nil _

namespace Listing

section Form

variable {l : Listing m ρ} {allowed : FieldPath → Literal → Prop} {additional? : Option Predicate}
  {q : AssembledQuery}

theorem inForm_filteredPredicate (hpre : ∀ p ∈ l.preFilter?, p.InForm allowed)
    (hadditional : ∀ p ∈ additional?, p.InForm allowed) (hq : q.predicate.InForm allowed) :
    (l.filteredPredicate q additional?).InForm allowed := by
  refine inForm_conj (List.forall_mem_append.2 ⟨fun p hp => ?_,
    List.forall_mem_cons.2 ⟨hq, fun p hp => ?_⟩⟩)
  · exact hpre p (Option.mem_toList.1 hp)
  · exact hadditional p (Option.mem_toList.1 hp)

theorem Fetches.allInForm {p : Predicate} (hp : p.InForm allowed) {page : Page}
    {sort : List SortKey} {r r' : QueryResult ρ} {calls : List (Exchange ρ)}
    (h : Fetches p page sort r calls r') : AllInForm allowed calls := by
  have hcall : ∀ p' ∈ some p, p'.InForm allowed := by
    rintro _ ⟨⟩
    exact hp
  cases h with
  | uncounted => exact allInForm_cons.2 ⟨hcall, allInForm_nil⟩
  | failed => exact allInForm_cons.2 ⟨hcall, allInForm_cons.2 ⟨hcall, allInForm_nil⟩⟩
  | fetched => exact allInForm_cons.2 ⟨hcall, allInForm_cons.2 ⟨hcall, allInForm_nil⟩⟩

variable {wording : Wording} {compiled : Except QueryError AssembledQuery}
  {calls : List (Exchange ρ)}
  (hpre : ∀ p ∈ l.preFilter?, p.InForm allowed)
  (hcompiled : ∀ q, compiled = .ok q → q.predicate.InForm allowed)
include hpre hcompiled

theorem Answers.allInForm (hadditional : ∀ p ∈ additional?, p.InForm allowed) {draw? : Option Nat}
    {r : QueryResult ρ} (h : Answers l wording draw? compiled additional? calls r) :
    AllInForm allowed calls := by
  cases h with
  | uncounted => exact allInForm_cons.2 ⟨hpre, allInForm_nil⟩
  | nothing => exact allInForm_cons.2 ⟨hpre, allInForm_nil⟩
  | uncompiled => exact allInForm_cons.2 ⟨hpre, allInForm_nil⟩
  | fetching _ ok fetches =>
    have hfiltered := inForm_filteredPredicate hpre hadditional (hcompiled _ ok)
    exact allInForm_cons.2 ⟨hpre, fetches.allInForm hfiltered⟩

theorem Counts.allInForm {c : CountResult} (h : Counts l wording compiled calls c) :
    AllInForm allowed calls := by
  have hfiltered (q : AssembledQuery) (ok : compiled = .ok q) :
      ∀ p ∈ some (l.filteredPredicate q none), p.InForm allowed := by
    rintro _ ⟨⟩
    exact inForm_filteredPredicate hpre (by simp) (hcompiled q ok)
  cases h with
  | uncounted => exact allInForm_cons.2 ⟨hpre, allInForm_nil⟩
  | nothing => exact allInForm_cons.2 ⟨hpre, allInForm_nil⟩
  | uncompiled => exact allInForm_cons.2 ⟨hpre, allInForm_nil⟩
  | unfiltered _ ok =>
    exact allInForm_cons.2 ⟨hpre, allInForm_cons.2 ⟨hfiltered _ ok, allInForm_nil⟩⟩
  | counted _ ok => exact allInForm_cons.2 ⟨hpre, allInForm_cons.2 ⟨hfiltered _ ok, allInForm_nil⟩⟩

end Form

/-- What is assembled has the form, and so has every predicate that a listing sends to its store, if
its fixed predicate and the additional one have it. -/
theorem sent_predicates_in_form :
    (∀ schema d maxPageSize q, AssembledQuery.assemble schema d maxPageSize = .ok q →
      q.predicate.InForm (InForce schema d)) ∧
    ∀ (l : Listing (Async σ) ρ) (d : QueryDescription) (additional? : Option Predicate)
      (allowed : FieldPath → Literal → Prop),
      (∀ path v, InForce l.schema d path v → allowed path v) →
      (∀ p ∈ l.preFilter?, p.InForm allowed) → (∀ p ∈ additional?, p.InForm allowed) →
      (∀ q, l.assemble d = .ok q → (l.filteredPredicate q additional?).InForm allowed) ∧
      ∀ wording w,
        AllInForm allowed ((l.recorded.findAllWith? wording d additional?).run (w, [])).world.2 ∧
        AllInForm allowed ((l.recorded.count wording d).run (w, [])).world.2 ∧
        ∀ q, l.assemble d = .ok q →
          AllInForm allowed ((l.recorded.execute q).run (w, [])).world.2 := by
  refine ⟨fun _ _ _ _ => AssembledQuery.inForm_of_assemble,
    fun l d additional? allowed hallowed hpre hadditional => ?_⟩
  have hassembled (q : AssembledQuery) (h : l.assemble d = .ok q) : q.predicate.InForm allowed :=
    (AssembledQuery.inForm_of_assemble h).mono hallowed
  refine ⟨fun q hq => inForm_filteredPredicate hpre hadditional (hassembled q hq),
    fun wording w => ⟨?_, ?_, fun q hq => ?_⟩⟩
  · obtain ⟨calls, hcalls, hanswers⟩ := l.answers_findAllWith? wording w [] d additional?
    rw [hcalls, List.nil_append]
    exact hanswers.allInForm hpre hassembled hadditional
  · obtain ⟨calls, hcalls, hcounts⟩ := l.counts_count wording w [] d
    rw [hcalls, List.nil_append]
    exact hcounts.allInForm hpre hassembled
  · obtain ⟨calls, hcalls, hanswers⟩ := l.answers_execute wording w [] q
    rw [hcalls, List.nil_append]
    refine hanswers.allInForm hpre ?_ (by simp)
    rintro _ ⟨⟩
    exact hassembled q hq

/-! ### Open orders -/

/-- The open orders of a store that always answers with the same one. -/
def openOrders : Listing (Async Nat) Nat where
  schema := ⟨"orders",
    ⟨"Order", [⟨"state", none, .scalar .string⟩, ⟨"total", none, .scalar .i64⟩]⟩, []⟩
  store := ⟨fun _ => ⟨fun calls => ⟨.ok 1, 2, calls + 1⟩⟩,
    fun _ _ _ => ⟨fun calls => ⟨.ok [7], 1, calls + 1⟩⟩⟩
  preFilter? := some (.compare ["state"] .eq (.string "open"))

/-- Orders of more than five, the number written as a text. -/
def costly : QueryDescription where
  filters := [("total", { gt? := some (.string "5") })]

/-- What the description asks for, or an open state. -/
def CostlyOrOpen (path : FieldPath) (v : Literal) : Prop :=
  InForce openOrders.schema costly path v ∨ path = ["state"] ∧ v = .string "open"

theorem openOrders_are_sent_in_form :
    (∀ path v, InForce openOrders.schema costly path v → CostlyOrOpen path v) ∧
    (∀ p ∈ openOrders.preFilter?, p.InForm CostlyOrOpen) ∧
    ∃ q, openOrders.assemble costly = .ok q ∧
      q.predicate = .compare ["total"] .gt (.integer 5) ∧
      q.predicate.InForm (InForce openOrders.schema costly) ∧
      (openOrders.filteredPredicate q none).InForm CostlyOrOpen ∧
      AllInForm CostlyOrOpen
        ((openOrders.recorded.findAllWith? plainWording costly none).run (0, [])).world.2 ∧
      AllInForm CostlyOrOpen ((openOrders.recorded.execute q).run (0, [])).world.2 := by
  have hallowed (path : FieldPath) (v : Literal)
      (h : InForce openOrders.schema costly path v) : CostlyOrOpen path v := .inl h
  have hpre : ∀ p ∈ openOrders.preFilter?, p.InForm CostlyOrOpen := by
    rintro _ ⟨⟩
    exact ⟨isNormal_of_isTest rfl, by decide, ⟨trivial, .inr ⟨rfl, rfl⟩⟩, nofun⟩
  obtain ⟨hassembled, hsent⟩ := sent_predicates_in_form (σ := Nat) (ρ := Nat)
  obtain ⟨hfiltered, hcalls⟩ := hsent openOrders costly none CostlyOrOpen hallowed hpre (by simp)
  exact ⟨hallowed, hpre, _, rfl, rfl, hassembled openOrders.schema costly defaultMaxPageSize _ rfl,
    hfiltered _ rfl, (hcalls plainWording 0).1, (hcalls plainWording 0).2.2 _ rfl⟩

end Listing

end ListingQuery
