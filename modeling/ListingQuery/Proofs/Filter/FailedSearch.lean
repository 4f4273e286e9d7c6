import ListingQuery.Proofs.Filter.Entries
import ListingQuery.Proofs.Filter.Levels
import ListingQuery.Proofs.Query.FirstFault

/-!
# Searches that fail

A call that attaches a search marks fields one after the other and fails at the first path that does
not resolve; the search text is written last.  So a failed call leaves the text as it is, and marks
behind.  These marks are looked at by the search of an earlier call, if there is one: the predicate
of the tree stays what it was exactly if there is none, if it never holds anyway, or if all these
fields were marked before.

    failed call: predicate kept ↔ nothing attached before ∨ predicate of the filters = never
      ∨ its marks were there                                     (failed_attach_keeps_predicate_iff)
-/

namespace ListingQuery

open FlatFilter Predicate

namespace FlatFilter

theorem searchBelow_cons (needle : String) (f : FieldPath) (lists : List FieldPath)
    (last : FieldPath) :
    searchBelow needle (f :: lists) last = nested f (searchBelow needle lists last) := rfl

/-- The test of a search shows the levels that it goes through. -/
theorem searchBelow_inj {needle : String} {lists lists' : List FieldPath} {last last' : FieldPath}
    (h : searchBelow needle lists last = searchBelow needle lists' last') :
    lists = lists' ∧ last = last' := by
  induction lists generalizing lists' with
  | nil =>
    cases lists' with
    | nil =>
      cases h
      exact ⟨rfl, rfl⟩
    | cons f lists' => cases h
  | cons f lists ih =>
    cases lists' with
    | nil => cases h
    | cons f' lists' =>
      rw [searchBelow_cons, searchBelow_cons] at h
      obtain ⟨rfl, hbelow⟩ := Predicate.nested.inj h
      obtain ⟨rfl, rfl⟩ := ih hbelow
      exact ⟨rfl, rfl⟩

theorem isCompound_searchBelow (needle : String) (lists : List FieldPath) (last : FieldPath) :
    (searchBelow needle lists last).isCompound = false := by
  cases lists <;> rfl

end FlatFilter

namespace FilterNode

/-! ## Tests of a search -/

section Tests

variable {needle : String} {base : FieldPath} {ns : List FilterNode}

theorem isCompound_of_mem_searchesOf : ∀ p ∈ searchesOf needle base ns, p.isCompound = false := by
  rw [searchesOf_eq_flatMap]
  intro p hp
  obtain ⟨n, -, hp⟩ := List.mem_flatMap.1 hp
  obtain ⟨segments, -, rfl⟩ := (mem_searches_iff n base p).1 hp
  exact isCompound_searchBelow needle _ _

/-- A search keeps all its tests. -/
theorem disjunctsOf?_searchesOf :
    disjunctsOf? (disj (searchesOf needle base ns)) = some (searchesOf needle base ns) := by
  rw [disjunctsOf?_disj fun p hp => .inr (.inr (isSolid_of_mem_searchesOf p hp))]
  exact disjuncts_eq_self fun p hp =>
    ⟨isSolid_of_mem_searchesOf p hp, isCompound_of_mem_searchesOf p hp⟩

theorem LeadsAlong.leadsTo {Q : FilterNode → Prop} {n : FilterNode}
    {segments : List ResolvedSegment} (h : LeadsAlong Q n segments) :
    LeadsTo Q n (pathOf segments) := by
  induction h with
  | here prop => exact .here prop
  | deeper mem _ ih => exact .deeper mem ih

theorem LeadsTo.name_eq {Q : FilterNode → Prop} {n : FilterNode} {name : String}
    {rest : FieldPath} (h : LeadsTo Q n (name :: rest)) : n.name = name := by
  cases h <;> rfl

end Tests

/-! ## Marking again -/

section Marking

variable {s : ResolvedSegment} {change : FilterNode → FilterNode} {ns : List FilterNode}

theorem hasDistinctChildren_bare (name : String) (isList : Bool) :
    (bare name isList).HasDistinctChildren :=
  .node List.nodup_nil fun _ hc => by cases hc

theorem hasDistinctChildren_changeAt {filters : List ColumnFilter} (hadds : Adds change filters)
    {path : List ResolvedSegment} : ∀ n : FilterNode, n.HasDistinctChildren →
      (changeAt change path n).HasDistinctChildren := by
  induction path with
  | nil =>
    rintro n ⟨hnodup, hchildren⟩
    rw [changeAt]
    exact .node (by rwa [hadds.children]) (by rwa [hadds.children])
  | cons s path ih =>
    rintro n ⟨hnodup, hchildren⟩
    have hname (c : FilterNode) : (changeAt change path c).name = c.name :=
      congrArg ResolvedSegment.name (segment_changeAt hadds path c)
    refine .node ?_ (forall_mem_changeChild (hasDistinctChildren_bare _ _) ih hchildren)
    show ((changeChild s (changeAt change path) n.children).map (·.name)).Nodup
    rw [map_changeChild hname fun _ _ => Iff.rfl]
    split
    · exact hnodup
    · next hnew =>
      rw [← List.concat_eq_append]
      exact List.Nodup.concat hnew hnodup

theorem changeChild_eq_self (hnodup : (ns.map (·.name)).Nodup) {c : FilterNode} (hc : c ∈ ns)
    (hname : c.name = s.name) (hchange : change c = c) : changeChild s change ns = ns := by
  induction ns with
  | nil => cases hc
  | cons n ns ih =>
    obtain ⟨hnot, hnodup⟩ := List.nodup_cons.1 hnodup
    rw [changeChild]
    rcases List.mem_cons.1 hc with rfl | hc
    · rw [if_pos hname, hchange]
    · have hne : n.name ≠ s.name := fun h => hnot (List.mem_map.2 ⟨c, hc, hname.trans h.symm⟩)
      rw [if_neg hne, ih hnodup hc]

/-- Marking what is marked changes nothing. -/
theorem changeAt_markSearchable_eq_self {path : List ResolvedSegment} : ∀ n : FilterNode,
    n.HasDistinctChildren → LeadsTo IsMarked n (n.name :: pathOf path) →
      changeAt markSearchable path n = n := by
  induction path with
  | nil =>
    rintro n - hmarked
    cases hmarked with
    | here hmarked =>
      obtain ⟨name, isList, filters, isSearchable, children⟩ := n
      cases hmarked
      rfl
    | deeper _ hleads => exact absurd rfl hleads.ne_nil
  | cons s path ih =>
    rintro ⟨name, isList, filters, isSearchable, children⟩ ⟨hnodup, hchildren⟩ hmarked
    cases hmarked with
    | @deeper _ c _ hc hleads =>
      have hname : c.name = s.name := hleads.name_eq
      have hself : changeAt markSearchable path c = c :=
        ih c (hchildren c hc) (hname.symm ▸ hleads)
      rw [changeAt, changeChild_eq_self hnodup hc hname hself]

end Marking

end FilterNode

namespace RecordShape

/-- The paths of the fields that are named before the first path that does not resolve. -/
def namedBeforeFault (shape : RecordShape) : List String → List FieldPath
  | [] => []
  | path :: paths =>
    match shape.resolve path with
    | .error _ => []
    | .ok field => field.path :: shape.namedBeforeFault paths

variable {shape : RecordShape} {path : String}

theorem namedBeforeFault_cons_of_error {e : QueryError} (h : shape.resolve path = .error e)
    (paths : List String) : shape.namedBeforeFault (path :: paths) = [] := by
  rw [namedBeforeFault, h]

theorem namedBeforeFault_cons {field : ResolvedField} (h : shape.resolve path = .ok field)
    (paths : List String) : shape.namedBeforeFault (path :: paths) =
      field.path :: shape.namedBeforeFault paths := by
  rw [namedBeforeFault, h]

end RecordShape

namespace FilterTree

open FilterNode

variable {shape : RecordShape}

/-! ## Trees -/

/-- What every change at a declared field keeps, marking keeps. -/
theorem markAll_induction {P : FilterTree → Prop}
    (step : ∀ t field, shape.Declares field.segments → P t → P (t.changeAt field markSearchable))
    (paths : List String) {t : FilterTree} (h : P t) : P (markAll shape paths t).1 := by
  induction paths generalizing t with
  | nil => exact h
  | cons path paths ih =>
    rw [markAll]
    split
    · exact h
    · next field hfield => exact ih (step t field (RecordShape.declares_of_resolve hfield) h)

theorem search_markAll (paths : List String) (t : FilterTree) :
    (markAll shape paths t).1.search? = t.search? :=
  markAll_induction (P := fun t' => t'.search? = t.search?) (fun _ _ _ h => h) paths rfl

theorem columns_markAll (paths : List String) (t : FilterTree) :
    conj (columnsOf [] (markAll shape paths t).1.root.children) =
      conj (columnsOf [] t.root.children) := by
  refine markAll_induction (P := fun t' => conj (columnsOf [] t'.root.children) =
    conj (columnsOf [] t.root.children)) (fun t' field hdeclares h => ?_) paths rfl
  obtain ⟨s, rest, hsegments⟩ := List.exists_cons_of_ne_nil hdeclares.ne_nil
  rw [← h, changeAt, hsegments]
  exact conj_eq_of_asking_eq (asking_columnsOf_changeChild
    (fun n => asking_columns_changeAt adds_markSearchable n []) _)

theorem hasDistinctChildren_markAll (paths : List String) {t : FilterTree}
    (h : t.root.HasDistinctChildren) : (markAll shape paths t).1.root.HasDistinctChildren :=
  markAll_induction (P := fun t => t.root.HasDistinctChildren)
    (fun _ _ _ h => hasDistinctChildren_changeAt adds_markSearchable _ h) paths h

/-- Whether or not it fails, marking marks what is named before the fault. -/
theorem leadsTo_markAll_fst_iff (paths : List String) (t : FilterTree) {place : FieldPath} :
    (markAll shape paths t).1.LeadsTo IsMarked place ↔
      t.LeadsTo IsMarked place ∨ place ∈ shape.namedBeforeFault paths := by
  induction paths generalizing t with
  | nil => simp [markAll, RecordShape.namedBeforeFault]
  | cons path paths ih =>
    rw [markAll]
    split
    · next e h => simp [RecordShape.namedBeforeFault_cons_of_error h]
    · next field hfield =>
      rw [ih, leadsTo_changeAt_iff isOwn_isMarked gives_markSearchable hfield, true_and, or_assoc,
        RecordShape.namedBeforeFault_cons hfield, List.mem_cons]

/-- Marking fields that are marked changes nothing. -/
theorem markAll_eq_self (paths : List String) {t : FilterTree} (h : t.root.HasDistinctChildren)
    (hmarked : ∀ place ∈ shape.namedBeforeFault paths, t.LeadsTo IsMarked place) :
    (markAll shape paths t).1 = t := by
  induction paths with
  | nil => rfl
  | cons path paths ih =>
    rw [markAll]
    split
    · rfl
    · next field hfield =>
      rw [RecordShape.namedBeforeFault_cons hfield, List.forall_mem_cons] at hmarked
      obtain ⟨⟨c, hc, hleads⟩, hrest⟩ := hmarked
      have hself : t.changeAt field markSearchable = t := by
        rw [changeAt, changeAt_markSearchable_eq_self t.root h (.deeper hc hleads)]
      rw [hself]
      exact ih hrest

theorem searchPart_eq {t : FilterTree} {needle : String} (h : t.search? = some needle) :
    t.searchPart = if searchesOf needle [] t.root.children = [] then []
      else [disj (searchesOf needle [] t.root.children)] := by
  rw [searchPart, h]
  cases hfound : searchesOf needle [] t.root.children <;> simp [hfound]

/-- A search shows what it tests. -/
theorem searchPart_eq_iff {t t' : FilterTree} (hsearch : t'.search? = t.search?) :
    t'.searchPart = t.searchPart ↔ ∀ needle, t.search? = some needle →
      searchesOf needle [] t'.root.children = searchesOf needle [] t.root.children := by
  have shown {t : FilterTree} {needle : String} (h : t.search? = some needle) :
      (t.searchPart.head?.bind disjunctsOf?).getD [] = searchesOf needle [] t.root.children := by
    rw [searchPart_eq h]
    split
    · next hnil => exact hnil.symm
    · simp [disjunctsOf?_searchesOf]
  constructor
  · intro h needle hneedle
    rw [← shown hneedle, ← shown (hsearch.trans hneedle), h]
  · intro h
    cases hneedle : t.search? with
    | none => rw [searchPart, searchPart, hsearch, hneedle]
    | some needle =>
      rw [searchPart_eq hneedle, searchPart_eq (hsearch.trans hneedle), h needle hneedle]

/-- The tests of a search show where the marks are. -/
theorem leadsTo_of_searchesOf_eq {t t' : FilterTree} {needle : String}
    (h : searchesOf needle [] t'.root.children = searchesOf needle [] t.root.children)
    {path : FieldPath} (hpath : t'.LeadsTo IsMarked path) : t.LeadsTo IsMarked path := by
  obtain ⟨n, hn, hleads⟩ := hpath
  obtain ⟨segments, halong, rfl⟩ := hleads.exists_leadsAlong
  have htest : searchBelow needle (levels [] segments).1 (levels [] segments).2 ∈
      searchesOf needle [] t'.root.children := by
    rw [searchesOf_eq_flatMap]
    exact List.mem_flatMap.2 ⟨n, hn, (mem_searches_iff n [] _).2 ⟨segments, halong, rfl⟩⟩
  rw [h, searchesOf_eq_flatMap] at htest
  obtain ⟨n', hn', htest⟩ := List.mem_flatMap.1 htest
  obtain ⟨segments', hleads', hsame⟩ := (mem_searches_iff n' [] _).1 htest
  obtain ⟨hlists, hlast⟩ := searchBelow_inj hsame
  have hpath : pathOf segments = pathOf segments' := by
    rw [← List.nil_append (pathOf segments), ← flatten_levels, hlists, hlast, flatten_levels,
      List.nil_append]
  exact ⟨n', hn', hpath ▸ hleads'.leadsTo⟩

theorem conjuncts_searchPart (t : FilterTree) : conjuncts? t.searchPart = some t.searchPart := by
  cases hneedle : t.search? with
  | none =>
    rw [searchPart, hneedle]
    rfl
  | some needle =>
    rw [searchPart_eq hneedle]
    split
    · rfl
    · next hne =>
      exact conjuncts_disj (fun p hp => ⟨isSolid_of_mem_searchesOf p hp,
        isCompound_of_mem_searchesOf p hp⟩) hne

/-- Where the filters ask for the same, predicates tell searches apart, unless they never hold. -/
theorem predicate_eq_iff {t t' : FilterTree}
    (h : conj (columnsOf [] t'.root.children) = conj (columnsOf [] t.root.children)) :
    t'.predicate = t.predicate ↔
      conj (columnsOf [] t.root.children) = never ∨ t'.searchPart = t.searchPart := by
  have hnormal (t : FilterTree) :
      ∀ p ∈ conj (columnsOf [] t.root.children) :: t.searchPart, p.IsNormal :=
    List.forall_mem_cons.2 ⟨isNormal_conj isNormal_of_mem_columnsOf, t.isNormal_of_mem_searchPart⟩
  constructor
  · intro heq
    by_cases hnever : conj (columnsOf [] t.root.children) = never
    · exact .inl hnever
    · obtain ⟨parts, hparts⟩ := exists_conjuncts_cons hnever
      have hshown := congrArg conjunctsOf? heq
      rw [predicate, predicate, conjunctsOf?_conj (hnormal t'), conjunctsOf?_conj (hnormal t), h,
        hparts, hparts, conjuncts_searchPart, conjuncts_searchPart] at hshown
      exact .inr (List.append_cancel_left (Option.some.inj hshown))
  · rintro (hnever | hpart)
    · rw [predicate, predicate, h, hnever]
      rfl
    · rw [predicate, predicate, h, hpart]

end FilterTree

/-- A call that attaches a search. -/
structure SearchCall where
  shape : RecordShape
  value : String
  paths : List String

namespace SearchCall

open FilterNode FilterTree

/-- The tree after the call, and the fault if it fails. -/
def attach (call : SearchCall) (t : FilterTree) : FilterTree × Option QueryError :=
  t.attachSearch call.shape call.value call.paths

/-- The tree after calls, whether or not they fail. -/
def attachAll (calls : List SearchCall) (t : FilterTree) : FilterTree :=
  calls.foldl (fun t call => (call.attach t).1) t

/-- The call searches for something, in fields that are all there. -/
def Attaches (call : SearchCall) : Prop :=
  Text.trim call.value ≠ "" ∧ ∀ path ∈ call.paths, call.shape.Resolves path

/-- The fields that the call marks, even if it fails; a blank search marks none. -/
def marked (call : SearchCall) : List FieldPath :=
  if Text.trim call.value = "" then [] else call.shape.namedBeforeFault call.paths

/-! ## One call -/

/-- A call is blank, attaches a search, or fails after it has marked some fields. -/
theorem attach_cases (call : SearchCall) (t : FilterTree) :
    ¬ call.Attaches ∧ call.marked = [] ∧ call.attach t = (t, none) ∨
    call.marked = call.shape.namedBeforeFault call.paths ∧
      (call.Attaches ∧ call.attach t = ({ (markAll call.shape call.paths t).1 with
          search? := some (Text.trim call.value) }, none) ∨
        ¬ call.Attaches ∧ ∃ e, call.attach t = ((markAll call.shape call.paths t).1, some e)) := by
  rcases attachSearch_cases call.value call.paths t with
    ⟨hblank, h⟩ | ⟨hblank, ⟨t', hmark, h⟩ | ⟨t', e, hmark, h⟩⟩
  · exact .inl ⟨fun hattaches => hattaches.1 hblank, if_pos hblank, h⟩
  · refine .inr ⟨if_neg hblank, .inl ⟨⟨hblank, exists_of_markAll hmark⟩, ?_⟩⟩
    rw [hmark]
    exact h
  · refine .inr ⟨if_neg hblank, .inr ⟨fun hattaches => ?_, e, ?_⟩⟩
    · have hfault : call.shape.FaultsFirst call.paths e :=
        (markAll_eq_some_iff t).1 (congrArg Prod.snd hmark)
      exact RecordShape.exists_faultsFirst_iff.1 ⟨e, hfault⟩ hattaches.2
    · rw [hmark]
      exact h

theorem attach_of_error {call : SearchCall} {t t' : FilterTree} {e : QueryError}
    (h : call.attach t = (t', some e)) : t' = (markAll call.shape call.paths t).1 ∧
      call.marked = call.shape.namedBeforeFault call.paths := by
  rcases call.attach_cases t with ⟨-, -, heq⟩ | ⟨hmarked, ⟨-, heq⟩ | ⟨-, e', heq⟩⟩
  · cases heq.symm.trans h
  · cases heq.symm.trans h
  · cases heq.symm.trans h
    exact ⟨rfl, hmarked⟩

/-- What marking keeps and the search text does not matter to, a call keeps. -/
theorem attach_induction {P : FilterNode → Prop} (call : SearchCall) {t : FilterTree}
    (hmark : P t.root → P (markAll call.shape call.paths t).1.root) (h : P t.root) :
    P (call.attach t).1.root := by
  rcases call.attach_cases t with ⟨-, -, heq⟩ | ⟨-, ⟨-, heq⟩ | ⟨-, e, heq⟩⟩
  · rwa [heq]
  · rw [heq]
    exact hmark h
  · rw [heq]
    exact hmark h

theorem leadsTo_attach_iff (call : SearchCall) (t : FilterTree) {place : FieldPath} :
    (call.attach t).1.LeadsTo IsMarked place ↔
      t.LeadsTo IsMarked place ∨ place ∈ call.marked := by
  rcases call.attach_cases t with ⟨-, hmarked, heq⟩ | ⟨hmarked, ⟨-, heq⟩ | ⟨-, e, heq⟩⟩
  · simp [heq, hmarked]
  · rw [heq, hmarked]
    exact leadsTo_markAll_fst_iff call.paths t
  · rw [heq, hmarked]
    exact leadsTo_markAll_fst_iff call.paths t

theorem search_attach_eq_none_iff (call : SearchCall) (t : FilterTree) :
    (call.attach t).1.search? = none ↔ t.search? = none ∧ ¬ call.Attaches := by
  rcases call.attach_cases t with ⟨hnot, -, heq⟩ | ⟨-, ⟨hattaches, heq⟩ | ⟨hnot, e, heq⟩⟩
  · simp [heq, hnot]
  · simp [heq, hattaches]
  · simp [heq, hnot, search_markAll]

/-! ## Many calls -/

/-- Where marks are, some call has put them, or they were there. -/
theorem leadsTo_attachAll_iff (calls : List SearchCall) (t : FilterTree) {place : FieldPath} :
    (attachAll calls t).LeadsTo IsMarked place ↔
      t.LeadsTo IsMarked place ∨ ∃ call ∈ calls, place ∈ call.marked := by
  induction calls generalizing t with
  | nil => simp [attachAll]
  | cons call calls ih =>
    rw [attachAll, List.foldl_cons, ← attachAll, ih, leadsTo_attach_iff, or_assoc]
    simp

theorem search_attachAll_eq_none_iff (calls : List SearchCall) (t : FilterTree) :
    (attachAll calls t).search? = none ↔ t.search? = none ∧ ∀ call ∈ calls, ¬ call.Attaches := by
  induction calls generalizing t with
  | nil => simp [attachAll]
  | cons call calls ih =>
    rw [attachAll, List.foldl_cons, ← attachAll, ih, search_attach_eq_none_iff, and_assoc,
      List.forall_mem_cons]

/-- Whatever calls there are, the filters stay, and siblings keep different names. -/
theorem attachAll_keeps (calls : List SearchCall) {t : FilterTree}
    (h : t.root.HasDistinctChildren) : (attachAll calls t).root.HasDistinctChildren ∧
      conj (columnsOf [] (attachAll calls t).root.children) =
        conj (columnsOf [] t.root.children) := by
  induction calls generalizing t with
  | nil => exact ⟨h, rfl⟩
  | cons call calls ih =>
    have hdistinct : (call.attach t).1.root.HasDistinctChildren :=
      call.attach_induction (hasDistinctChildren_markAll call.paths) h
    have hcolumns : conj (columnsOf [] (call.attach t).1.root.children) =
        conj (columnsOf [] t.root.children) :=
      call.attach_induction (P := fun n => conj (columnsOf [] n.children) =
        conj (columnsOf [] t.root.children)) (fun _ => columns_markAll call.paths t) rfl
    obtain ⟨hkept, hsame⟩ := ih hdistinct
    rw [attachAll, List.foldl_cons, ← attachAll]
    exact ⟨hkept, hsame.trans hcolumns⟩

end SearchCall

namespace FilterTree

open FilterNode SearchCall

variable {shape : RecordShape} {filters : Keyed FilterExpression}

/-! ## Failed calls -/

/-- A query starts without a search, and with different names of siblings. -/
theorem distinct_of_build {t : FilterTree} (h : build shape filters = .ok t) :
    t.root.HasDistinctChildren ∧ t.search? = none := by
  refine foldlM_induction (P := fun t => t.root.HasDistinctChildren ∧ t.search? = none)
    ⟨hasDistinctChildren_bare _ _, rfl⟩ (fun entry _ t t' ⟨hdistinct, hsearch⟩ hadd => ?_) h
  obtain ⟨field, hfield⟩ := exists_of_addFilter hadd
  obtain ⟨change, hadds, hadd'⟩ := exists_addFilter hfield t
  cases hadd'.symm.trans hadd
  exact ⟨hasDistinctChildren_changeAt hadds _ hdistinct, hsearch⟩

/-- Without marks, a tree asks for what its filters ask for. -/
theorem predicate_eq_never_iff {t : FilterTree} (h : ∀ path, ¬ t.LeadsTo IsMarked path) :
    t.predicate = never ↔ conj (columnsOf [] t.root.children) = never := by
  rw [predicate, searchPart_eq_nil h]
  refine ⟨fun hnever => ?_, fun hnever => by rw [hnever]; rfl⟩
  by_contra hne
  obtain ⟨parts, hparts⟩ := exists_conjuncts_cons hne
  have hshown := congrArg conjunctsOf? hnever
  rw [conjunctsOf?_conj (List.forall_mem_singleton.2 (isNormal_conj isNormal_of_mem_columnsOf)),
    hparts] at hshown
  cases hshown

/-- After any calls, one that fails leaves the search text as it is.  The predicate stays as well
exactly if no earlier call attached a search, if the filters never hold, or if all fields that it
marks were marked before. -/
theorem failed_attach_keeps_predicate_iff {t₀ : FilterTree} (hbuild : build shape filters = .ok t₀)
    (calls : List SearchCall) (call : SearchCall) {t' : FilterTree} {e : QueryError}
    (hfail : call.attach (attachAll calls t₀) = (t', some e)) :
    t'.search? = (attachAll calls t₀).search? ∧
      (t'.predicate = (attachAll calls t₀).predicate ↔
        (∀ earlier ∈ calls, ¬ earlier.Attaches) ∨ t₀.predicate = never ∨
          ∀ place ∈ call.marked, ∃ earlier ∈ calls, place ∈ earlier.marked) := by
  obtain ⟨hdistinct₀, hsearch₀⟩ := distinct_of_build hbuild
  have hunmarked := not_isMarked_build hbuild
  obtain ⟨hdistinct, hcolumns⟩ := attachAll_keeps calls hdistinct₀
  have hmarks (place : FieldPath) : (attachAll calls t₀).LeadsTo IsMarked place ↔
      ∃ earlier ∈ calls, place ∈ earlier.marked := by
    rw [leadsTo_attachAll_iff, or_iff_right (hunmarked place)]
  have hnone : (attachAll calls t₀).search? = none ↔ ∀ earlier ∈ calls, ¬ earlier.Attaches := by
    rw [search_attachAll_eq_none_iff, and_iff_right hsearch₀]
  generalize attachAll calls t₀ = t at *
  obtain ⟨rfl, hmarked⟩ := attach_of_error hfail
  have hsearch : (markAll call.shape call.paths t).1.search? = t.search? := search_markAll _ t
  refine ⟨hsearch, ?_⟩
  rw [predicate_eq_iff (columns_markAll call.paths t), hcolumns,
    ← predicate_eq_never_iff hunmarked, searchPart_eq_iff hsearch, ← hnone, hmarked]
  simp only [← hmarks]
  rw [or_left_comm]
  refine or_congr_right ?_
  constructor
  · intro h
    cases hneedle : t.search? with
    | none => exact .inl rfl
    | some needle =>
      refine .inr fun place hplace => leadsTo_of_searchesOf_eq (h needle hneedle) ?_
      exact (leadsTo_markAll_fst_iff call.paths t).2 (.inr hplace)
  · rintro (hnone | hall) needle hneedle
    · cases hnone.symm.trans hneedle
    · rw [markAll_eq_self call.paths hdistinct hall]

/-- People with a status and a name. -/
def peopleShape : RecordShape :=
  ⟨"Person", [⟨"status", none, .scalar .string⟩, ⟨"name", none, .scalar .string⟩]⟩

/-- A search for a text in the fields of people. -/
def peopleSearch (value : String) (paths : List String) : SearchCall := ⟨peopleShape, value, paths⟩

/-- A call that fails after it has marked a field again leaves everything as it was. -/
theorem failed_attach_keeps_searched_status : ∃ t' e,
    (peopleSearch "bob" ["status", "nickname"]).attach
      (attachAll [peopleSearch "ann" ["status"]] empty) = (t', some e) ∧
    t'.search? = (attachAll [peopleSearch "ann" ["status"]] empty).search? ∧
    t'.predicate = (attachAll [peopleSearch "ann" ["status"]] empty).predicate := by
  have hbuild : build peopleShape [] = .ok empty := rfl
  have hmarked : ∀ place ∈ (peopleSearch "bob" ["status", "nickname"]).marked,
      ∃ earlier ∈ [peopleSearch "ann" ["status"]], place ∈ earlier.marked := by
    decide +kernel
  obtain ⟨t', e, hfail⟩ : ∃ t' e, (peopleSearch "bob" ["status", "nickname"]).attach
      (attachAll [peopleSearch "ann" ["status"]] empty) = (t', some e) := ⟨_, _, rfl⟩
  obtain ⟨hsearch, hpredicate⟩ := failed_attach_keeps_predicate_iff hbuild _ _ hfail
  exact ⟨t', e, hfail, hsearch, hpredicate.2 (.inr (.inr hmarked))⟩

/-- A call that fails after it has marked another field makes an earlier search look there. -/
theorem failed_attach_extends_search : ∃ t t' e, build peopleShape [] = .ok empty ∧
    attachAll [peopleSearch "ann" ["status"]] empty = t ∧
    (peopleSearch "bob" ["name", "nickname"]).attach t = (t', some e) ∧
    t.predicate = contains ["status"] "ann" ∧
    t'.predicate = or [contains ["status"] "ann", contains ["name"] "ann"] ∧
    t'.predicate ≠ t.predicate :=
  ⟨_, _, _, rfl, rfl, rfl, rfl, rfl, fun h => by cases h⟩

end FilterTree

end ListingQuery
