import Mathlib.Data.List.Induction
import ListingQuery.Proofs.Filter.Paths
import ListingQuery.Proofs.Filter.Placement

/-!
# The entries of a query in its tree

A node represents entries if it carries the filters of those that end at it, in their order, and has
one child for each segment by which others go on, in order of first appearance, which represents
these entries as seen from there.  Entering one more entry keeps this up, as long as entries agree on
what a name stands for; under distinct names they do.

So the tree of a query mirrors its entries: each filter is at the node of its entry and at no other,
and each node is on the way to some entry                                         (build_mirrors).

    n represents entries → changeAt change path n represents entries ++ [⟨path, filter?⟩]
                                                                          (Represents.changeAt)
-/

namespace ListingQuery

open FlatFilter

/-- An entry of a query: the segments of its field, and its filter if it carries an operator. -/
structure FilterEntry where
  segments : List ResolvedSegment
  filter? : Option ColumnFilter

namespace FilterEntry

/-- The filter on a field, with its declared type or else that of the field. -/
def filterOn? (field : ResolvedField) (e : FilterExpression) : Option ColumnFilter :=
  if e.hasNoOperator then none else some ⟨typeInForce e field, e⟩

/-- An entry, if its path resolves. -/
def resolved? (shape : RecordShape) (entry : String × FilterExpression) : Option FilterEntry :=
  match shape.resolve entry.1 with
  | .error _ => none
  | .ok field => some ⟨field.segments, filterOn? field entry.2⟩

/-- The entries of a query, in wire order. -/
def ofQuery (shape : RecordShape) (filters : Keyed FilterExpression) : List FilterEntry :=
  filters.filterMap (resolved? shape)

/-- The filters of the entries at a path. -/
def filtersAt (path : List ResolvedSegment) (entries : List FilterEntry) : List ColumnFilter :=
  entries.filterMap fun e => if e.segments = path then e.filter? else none

/-- The segment after a path, where the segments go on from it. -/
def next? : List ResolvedSegment → List ResolvedSegment → Option ResolvedSegment
  | [], [] => none
  | [], t :: _ => some t
  | _ :: _, [] => none
  | s :: path, t :: rest => if t = s then next? path rest else none

/-- The segments by which entries go on from a path, in order of first appearance. -/
def nextAfter (path : List ResolvedSegment) (entries : List FilterEntry) : List ResolvedSegment :=
  (entries.filterMap fun e => next? path e.segments).eraseDups

/-- The entry as seen from below a segment, if it goes that way. -/
def through? (s : ResolvedSegment) (e : FilterEntry) : Option FilterEntry :=
  match e.segments with
  | [] => none
  | t :: rest => if t = s then some ⟨rest, e.filter?⟩ else none

/-- The entries that go through a segment, as seen from below it. -/
def through (s : ResolvedSegment) (entries : List FilterEntry) : List FilterEntry :=
  entries.filterMap (through? s)

/-- As long as two paths have the same names, they have the same segments. -/
def Agree : List ResolvedSegment → List ResolvedSegment → Prop
  | [], _ => True
  | _ :: _, [] => True
  | s :: p, t :: q => s.name = t.name → s = t ∧ Agree p q

/-! ## Entries -/

theorem agree_nil (path : List ResolvedSegment) : Agree path [] := by
  cases path <;> trivial

variable {entries : List FilterEntry} {e : FilterEntry} {s t : ResolvedSegment}
  {path rest : List ResolvedSegment}

theorem through?_eq_some_iff {e' : FilterEntry} :
    through? s e = some e' ↔ e = ⟨s :: e'.segments, e'.filter?⟩ := by
  obtain ⟨segments, filter?⟩ := e
  obtain ⟨segments', filter?'⟩ := e'
  cases segments with
  | nil => simp [through?]
  | cons t rest => simp [through?, and_assoc]

theorem mem_through : e ∈ through s entries ↔ ⟨s :: e.segments, e.filter?⟩ ∈ entries := by
  simp [through, through?_eq_some_iff]

theorem filtersAt_through (path : List ResolvedSegment) :
    filtersAt path (through s entries) = filtersAt (s :: path) entries := by
  rw [filtersAt, through, List.filterMap_filterMap, filtersAt]
  refine congrArg (List.filterMap · entries) (funext fun e => ?_)
  obtain ⟨segments, filter?⟩ := e
  cases segments with
  | nil => simp [through?]
  | cons t rest =>
    by_cases h : t = s <;> simp [through?, h]

theorem nextAfter_through (path : List ResolvedSegment) :
    nextAfter path (through s entries) = nextAfter (s :: path) entries := by
  rw [nextAfter, through, List.filterMap_filterMap, nextAfter]
  refine congrArg (fun next => (List.filterMap next entries).eraseDups) (funext fun e => ?_)
  obtain ⟨segments, filter?⟩ := e
  cases segments with
  | nil => simp [through?, next?]
  | cons t rest =>
    by_cases h : t = s <;> simp [through?, next?, h]

theorem next?_eq_some_iff : next? path rest = some t ↔ path ++ [t] <+: rest := by
  induction path generalizing rest with
  | nil => cases rest <;> simp [next?, eq_comm]
  | cons s path ih =>
    cases rest with
    | nil => simp [next?]
    | cons u rest =>
      rw [next?, List.cons_append, List.cons_prefix_cons, ← ih, @eq_comm _ s]
      by_cases h : u = s <;> simp [h]

theorem mem_nextAfter : t ∈ nextAfter path entries ↔ ∃ e ∈ entries, path ++ [t] <+: e.segments := by
  simp [nextAfter, List.mem_eraseDups, next?_eq_some_iff]

theorem mem_nextAfter_nil :
    t ∈ nextAfter [] entries ↔ ∃ e ∈ entries, ∃ rest, e.segments = t :: rest := by
  simp only [mem_nextAfter, List.nil_append, List.IsPrefix, List.singleton_append, eq_comm]

theorem eraseDups_concat (found : List ResolvedSegment) (s : ResolvedSegment) :
    (found ++ [s]).eraseDups = if s ∈ found then found.eraseDups else found.eraseDups ++ [s] := by
  rw [List.eraseDups_append]
  split
  · next h => simp [List.removeAll, h]
  · next h => simp [List.removeAll, h, List.eraseDups_cons]

/-- Entries that go on by a new segment come after all others. -/
theorem nextAfter_concat_cons (filter? : Option ColumnFilter) :
    nextAfter [] (entries ++ [⟨s :: rest, filter?⟩]) =
      if s ∈ nextAfter [] entries then nextAfter [] entries else nextAfter [] entries ++ [s] := by
  simp only [nextAfter, List.filterMap_append, List.mem_eraseDups]
  exact eraseDups_concat _ s

theorem nextAfter_concat_nil (filter? : Option ColumnFilter) :
    nextAfter [] (entries ++ [⟨[], filter?⟩]) = nextAfter [] entries := by
  rw [nextAfter, List.filterMap_append]
  exact congrArg List.eraseDups (List.append_nil _)

theorem nodup_nextAfter (path : List ResolvedSegment) (entries : List FilterEntry) :
    (nextAfter path entries).Nodup := by
  rw [nextAfter]
  induction entries.filterMap fun e => next? path e.segments using List.reverseRecOn with
  | nil => exact List.nodup_nil
  | append_singleton found s ih =>
    rw [eraseDups_concat]
    split
    · exact ih
    · next h =>
      rw [← List.concat_eq_append]
      exact List.Nodup.concat (by rwa [List.mem_eraseDups]) ih

theorem filtersAt_concat (path : List ResolvedSegment) (e : FilterEntry) :
    filtersAt path (entries ++ [e]) =
      filtersAt path entries ++ if e.segments = path then e.filter?.toList else [] := by
  rw [filtersAt, List.filterMap_append]
  by_cases h : e.segments = path
  · cases hfilter : e.filter? <;> simp [filtersAt, h, hfilter]
  · simp [filtersAt, h]

theorem through_concat (s : ResolvedSegment) (e : FilterEntry) :
    through s (entries ++ [e]) = through s entries ++ (through? s e).toList := by
  rw [through, List.filterMap_append]
  cases h : through? s e <;> simp [through, h]

theorem through_concat_self (path : List ResolvedSegment) (filter? : Option ColumnFilter) :
    through s (entries ++ [⟨s :: path, filter?⟩]) = through s entries ++ [⟨path, filter?⟩] := by
  rw [through_concat]
  simp [through?]

theorem through_concat_of_ne (h : s ≠ t) (path : List ResolvedSegment)
    (filter? : Option ColumnFilter) :
    through t (entries ++ [⟨s :: path, filter?⟩]) = through t entries := by
  rw [through_concat]
  simp [through?, h]

theorem through_eq_nil (h : s ∉ nextAfter [] entries) : through s entries = [] := by
  refine List.eq_nil_iff_forall_not_mem.2 fun e he => h ?_
  exact mem_nextAfter_nil.2 ⟨_, mem_through.1 he, _, rfl⟩

end FilterEntry

namespace RecordShape

open FilterEntry

/-- Under distinct names, declared paths agree on what a name stands for. -/
theorem Declares.agree {shape : RecordShape} (hnames : shape.HasDistinctNames)
    {p q : List ResolvedSegment} (hp : shape.Declares p) (hq : shape.Declares q) : Agree p q := by
  induction hp generalizing q with
  | last hf =>
    cases hq with
    | last hg =>
      intro hname
      obtain rfl := hnames.eq_of_name_eq hf hg hname
      exact ⟨rfl, trivial⟩
    | more hg _ _ =>
      intro hname
      obtain rfl := hnames.eq_of_name_eq hf hg hname
      exact ⟨rfl, trivial⟩
  | more hf hrecord _ ih =>
    cases hq with
    | last hg =>
      intro hname
      obtain rfl := hnames.eq_of_name_eq hf hg hname
      exact ⟨rfl, agree_nil _⟩
    | more hg hrecord' hbelow =>
      intro hname
      obtain rfl := hnames.eq_of_name_eq hf hg hname
      obtain rfl := Option.some.inj (hrecord.symm.trans hrecord')
      exact ⟨rfl, ih (hnames.inner hf hrecord) hbelow⟩

/-- What a declared path starts with is declared. -/
theorem Declares.of_start {shape : RecordShape} {path segments : List ResolvedSegment}
    (h : shape.Declares segments) (hstarts : path <+: segments) (hne : path ≠ []) :
    shape.Declares path := by
  induction h generalizing path with
  | last hf =>
    obtain ⟨s, rest, rfl⟩ := List.exists_cons_of_ne_nil hne
    obtain ⟨rfl, hrest⟩ := List.cons_prefix_cons.1 hstarts
    rw [List.prefix_nil.1 hrest]
    exact .last hf
  | more hf hrecord _ ih =>
    obtain ⟨s, rest, rfl⟩ := List.exists_cons_of_ne_nil hne
    obtain ⟨rfl, hrest⟩ := List.cons_prefix_cons.1 hstarts
    by_cases hnil : rest = []
    · rw [hnil]
      exact .last hf
    · exact .more hf hrecord (ih hrest hnil)

end RecordShape

namespace FilterNode

open FilterEntry

/-- The node carries the filters of these entries that end at it, and its children represent the
others by the segments by which they go on. -/
inductive Represents : List FilterEntry → FilterNode → Prop
  | node {entries : List FilterEntry} {n : FilterNode}
      (filters : n.filters = filtersAt [] entries)
      (children : n.children.map (·.segment) = nextAfter [] entries)
      (below : ∀ c ∈ n.children, Represents (through c.segment entries) c) : Represents entries n

/-- The segments lead from the node, by its children, to the other node. -/
inductive Leads : FilterNode → List ResolvedSegment → FilterNode → Prop
  | here (n : FilterNode) : Leads n [] n
  | deeper {n c m : FilterNode} {path : List ResolvedSegment} (mem : c ∈ n.children)
      (leads : Leads c path m) : Leads n (c.segment :: path) m

/-! ## Entering -/

section Entering

variable {s : ResolvedSegment} {change : FilterNode → FilterNode} {ns : List FilterNode}

/-- A node is made exactly if none has the key, where keys tell nodes of this name apart. -/
theorem map_changeChild {β : Type} [DecidableEq β] {key : FilterNode → β}
    (hchange : ∀ n, key (change n) = key n)
    (hkey : ∀ n ∈ ns, n.name = s.name ↔ key n = key (bare s.name s.isList)) :
    (changeChild s change ns).map key =
      if key (bare s.name s.isList) ∈ ns.map key then ns.map key
      else ns.map key ++ [key (bare s.name s.isList)] := by
  induction ns with
  | nil => exact congrArg (fun k => [k]) (hchange (bare s.name s.isList))
  | cons n ns ih =>
    obtain ⟨hn, hns⟩ := List.forall_mem_cons.1 hkey
    rw [changeChild]
    split
    · next heq => simp [hchange, hn.1 heq]
    · next hne =>
      have hs : ¬ key (bare s.name s.isList) = key n := fun h => hne (hn.2 h.symm)
      rw [List.map_cons, ih hns, List.map_cons]
      simp only [List.mem_cons, hs, false_or]
      split <;> rfl

/-- The nodes are those with other segments and the changed one, which was there or is made. -/
theorem mem_changeChild (hnodup : (ns.map (·.segment)).Nodup)
    (hname : ∀ n ∈ ns, n.name = s.name → n.segment = s) {c : FilterNode}
    (hc : c ∈ changeChild s change ns) : c ∈ ns ∧ c.segment ≠ s ∨ ∃ n, c = change n ∧
      (n ∈ ns ∧ n.segment = s ∨ s ∉ ns.map (·.segment) ∧ n = bare s.name s.isList) := by
  induction ns with
  | nil =>
    obtain rfl := List.mem_singleton.1 hc
    exact .inr ⟨_, rfl, .inr ⟨List.not_mem_nil, rfl⟩⟩
  | cons n ns ih =>
    obtain ⟨hn, hns⟩ := List.forall_mem_cons.1 hname
    obtain ⟨hnot, hnodup⟩ := List.nodup_cons.1 hnodup
    rw [changeChild] at hc
    split at hc
    · next heq =>
      obtain rfl := hn heq
      rcases List.mem_cons.1 hc with rfl | hc
      · exact .inr ⟨n, rfl, .inl ⟨List.mem_cons_self, rfl⟩⟩
      · exact .inl ⟨List.mem_cons_of_mem n hc, fun h => hnot (List.mem_map.2 ⟨c, hc, h⟩)⟩
    · next hne =>
      have hs : n.segment ≠ s := fun h => hne (congrArg ResolvedSegment.name h)
      rcases List.mem_cons.1 hc with rfl | hc
      · exact .inl ⟨List.mem_cons_self, hs⟩
      · rcases ih hnodup hns hc with ⟨hc, hc'⟩ | ⟨m, rfl, ⟨hm, hm'⟩ | ⟨hm, rfl⟩⟩
        · exact .inl ⟨List.mem_cons_of_mem n hc, hc'⟩
        · exact .inr ⟨m, rfl, .inl ⟨List.mem_cons_of_mem n hm, hm'⟩⟩
        · exact .inr ⟨_, rfl, .inr ⟨by simpa [hs.symm] using hm, rfl⟩⟩

theorem segment_changeAt {filters : List ColumnFilter} (hadds : Adds change filters)
    (path : List ResolvedSegment) (n : FilterNode) :
    (changeAt change path n).segment = n.segment := by
  cases path with
  | nil => exact hadds.segment n
  | cons s path => rfl

theorem represents_bare (s : ResolvedSegment) : Represents [] (bare s.name s.isList) :=
  .node rfl rfl fun _ hc => by cases hc

/-- Entering one more entry. -/
theorem Represents.changeAt {filter? : Option ColumnFilter} (hadds : Adds change filter?.toList)
    {path : List ResolvedSegment} : ∀ {entries : List FilterEntry} {n : FilterNode},
      Represents entries n → (∀ e ∈ entries, Agree e.segments path) →
      Represents (entries ++ [⟨path, filter?⟩]) (FilterNode.changeAt change path n) := by
  induction path with
  | nil =>
    rintro entries n ⟨hfilters, hchildren, hbelow⟩ -
    rw [FilterNode.changeAt]
    refine .node ?_ ?_ ?_
    · rw [hadds.filters, hfilters, filtersAt_concat, if_pos rfl]
    · rw [hadds.children, hchildren, nextAfter_concat_nil]
    · rw [hadds.children]
      intro c hc
      rw [through_concat]
      exact (List.append_nil _).symm ▸ hbelow c hc
  | cons s path ih =>
    rintro entries n ⟨hfilters, hchildren, hbelow⟩ hagree
    have hnodup : (n.children.map (·.segment)).Nodup := hchildren ▸ nodup_nextAfter [] entries
    have hname : ∀ c ∈ n.children, c.name = s.name → c.segment = s := by
      intro c hc hname
      have hnext : c.segment ∈ nextAfter [] entries := hchildren ▸ List.mem_map_of_mem hc
      obtain ⟨e, he, rest, hsegments⟩ := mem_nextAfter_nil.1 hnext
      have := hagree e he
      rw [hsegments] at this
      exact (this hname).1
    refine .node ?_ ?_ fun c hc => ?_
    · rw [filtersAt_concat, if_neg (List.cons_ne_nil s path), List.append_nil]
      exact hfilters
    · rw [nextAfter_concat_cons, ← hchildren]
      exact map_changeChild (segment_changeAt hadds path) fun c hc =>
        ⟨hname c hc, congrArg ResolvedSegment.name⟩
    · rcases mem_changeChild hnodup hname hc with ⟨hc, hne⟩ | ⟨b, rfl, hb⟩
      · rw [through_concat_of_ne hne.symm]
        exact hbelow c hc
      · have hsegment : b.segment = s := by
          rcases hb with ⟨-, h⟩ | ⟨-, rfl⟩
          · exact h
          · rfl
        have hrepresents : Represents (through s entries) b := by
          rcases hb with ⟨hb, rfl⟩ | ⟨hnone, rfl⟩
          · exact hbelow b hb
          · rw [through_eq_nil (hchildren ▸ hnone)]
            exact represents_bare s
        rw [segment_changeAt hadds, hsegment, through_concat_self]
        exact ih hrepresents fun e he => (hagree _ (mem_through.1 he) rfl).2

end Entering

/-! ## Reading the tree -/

section Reading

variable {entries : List FilterEntry} {n m : FilterNode} {path : List ResolvedSegment}

/-- A node carries the filters at its path and goes on as the entries do. -/
theorem Represents.of_leads (h : Represents entries n) (hleads : Leads n path m) :
    m.filters = filtersAt path entries ∧ m.children.map (·.segment) = nextAfter path entries := by
  induction hleads generalizing entries with
  | here n =>
    obtain ⟨hfilters, hchildren, -⟩ := h
    exact ⟨hfilters, hchildren⟩
  | deeper hc _ ih =>
    obtain ⟨-, -, hbelow⟩ := h
    rw [← filtersAt_through, ← nextAfter_through]
    exact ih (hbelow _ hc)

/-- Every node but the first is on the way to some entry. -/
theorem Represents.exists_through (h : Represents entries n) (hleads : Leads n path m)
    (hne : path ≠ []) : ∃ e ∈ entries, path <+: e.segments := by
  induction hleads generalizing entries with
  | here n => exact absurd rfl hne
  | @deeper n c m rest hc _ ih =>
    obtain ⟨-, hchildren, hbelow⟩ := h
    by_cases hrest : rest = []
    · have hnext : c.segment ∈ nextAfter [] entries := hchildren ▸ List.mem_map_of_mem hc
      rw [hrest]
      exact mem_nextAfter.1 hnext
    · obtain ⟨e, he, hstarts⟩ := ih (hbelow c hc) hrest
      exact ⟨_, mem_through.1 he, List.cons_prefix_cons.2 ⟨rfl, hstarts⟩⟩

/-- Every entry has its node. -/
theorem Represents.exists_leads (h : Represents entries n) {e : FilterEntry} (he : e ∈ entries) :
    ∃ m, Leads n e.segments m := by
  obtain ⟨segments, filter?⟩ := e
  induction segments generalizing entries n with
  | nil => exact ⟨n, .here n⟩
  | cons s rest ih =>
    obtain ⟨-, hchildren, hbelow⟩ := h
    have hnext : s ∈ n.children.map (·.segment) :=
      hchildren ▸ mem_nextAfter_nil.2 ⟨_, he, rest, rfl⟩
    obtain ⟨c, hc, rfl⟩ := List.mem_map.1 hnext
    obtain ⟨m, hm⟩ := ih (hbelow c hc) (mem_through.2 he)
    exact ⟨m, .deeper hc hm⟩

/-- Where entries agree, names tell the children of a node apart. -/
theorem Represents.inj_on_name (h : Represents entries n)
    (hagree : ∀ e ∈ entries, ∀ e' ∈ entries, Agree e.segments e'.segments) :
    ∀ c ∈ n.children, ∀ c' ∈ n.children, c.name = c'.name → c = c' := by
  obtain ⟨-, hchildren, -⟩ := h
  have hnodup : (n.children.map (·.segment)).Nodup := hchildren ▸ nodup_nextAfter [] entries
  intro c hc c' hc' hname
  obtain ⟨e, he, rest, hrest⟩ :=
    mem_nextAfter_nil.1 (hchildren ▸ List.mem_map_of_mem hc : c.segment ∈ nextAfter [] entries)
  obtain ⟨e', he', rest', hrest'⟩ :=
    mem_nextAfter_nil.1 (hchildren ▸ List.mem_map_of_mem hc' : c'.segment ∈ nextAfter [] entries)
  have := hagree e he e' he'
  rw [hrest, hrest'] at this
  exact List.inj_on_of_nodup_map hnodup hc hc' (this hname).1

/-- Where entries agree, a path of names leads to one node at most. -/
theorem Represents.unique (h : Represents entries n)
    (hagree : ∀ e ∈ entries, ∀ e' ∈ entries, Agree e.segments e'.segments)
    {path' : List ResolvedSegment} {m' : FilterNode} (hleads : Leads n path m)
    (hleads' : Leads n path' m') (hnames : pathOf path = pathOf path') : path = path' ∧ m = m' := by
  induction hleads generalizing entries path' with
  | here n =>
    cases hleads' with
    | here => exact ⟨rfl, rfl⟩
    | deeper _ _ => cases hnames
  | @deeper n c m rest hc _ ih =>
    cases hleads' with
    | here => cases hnames
    | @deeper _ c' _ rest' hc' hleads' =>
      obtain ⟨hname, hrest⟩ := List.cons.inj hnames
      obtain rfl := h.inj_on_name hagree c hc c' hc' hname
      obtain ⟨-, -, hbelow⟩ := h
      have hbelow' : ∀ e ∈ through c.segment entries, ∀ e' ∈ through c.segment entries,
          Agree e.segments e'.segments := fun e he e' he' =>
        (hagree _ (mem_through.1 he) _ (mem_through.1 he') rfl).2
      obtain ⟨rfl, rfl⟩ := ih (hbelow c hc) hbelow' hleads' hrest
      exact ⟨rfl, rfl⟩

theorem Leads.concat (h : Leads n path m) {c : FilterNode} (hc : c ∈ m.children) :
    Leads n (path ++ [c.segment]) c := by
  induction h with
  | here n => exact .deeper hc (.here c)
  | deeper hmem _ ih => exact .deeper hmem (ih hc)

end Reading

/-! ## Counting -/

theorem filterCount_eq (n : FilterNode) :
    n.filterCount = n.filters.length + filterCounts n.children := by
  cases n
  rfl

theorem filterCounts_changeChild {s : ResolvedSegment} {change : FilterNode → FilterNode} {k : Nat}
    (hchange : ∀ n, (change n).filterCount = n.filterCount + k) (ns : List FilterNode) :
    filterCounts (changeChild s change ns) = filterCounts ns + k := by
  induction ns with
  | nil =>
    have hbare : (bare s.name s.isList).filterCount = 0 := rfl
    simp [changeChild, filterCounts, hchange, hbare]
  | cons n ns ih =>
    rw [changeChild]
    split
    · rw [filterCounts, filterCounts, hchange]
      omega
    · rw [filterCounts, filterCounts, ih]
      omega

/-- A change counts once, wherever it is made. -/
theorem filterCount_changeAt {change : FilterNode → FilterNode} {filters : List ColumnFilter}
    (hadds : Adds change filters) (path : List ResolvedSegment) (n : FilterNode) :
    (changeAt change path n).filterCount = n.filterCount + filters.length := by
  induction path generalizing n with
  | nil =>
    rw [changeAt, filterCount_eq, filterCount_eq n, hadds.filters, hadds.children,
      List.length_append]
    omega
  | cons s path ih =>
    rw [changeAt, filterCount_eq, filterCount_eq n]
    show n.filters.length + filterCounts (changeChild s (changeAt change path) n.children) = _
    rw [filterCounts_changeChild ih]
    omega

end FilterNode

namespace FilterTree

open FilterNode FilterEntry

variable {shape : RecordShape} {filters : Keyed FilterExpression}

/-! ## Building trees -/

/-- Entering an entry whose path resolves adds its filter, if it has one, at its path. -/
theorem exists_addFilter {entry : String × FilterExpression} {field : ResolvedField}
    (h : shape.resolve entry.1 = .ok field) (t : FilterTree) :
    ∃ change, Adds change (filterOn? field entry.2).toList ∧ t.addFilter shape entry =
      .ok { t with root := t.root.changeAt change field.segments } := by
  simp only [addFilter, h, bind, Except.bind, filterOn?]
  split
  · exact ⟨id, adds_id, rfl⟩
  · exact ⟨_, adds_addFilter _, rfl⟩

/-- Entering entries one after the other, all of whose paths resolve. -/
theorem exists_foldlM (hnames : shape.HasDistinctNames)
    (hresolve : ∀ entry ∈ filters, ∃ field, shape.resolve entry.1 = .ok field)
    {entries : List FilterEntry} (hentries : ∀ e ∈ entries, shape.Declares e.segments)
    {t : FilterTree} (h : Represents entries t.root) :
    ∃ t', filters.foldlM (addFilter shape) t = .ok t' ∧
      Represents (entries ++ ofQuery shape filters) t'.root ∧
      t'.root.filterCount = t.root.filterCount + filters.countP fun e => !e.2.hasNoOperator := by
  induction filters generalizing entries t with
  | nil => exact ⟨t, rfl, by rwa [ofQuery, List.filterMap_nil, List.append_nil], rfl⟩
  | cons entry filters ih =>
    obtain ⟨⟨field, hfield⟩, hrest⟩ := List.forall_mem_cons.1 hresolve
    have hdeclares := RecordShape.declares_of_resolve hfield
    have hentry : resolved? shape entry = some ⟨field.segments, filterOn? field entry.2⟩ := by
      rw [resolved?, hfield]
    obtain ⟨change, hadds, hadd⟩ := exists_addFilter hfield t
    have hstep := h.changeAt hadds fun e he => (hentries e he).agree hnames hdeclares
    obtain ⟨t', ht', hrepresents, hcount⟩ :=
      @ih hrest _ (List.forall_mem_append.2 ⟨hentries, List.forall_mem_singleton.2 hdeclares⟩)
        { t with root := t.root.changeAt change field.segments } hstep
    refine ⟨t', ?_, ?_, ?_⟩
    · rw [List.foldlM_cons, hadd]
      exact ht'
    · rw [ofQuery, List.filterMap_cons_some hentry, List.append_cons]
      exact hrepresents
    · have hlength : (filterOn? field entry.2).toList.length =
          if !entry.2.hasNoOperator then 1 else 0 := by
        cases hnone : entry.2.hasNoOperator <;> simp [filterOn?, hnone]
      rw [hcount, filterCount_changeAt hadds, hlength, List.countP_cons]
      omega

theorem declares_of_mem_ofQuery {e : FilterEntry} (he : e ∈ ofQuery shape filters) :
    shape.Declares e.segments := by
  obtain ⟨entry, -, hentry⟩ := List.mem_filterMap.1 he
  rw [resolved?] at hentry
  split at hentry
  · cases hentry
  · next field hfield =>
    cases hentry
    exact RecordShape.declares_of_resolve hfield

/-- The tree has the entries of a query where they belong, and nothing else. -/
structure Mirrors (shape : RecordShape) (query : Keyed FilterExpression) (t : FilterTree) :
    Prop where
  /-- Every entry has its node. -/
  entered : ∀ e ∈ ofQuery shape query, ∃ n, Leads t.root e.segments n
  /-- A path of names leads to one node at most. -/
  unique : ∀ path path' m n, Leads t.root path m → Leads t.root path' n →
    pathOf path = pathOf path' → path = path' ∧ m = n
  /-- Every node stands for a field, and is a list exactly if the field is one. -/
  declared : ∀ path n, Leads t.root path n → path ≠ [] → shape.Declares path
  /-- Every node is on the path of some entry. -/
  needed : ∀ path n, Leads t.root path n → path ≠ [] →
    ∃ e ∈ ofQuery shape query, path <+: e.segments
  /-- A node carries the filters of the entries at its path, in wire order, and no other. -/
  filters : ∀ path n, Leads t.root path n → n.filters = filtersAt path (ofQuery shape query)
  /-- The children of a node are in order of first appearance. -/
  children : ∀ path n, Leads t.root path n →
    n.children.map (·.segment) = nextAfter path (ofQuery shape query)
  /-- Siblings have different names. -/
  distinct : ∀ path n, Leads t.root path n → (n.children.map (·.name)).Nodup
  /-- Every entry with an operator counts as one filter. -/
  count : t.root.filterCount = query.countP fun e => !e.2.hasNoOperator

/-- A tree whose root represents the entries of a query mirrors them. -/
theorem mirrors_of_represents (hnames : shape.HasDistinctNames) {t : FilterTree}
    (h : Represents (ofQuery shape filters) t.root)
    (hcount : t.root.filterCount = filters.countP fun e => !e.2.hasNoOperator) :
    t.Mirrors shape filters := by
  have hagree : ∀ e ∈ ofQuery shape filters, ∀ e' ∈ ofQuery shape filters,
      Agree e.segments e'.segments := fun e he e' he' =>
    (declares_of_mem_ofQuery he).agree hnames (declares_of_mem_ofQuery he')
  have hunique (path path' : List ResolvedSegment) (m n : FilterNode) (hm : Leads t.root path m)
      (hn : Leads t.root path' n) (hpath : pathOf path = pathOf path') : path = path' ∧ m = n :=
    h.unique hagree hm hn hpath
  refine ⟨fun e he => h.exists_leads he, hunique, fun path n hn hne => ?_,
    fun path n hn hne => h.exists_through hn hne, fun path n hn => (h.of_leads hn).1,
    fun path n hn => (h.of_leads hn).2, fun path n hn => ?_, hcount⟩
  · obtain ⟨e, he, hstarts⟩ := h.exists_through hn hne
    exact (declares_of_mem_ofQuery he).of_start hstarts hne
  · have hnodup : (n.children.map (·.segment)).Nodup :=
      (h.of_leads hn).2 ▸ nodup_nextAfter path _
    refine List.Nodup.map_on (fun c hc c' hc' hname => ?_) (List.Nodup.of_map _ hnodup)
    refine (hunique _ _ c c' (hn.concat hc) (hn.concat hc') ?_).2
    simpa [pathOf, FilterNode.segment] using hname

/-- Under distinct names, the tree of a query whose paths resolve mirrors its entries. -/
theorem build_mirrors (hnames : shape.HasDistinctNames)
    (hresolve : ∀ entry ∈ filters, ∃ field, shape.resolve entry.1 = .ok field) :
    ∃ t, build shape filters = .ok t ∧ t.Mirrors shape filters := by
  have hempty : Represents [] empty.root := represents_bare ⟨"", false⟩
  obtain ⟨t, ht, hrepresents, hcount⟩ :=
    exists_foldlM hnames hresolve (List.forall_mem_nil _) hempty
  refine ⟨t, ht, mirrors_of_represents hnames hrepresents ?_⟩
  rw [hcount]
  exact Nat.zero_add _

theorem build_stockFilters_mirrors : stockShape.HasDistinctNames ∧
    ∃ t, build stockShape stockFilters = .ok t ∧ t.Mirrors stockShape stockFilters := by
  have hresolve : ∀ entry ∈ stockFilters, ∃ field, stockShape.resolve entry.1 = .ok field := by
    intro entry h
    simp only [stockFilters, List.mem_cons, List.not_mem_nil, or_false] at h
    rcases h with rfl | rfl | rfl <;> exact ⟨_, rfl⟩
  exact ⟨hasDistinctNames_stockShape, build_mirrors hasDistinctNames_stockShape hresolve⟩

end FilterTree

end ListingQuery
