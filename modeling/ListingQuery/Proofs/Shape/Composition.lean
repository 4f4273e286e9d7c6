import ListingQuery.Proofs.Shape.Dotted
import ListingQuery.Shape.Resolution

/-!
# Paths one after the other

A path that goes on where another ends names what its second part names in the record that its first
part reaches.  A path that fails does so at the first segment up to which it does not resolve, and is
told the last record before that segment.

    p ++ q names r ↔ p reaches a record, and q names r in it                (names_append_iff)
    resolve (p ++ "." ++ q) = .ok r, and resolve path = .error e            (resolve_composes)

The walk that collects segments and the walk that looks for a record only are both compared with one
relation.
-/

namespace ListingQuery.RecordShape

open FieldPath (dotted ofDotted IsDotless)

/-! ## Relations -/

/-- The path leads from the first record into the second, through fields that hold records. -/
inductive Reaches : RecordShape → FieldPath → List ResolvedSegment → RecordShape → Prop
  | here (shape : RecordShape) : Reaches shape [] [] shape
  | into {shape inner s : RecordShape} {f : FieldDef} {segment : String} {rest : FieldPath}
      {segments : List ResolvedSegment} (lookup : shape.lookup? segment = some f)
      (record : f.kind.record? = some inner) (below : Reaches inner rest segments s) :
      Reaches shape (segment :: rest) (⟨f.name, f.kind.isList⟩ :: segments) s

/-- The path names a field, of the record itself or of one that it leads into. -/
inductive Names : RecordShape → FieldPath → ResolvedField → Prop
  | last {shape : RecordShape} {f : FieldDef} {segment : String}
      (lookup : shape.lookup? segment = some f) :
      Names shape [segment] ⟨f.kind.columnType, [⟨f.name, f.kind.isList⟩]⟩
  | into {shape inner : RecordShape} {f : FieldDef} {segment : String} {rest : FieldPath}
      {r : ResolvedField} (lookup : shape.lookup? segment = some f)
      (record : f.kind.record? = some inner) (below : Names inner rest r) :
      Names shape (segment :: rest) ⟨r.columnType, ⟨f.name, f.kind.isList⟩ :: r.segments⟩

/-- The record is the last that the segments lead into, one after the other. -/
def IsLastReached (shape : RecordShape) (segments : FieldPath) (record : RecordShape) : Prop :=
  ∃ reached, reached <+: segments ∧ shape.reachSegments (dotted reached) reached = .ok record ∧
    ∀ longer s, longer <+: segments → shape.reachSegments (dotted longer) longer = .ok s →
      longer.length ≤ reached.length

/-- The path resolves up to each segment of `before`, but not up to `segment`, which comes next;
`record` is the last that it reaches. -/
structure FailsFirstAt (shape : RecordShape) (before : FieldPath) (segment : String)
    (record : RecordShape) : Prop where
  resolves : ∀ part : FieldPath, part ≠ [] → part <+: before →
    ∃ r, shape.resolve (dotted part) = .ok r
  fails : ∀ r, shape.resolve (dotted (before ++ [segment])) ≠ .ok r
  reached : shape.IsLastReached before record

variable {shape s : RecordShape} {p q path : FieldPath} {segments : List ResolvedSegment}
  {r : ResolvedField} {full : String}

/-! ## One step -/

theorem field_eq_ok_iff (full : String) {segment : String} {f : FieldDef} :
    shape.field full segment = .ok f ↔ shape.lookup? segment = some f := by
  rw [field]
  cases shape.lookup? segment <;> simp

theorem reaches_nil_iff : shape.Reaches [] segments s ↔ segments = [] ∧ s = shape := by
  constructor
  · rintro ⟨⟩
    exact ⟨rfl, rfl⟩
  · rintro ⟨rfl, rfl⟩
    exact .here s

theorem reaches_cons_iff {segment : String} : shape.Reaches (segment :: p) segments s ↔
    ∃ f inner below, shape.lookup? segment = some f ∧ f.kind.record? = some inner ∧
      inner.Reaches p below s ∧ segments = ⟨f.name, f.kind.isList⟩ :: below := by
  constructor
  · rintro (_ | ⟨lookup, record, below⟩)
    exact ⟨_, _, _, lookup, record, below, rfl⟩
  · rintro ⟨f, inner, below, lookup, record, hbelow, rfl⟩
    exact .into lookup record hbelow

theorem names_singleton_iff {segment : String} : shape.Names [segment] r ↔
    ∃ f, shape.lookup? segment = some f ∧ r = ⟨f.kind.columnType, [⟨f.name, f.kind.isList⟩]⟩ := by
  constructor
  · rintro (lookup | ⟨-, -, ⟨⟩⟩)
    exact ⟨_, lookup, rfl⟩
  · rintro ⟨f, lookup, rfl⟩
    exact .last lookup

theorem names_cons_iff {segment : String} (hp : p ≠ []) : shape.Names (segment :: p) r ↔
    ∃ f inner below, shape.lookup? segment = some f ∧ f.kind.record? = some inner ∧
      inner.Names p below ∧ r = ⟨below.columnType, ⟨f.name, f.kind.isList⟩ :: below.segments⟩ := by
  constructor
  · rintro (_ | ⟨lookup, record, below⟩)
    · exact absurd rfl hp
    · exact ⟨_, _, _, lookup, record, below, rfl⟩
  · rintro ⟨f, inner, below, lookup, record, hbelow, rfl⟩
    exact .into lookup record hbelow

/-! ## The two walks -/

theorem resolveSegments_eq_ok_iff (full : String) :
    resolveSegments full shape path = .ok r ↔ shape.Names path r := by
  induction path generalizing shape r with
  | nil => exact ⟨nofun, nofun⟩
  | cons segment rest ih =>
    cases rest with
    | nil =>
      rw [names_singleton_iff, resolveSegments]
      simp only [← field_eq_ok_iff full]
      cases shape.field full segment <;> simp [bind, Except.bind, eq_comm]
    | cons next rest =>
      rw [names_cons_iff (by simp), resolveSegments]
      simp only [← field_eq_ok_iff full, ← ih]
      cases shape.field full segment with
      | error e => simp [bind, Except.bind]
      | ok f =>
        simp only [bind, Except.bind, Except.ok.injEq]
        cases hinner : f.kind.record? with
        | none => simp [hinner]
        | some inner =>
          cases hbelow : resolveSegments full inner (next :: rest) <;>
            simp [hinner, hbelow, eq_comm]

theorem reachSegments_eq_ok_iff (full : String) : shape.reachSegments full path = .ok s ↔
    ∃ segments, shape.Reaches path segments s := by
  induction path generalizing shape with
  | nil => simp [reachSegments, reaches_nil_iff, eq_comm]
  | cons segment rest ih =>
    simp only [reaches_cons_iff, reachSegments, ← field_eq_ok_iff full]
    cases shape.field full segment with
    | error e => simp [bind, Except.bind]
    | ok f =>
      simp only [bind, Except.bind, Except.ok.injEq]
      cases hinner : f.kind.record? with
      | none => simp [hinner]
      | some inner =>
        simp only [ih]
        constructor
        · rintro ⟨below, hbelow⟩
          exact ⟨_, f, inner, below, rfl, hinner, hbelow, rfl⟩
        · rintro ⟨_, _, inner', below, rfl, hinner', hbelow, -⟩
          cases hinner.symm.trans hinner'
          exact ⟨below, hbelow⟩

theorem resolve_eq_ok_iff {text : String} :
    shape.resolve text = .ok r ↔ shape.Names (ofDotted text) r :=
  resolveSegments_eq_ok_iff text

theorem reach_eq_ok_iff {text : String} :
    shape.reach text = .ok s ↔ ∃ segments, shape.Reaches (ofDotted text) segments s :=
  reachSegments_eq_ok_iff text

/-- A path without dots is resolved as it stands. -/
theorem resolve_dotted_eq_ok_iff (hp : p ≠ []) (hdots : p.IsDotless) :
    shape.resolve (dotted p) = .ok r ↔ shape.Names p r := by
  rw [resolve_eq_ok_iff, FieldPath.ofDotted_dotted hp hdots]

theorem Names.unique {r' : ResolvedField} (h : shape.Names path r) (h' : shape.Names path r') :
    r = r' :=
  Except.ok.inj (((resolveSegments_eq_ok_iff "").2 h).symm.trans
    ((resolveSegments_eq_ok_iff "").2 h'))

theorem Reaches.unique {segments' : List ResolvedSegment} {s' : RecordShape}
    (h : shape.Reaches path segments s) (h' : shape.Reaches path segments' s') : s = s' :=
  Except.ok.inj (((reachSegments_eq_ok_iff "").2 ⟨_, h⟩).symm.trans
    ((reachSegments_eq_ok_iff "").2 ⟨_, h'⟩))

/-! ## Joined paths -/

/-- A path that reaches a record names the field that holds it. -/
theorem Reaches.names (h : shape.Reaches p segments s) (hp : p ≠ []) :
    ∃ type, shape.Names p ⟨type, segments⟩ := by
  induction h with
  | here => exact absurd rfl hp
  | @into shape inner s f segment rest segments lookup record below ih =>
    cases rest with
    | nil =>
      obtain ⟨rfl, rfl⟩ := reaches_nil_iff.1 below
      exact ⟨_, .last lookup⟩
    | cons next rest =>
      obtain ⟨type, htype⟩ := ih (by simp)
      exact ⟨type, .into lookup record htype⟩

/-- What a joined path names is named by its second part in the record that the first reaches. -/
theorem names_append_iff (hq : q ≠ []) : shape.Names (p ++ q) r ↔
    ∃ segments s below, shape.Reaches p segments s ∧ s.Names q below ∧
      r = ⟨below.columnType, segments ++ below.segments⟩ := by
  induction p generalizing shape r with
  | nil =>
    constructor
    · intro h
      exact ⟨[], shape, r, .here shape, h, rfl⟩
    · rintro ⟨segments, s, below, hreaches, hbelow, rfl⟩
      obtain ⟨rfl, rfl⟩ := reaches_nil_iff.1 hreaches
      exact hbelow
  | cons segment p ih =>
    rw [List.cons_append, names_cons_iff (by simp [hq])]
    constructor
    · rintro ⟨f, inner, below, lookup, record, hbelow, rfl⟩
      obtain ⟨segments, s, last, hreaches, hlast, rfl⟩ := ih.1 hbelow
      exact ⟨_, s, last, .into lookup record hreaches, hlast, rfl⟩
    · rintro ⟨segments, s, last, hreaches, hlast, rfl⟩
      obtain ⟨f, inner, below, lookup, record, hbelow, rfl⟩ := reaches_cons_iff.1 hreaches
      exact ⟨f, inner, _, lookup, record, ih.2 ⟨below, s, last, hbelow, hlast, rfl⟩, rfl⟩

theorem reaches_append_iff : (∃ segments, shape.Reaches (p ++ q) segments s) ↔
    ∃ segments inner below, shape.Reaches p segments inner ∧ inner.Reaches q below s := by
  induction p generalizing shape with
  | nil =>
    constructor
    · rintro ⟨segments, h⟩
      exact ⟨[], shape, segments, .here shape, h⟩
    · rintro ⟨segments, inner, below, hp, hq⟩
      obtain ⟨rfl, rfl⟩ := reaches_nil_iff.1 hp
      exact ⟨below, hq⟩
  | cons segment p ih =>
    constructor
    · rintro ⟨segments, h⟩
      obtain ⟨f, first, rest, lookup, record, hrest, rfl⟩ := reaches_cons_iff.1 h
      obtain ⟨segments, inner, below, hp, hq⟩ := ih.1 ⟨rest, hrest⟩
      exact ⟨_, inner, below, .into lookup record hp, hq⟩
    · rintro ⟨segments, inner, below, hp, hq⟩
      obtain ⟨f, first, rest, lookup, record, hrest, rfl⟩ := reaches_cons_iff.1 hp
      obtain ⟨segments, h⟩ := ih.2 ⟨rest, inner, below, hrest, hq⟩
      exact ⟨_, .into lookup record h⟩

/-- A path that reaches a record names fields on its way. -/
theorem Reaches.names_of_part {part : FieldPath} (h : shape.Reaches path segments s)
    (hne : part ≠ []) (hpart : part <+: path) : ∃ r, shape.Names part r := by
  obtain ⟨rest, rfl⟩ := hpart
  obtain ⟨before, inner, below, hbefore, -⟩ := reaches_append_iff.1 ⟨segments, h⟩
  obtain ⟨type, htype⟩ := hbefore.names hne
  exact ⟨_, htype⟩

/-- So does a path that names a field. -/
theorem Names.of_part {part : FieldPath} (h : shape.Names path r) (hne : part ≠ [])
    (hpart : part <+: path) : ∃ r', shape.Names part r' := by
  obtain ⟨rest, rfl⟩ := hpart
  by_cases hrest : rest = []
  · rw [hrest, List.append_nil] at h
    exact ⟨r, h⟩
  · obtain ⟨segments, s, below, hreaches, -, -⟩ := (names_append_iff hrest).1 h
    exact hreaches.names_of_part hne (List.prefix_refl part)

/-! ## Failing paths -/

/-- A path that does not resolve reaches a record that has no field of the next segment, or the next
segment names a field there that holds no record and the path goes on. -/
theorem exists_of_resolveSegments_eq_error {e : QueryError} (hne : path ≠ [])
    (h : resolveSegments full shape path = .error e) :
    ∃ reached segments record segment after, shape.Reaches reached segments record ∧
      e = .fieldNotFound full segment record.name ∧
      (path = reached ++ segment :: after ∧ record.lookup? segment = none ∨
        ∃ name f, path = reached ++ name :: segment :: after ∧ record.lookup? name = some f ∧
          f.kind.record? = none) := by
  induction path generalizing shape with
  | nil => exact absurd rfl hne
  | cons name rest ih =>
    cases hlookup : shape.lookup? name with
    | none =>
      have hfield : shape.field full name = .error (.fieldNotFound full name shape.name) := by
        rw [field, hlookup]
      refine ⟨[], [], shape, name, rest, .here shape, ?_, .inl ⟨rfl, hlookup⟩⟩
      cases rest <;> simpa [resolveSegments, hfield, bind, Except.bind, eq_comm] using h
    | some f =>
      have hfield : shape.field full name = .ok f := (field_eq_ok_iff full).2 hlookup
      cases rest with
      | nil => simp [resolveSegments, hfield, bind, Except.bind] at h
      | cons next rest =>
        simp only [resolveSegments, hfield, bind, Except.bind] at h
        cases hinner : f.kind.record? with
        | none =>
          rw [hinner] at h
          exact ⟨[], [], shape, next, rest, .here shape, (Except.error.inj h).symm,
            .inr ⟨name, f, rfl, hlookup, hinner⟩⟩
        | some inner =>
          rw [hinner] at h
          cases hbelow : resolveSegments full inner (next :: rest) with
          | ok below => simp [hbelow] at h
          | error e' =>
            simp only [hbelow, Except.error.injEq] at h
            subst h
            obtain ⟨reached, segments, record, segment, after, hreached, he, hcase⟩ :=
              ih (by simp) hbelow
            refine ⟨name :: reached, _, record, segment, after, .into hlookup hinner hreached, he,
              ?_⟩
            rcases hcase with ⟨hpath, hnone⟩ | ⟨scalar, g, hpath, hg, hscalar⟩
            · exact .inl ⟨by rw [hpath, List.cons_append], hnone⟩
            · exact .inr ⟨scalar, g, by rw [hpath, List.cons_append], hg, hscalar⟩

theorem IsLastReached.unique {record record' : RecordShape} (h : shape.IsLastReached path record)
    (h' : shape.IsLastReached path record') : record = record' := by
  obtain ⟨reached, hprefix, hreached, hlast⟩ := h
  obtain ⟨reached', hprefix', hreached', hlast'⟩ := h'
  have hlength : reached.length = reached'.length :=
    Nat.le_antisymm (hlast' _ _ hprefix hreached) (hlast _ _ hprefix' hreached')
  obtain rfl : reached = reached' :=
    (List.prefix_of_prefix_length_le hprefix hprefix' (Nat.le_of_eq hlength)).eq_of_length hlength
  exact Except.ok.inj (hreached.symm.trans hreached')

/-- A path fails first at one segment only. -/
theorem FailsFirstAt.unique {before before' after after' : FieldPath} {segment segment' : String}
    {record record' : RecordShape} (h : shape.FailsFirstAt before segment record)
    (h' : shape.FailsFirstAt before' segment' record')
    (heq : before ++ segment :: after = before' ++ segment' :: after') :
    segment = segment' ∧ record = record' := by
  -- of two such beginnings the shorter one would go on into the longer one, and so resolve
  have hle {before before' after after' : FieldPath} {segment segment' : String}
      {record record' : RecordShape} (h : shape.FailsFirstAt before segment record)
      (h' : shape.FailsFirstAt before' segment' record')
      (heq : before ++ segment :: after = before' ++ segment' :: after') :
      before'.length ≤ before.length := by
    refine Nat.le_of_not_lt fun hlt => ?_
    have hprefix : before ++ [segment] <+: before' ++ segment' :: after' :=
      heq ▸ ⟨after, by simp⟩
    have hpart : before ++ [segment] <+: before' :=
      List.prefix_of_prefix_length_le hprefix (List.prefix_append _ _) (by simp; omega)
    obtain ⟨r, hr⟩ := h'.resolves _ (by simp) hpart
    exact h.fails r hr
  have hlength : before.length = before'.length :=
    Nat.le_antisymm (hle h' h heq.symm) (hle h h' heq)
  obtain ⟨rfl, hrest⟩ := List.append_inj heq hlength
  exact ⟨(List.cons.inj hrest).1, h.reached.unique h'.reached⟩

theorem failsFirstAt_of_lookup_eq_none {reached : FieldPath} {segment : String}
    {record : RecordShape} (hdots : (reached ++ [segment]).IsDotless)
    (hreached : shape.Reaches reached segments record) (hnone : record.lookup? segment = none) :
    shape.FailsFirstAt reached segment record where
  resolves part hne hpart := by
    have hpartDots : part.IsDotless := fun t ht =>
      hdots t (List.mem_append_left _ (hpart.subset ht))
    simp only [resolve_dotted_eq_ok_iff hne hpartDots]
    exact hreached.names_of_part hne hpart
  fails r hr := by
    rw [resolve_dotted_eq_ok_iff (by simp) hdots, names_append_iff (by simp)] at hr
    obtain ⟨_, s, below, hs, hbelow, -⟩ := hr
    obtain rfl := hreached.unique hs
    obtain ⟨f, hf, -⟩ := names_singleton_iff.1 hbelow
    rw [hnone] at hf
    cases hf
  reached := ⟨reached, List.prefix_refl _, (reachSegments_eq_ok_iff _).2 ⟨_, hreached⟩,
    fun _ _ hlonger _ => hlonger.length_le⟩

theorem failsFirstAt_of_record?_eq_none {reached : FieldPath} {name segment : String}
    {record : RecordShape} {f : FieldDef} (hdots : (reached ++ [name] ++ [segment]).IsDotless)
    (hreached : shape.Reaches reached segments record) (hf : record.lookup? name = some f)
    (hscalar : f.kind.record? = none) : shape.FailsFirstAt (reached ++ [name]) segment record where
  resolves part hne hpart := by
    have hpartDots : part.IsDotless := fun t ht =>
      hdots t (List.mem_append_left _ (hpart.subset ht))
    simp only [resolve_dotted_eq_ok_iff hne hpartDots]
    rcases List.prefix_concat_iff.1 hpart with rfl | hpart
    · exact ⟨_, (names_append_iff (by simp)).2 ⟨_, _, _, hreached, .last hf, rfl⟩⟩
    · exact hreached.names_of_part hne hpart
  fails r hr := by
    rw [resolve_dotted_eq_ok_iff (by simp) hdots, List.append_assoc,
      names_append_iff (by simp)] at hr
    obtain ⟨_, s, below, hs, hbelow, -⟩ := hr
    obtain rfl := hreached.unique hs
    obtain ⟨g, inner, _, hg, hinner, -⟩ := (names_cons_iff (by simp)).1 hbelow
    cases hf.symm.trans hg
    rw [hscalar] at hinner
    cases hinner
  reached := by
    refine ⟨reached, List.prefix_append _ _, (reachSegments_eq_ok_iff _).2 ⟨_, hreached⟩, ?_⟩
    intro longer s hlonger hs
    rcases List.prefix_concat_iff.1 hlonger with rfl | hlonger
    · obtain ⟨_, inner, below, hinner, hbelow⟩ :=
        reaches_append_iff.1 ((reachSegments_eq_ok_iff _).1 hs)
      obtain rfl := hreached.unique hinner
      obtain ⟨g, _, _, hg, hrecord, -⟩ := reaches_cons_iff.1 hbelow
      cases hf.symm.trans hg
      rw [hscalar] at hrecord
      cases hrecord
    · exact hlonger.length_le

/-- A path fails to resolve exactly if it fails first at some segment, and says at which. -/
theorem resolve_eq_error_iff {text : String} {e : QueryError} : shape.resolve text = .error e ↔
    ∃ before segment after record, ofDotted text = before ++ segment :: after ∧
      shape.FailsFirstAt before segment record ∧ e = .fieldNotFound text segment record.name := by
  have hforward {e : QueryError} (h : shape.resolve text = .error e) :
      ∃ before segment after record, ofDotted text = before ++ segment :: after ∧
        shape.FailsFirstAt before segment record ∧
        e = .fieldNotFound text segment record.name := by
    obtain ⟨reached, segments, record, segment, after, hreached, he, hcase⟩ :=
      exists_of_resolveSegments_eq_error (FieldPath.ofDotted_ne_nil text) h
    have hdots {part : FieldPath} (hpart : part <+: ofDotted text) : part.IsDotless :=
      fun t ht => FieldPath.isDotless_ofDotted text t (hpart.subset ht)
    rcases hcase with ⟨hpath, hnone⟩ | ⟨name, f, hpath, hf, hscalar⟩
    · have hpart : reached ++ [segment] <+: ofDotted text := ⟨after, by simp [hpath]⟩
      exact ⟨reached, segment, after, record, hpath,
        failsFirstAt_of_lookup_eq_none (hdots hpart) hreached hnone, he⟩
    · have hpart : reached ++ [name] ++ [segment] <+: ofDotted text := ⟨after, by simp [hpath]⟩
      exact ⟨reached ++ [name], segment, after, record, by simp [hpath],
        failsFirstAt_of_record?_eq_none (hdots hpart) hreached hf hscalar, he⟩
  refine ⟨hforward, ?_⟩
  rintro ⟨before, segment, after, record, hpath, hfails, rfl⟩
  cases hresolve : shape.resolve text with
  | ok r =>
    have hpart : before ++ [segment] <+: ofDotted text := ⟨after, by simp [hpath]⟩
    obtain ⟨r', hr'⟩ := (resolve_eq_ok_iff.1 hresolve).of_part (by simp) hpart
    have hdots : (before ++ [segment]).IsDotless :=
      fun t ht => FieldPath.isDotless_ofDotted text t (hpart.subset ht)
    exact absurd ((resolve_dotted_eq_ok_iff (by simp) hdots).2 hr') (hfails.fails r')
  | error e =>
    obtain ⟨before', segment', after', record', hpath', hfails', rfl⟩ := hforward hresolve
    obtain ⟨rfl, rfl⟩ := hfails.unique hfails' (hpath.symm.trans hpath')
    rfl

/-! ## Texts -/

theorem resolve_append_eq_ok_iff {p q : String} : shape.resolve (p ++ "." ++ q) = .ok r ↔
    ∃ s f g, shape.reach p = .ok s ∧ shape.resolve p = .ok f ∧ s.resolve q = .ok g ∧
      r = ⟨g.columnType, f.segments ++ g.segments⟩ := by
  rw [resolve_eq_ok_iff, FieldPath.ofDotted_append,
    names_append_iff (FieldPath.ofDotted_ne_nil q)]
  simp only [reach_eq_ok_iff, resolve_eq_ok_iff]
  constructor
  · rintro ⟨segments, s, g, hs, hg, rfl⟩
    obtain ⟨type, hf⟩ := hs.names (FieldPath.ofDotted_ne_nil p)
    exact ⟨s, _, g, ⟨segments, hs⟩, hf, hg, rfl⟩
  · rintro ⟨s, f, g, ⟨segments, hs⟩, hf, hg, rfl⟩
    obtain ⟨type, hf'⟩ := hs.names (FieldPath.ofDotted_ne_nil p)
    obtain rfl := hf.unique hf'
    exact ⟨segments, s, g, hs, hg, rfl⟩

/-- Two paths with a dot between them resolve exactly if the first reaches a record in which the
second resolves, to what the second names there, with the segments of both.  A path that does not
resolve reports itself, the first segment up to which it does not resolve, and the last record before
that segment. -/
theorem resolve_composes (shape : RecordShape) (p q : String) :
    ((∃ r, shape.resolve (p ++ "." ++ q) = .ok r) ↔
      ∃ s, shape.reach p = .ok s ∧ ∃ g, s.resolve q = .ok g) ∧
    (∀ r, shape.resolve (p ++ "." ++ q) = .ok r ↔
      ∃ s f g, shape.reach p = .ok s ∧ shape.resolve p = .ok f ∧ s.resolve q = .ok g ∧
        r = ⟨g.columnType, f.segments ++ g.segments⟩) ∧
    ∀ path e, shape.resolve path = .error e ↔
      ∃ before segment after record, ofDotted path = before ++ segment :: after ∧
        shape.FailsFirstAt before segment record ∧
        e = .fieldNotFound path segment record.name := by
  refine ⟨?_, fun r => resolve_append_eq_ok_iff, fun path e => resolve_eq_error_iff⟩
  simp only [resolve_append_eq_ok_iff]
  constructor
  · rintro ⟨-, s, f, g, hs, -, hg, -⟩
    exact ⟨s, hs, g, hg⟩
  · rintro ⟨s, hs, g, hg⟩
    obtain ⟨segments, hreaches⟩ := reach_eq_ok_iff.1 hs
    obtain ⟨type, hf⟩ := hreaches.names (FieldPath.ofDotted_ne_nil p)
    exact ⟨_, s, _, g, hs, resolve_eq_ok_iff.2 hf, hg, rfl⟩

end ListingQuery.RecordShape
