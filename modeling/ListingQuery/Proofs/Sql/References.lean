import ListingQuery.Proofs.Shape.Dotted
import ListingQuery.Proofs.Sql.Parameters
import ListingQuery.Query.Assembly

/-!
# References to columns

A column is written as its name in quotes, behind the name of its join if it has one.  Quoted names
are read back from the front of any text that does not go on with a quote, so two columns are written
alike only if they have the same name and joins of the same name.

The name of a join has underscores between the segments of its record, and segments may have
underscores themselves.  Two joins have the same name exactly if their records are the same row of
words, cut at every underscore                                         (`aliasName_eq_iff`).  The
references of a statement are ambiguous exactly where such records meet
(`statement_references_apart_iff`).
-/

namespace ListingQuery.Sql

open Text (join splitOn)

variable {d : Dialect}

/-! ## Quoted names -/

theorem toList_quoteName (d : Dialect) (name : String) : (d.quoteName name).toList =
    d.nameQuote :: (Text.replaceChar d.nameQuote [d.nameQuote, d.nameQuote] name.toList
      ++ [d.nameQuote]) := by
  rw [Dialect.quoteName, String.toList_ofList]

/-- A text behind a closing quote does not begin with one more. -/
theorem eq_of_replaceChar_append {q : Char} {as bs rest rest' : List Char}
    (hrest : rest.head? ≠ some q) (hrest' : rest'.head? ≠ some q)
    (h : Text.replaceChar q [q, q] as ++ q :: rest = Text.replaceChar q [q, q] bs ++ q :: rest') :
    as = bs ∧ rest = rest' := by
  have hcons (c : Char) (cs tail : List Char) : Text.replaceChar q [q, q] (c :: cs) ++ tail =
      if c = q then q :: q :: (Text.replaceChar q [q, q] cs ++ tail)
      else c :: (Text.replaceChar q [q, q] cs ++ tail) := by
    unfold Text.replaceChar
    by_cases hc : c = q <;> simp [hc]
  have hnil (tail : List Char) : Text.replaceChar q [q, q] [] ++ tail = tail := rfl
  induction as generalizing bs with
  | nil =>
    cases bs with
    | nil => exact ⟨rfl, (List.cons.inj h).2⟩
    | cons b bs =>
      rw [hnil, hcons] at h
      by_cases hb : b = q
      · rw [if_pos hb] at h
        exact absurd (congrArg List.head? (List.cons.inj h).2) hrest
      · rw [if_neg hb] at h
        exact absurd (List.cons.inj h).1.symm hb
  | cons a as ih =>
    rw [hcons] at h
    cases bs with
    | nil =>
      rw [hnil] at h
      by_cases ha : a = q
      · rw [if_pos ha] at h
        exact absurd (congrArg List.head? (List.cons.inj h).2.symm) hrest'
      · rw [if_neg ha] at h
        exact absurd (List.cons.inj h).1 ha
    | cons b bs =>
      rw [hcons] at h
      by_cases ha : a = q
      · by_cases hb : b = q
        · rw [if_pos ha, if_pos hb] at h
          obtain ⟨rfl, rfl⟩ := ih (List.cons.inj (List.cons.inj h).2).2
          exact ⟨by rw [ha, hb], rfl⟩
        · rw [if_pos ha, if_neg hb] at h
          exact absurd (List.cons.inj h).1.symm hb
      · by_cases hb : b = q
        · rw [if_neg ha, if_pos hb] at h
          exact absurd (List.cons.inj h).1 ha
        · rw [if_neg ha, if_neg hb] at h
          obtain ⟨rfl, hrest⟩ := List.cons.inj h
          obtain ⟨rfl, rfl⟩ := ih hrest
          exact ⟨rfl, rfl⟩

/-- A quoted name is read back where no quote follows. -/
theorem eq_of_quoteName_append {a b : String} {rest rest' : List Char}
    (hrest : rest.head? ≠ some d.nameQuote) (hrest' : rest'.head? ≠ some d.nameQuote)
    (h : (d.quoteName a).toList ++ rest = (d.quoteName b).toList ++ rest') :
    a = b ∧ rest = rest' := by
  rw [toList_quoteName, toList_quoteName, List.cons_append, List.cons_append, List.append_assoc,
    List.append_assoc] at h
  obtain ⟨hname, hafter⟩ := eq_of_replaceChar_append hrest hrest' (List.cons.inj h).2
  exact ⟨String.toList_inj.1 hname, hafter⟩

theorem quoteName_inj {a b : String} : d.quoteName a = d.quoteName b ↔ a = b := by
  refine ⟨fun h => ?_, fun h => by rw [h]⟩
  have hchars : (d.quoteName a).toList ++ [] = (d.quoteName b).toList ++ [] := by rw [h]
  exact (eq_of_quoteName_append (by simp) (by simp) hchars).1

/-! ## Names of joins -/

/-- The name under which a join stands in a statement. -/
def aliasName (join : FieldPath) : String := Text.join "_" join

/-- The words of a record's path, cut at underscores as well as between segments. -/
def words (path : FieldPath) : List (List Char) := path.flatMap fun s => splitOn '_' s.toList

/-- The words are read back from the name of the join. -/
theorem splitOn_aliasName {path : FieldPath} (hne : path ≠ []) :
    splitOn '_' (aliasName path).toList = words path := by
  induction path with
  | nil => exact absurd rfl hne
  | cons s path ih =>
    cases path with
    | nil => simp [aliasName, Text.join, words]
    | cons s' path =>
      have hchars : (aliasName (s :: s' :: path)).toList =
          s.toList ++ '_' :: (aliasName (s' :: path)).toList := by
        simp [aliasName, Text.join]
      rw [hchars, Text.splitOn_append_cons, ih (by simp)]
      rfl

/-- Joins have the same name exactly if their records are the same row of words. -/
theorem aliasName_eq_iff {i j : FieldPath} (hi : i ≠ []) (hj : j ≠ []) :
    aliasName i = aliasName j ↔ words i = words j := by
  rw [← splitOn_aliasName hi, ← splitOn_aliasName hj]
  refine ⟨fun h => by rw [h], fun h => ?_⟩
  have hchars := congrArg ['_'].intercalate h
  rw [Text.intercalate_splitOn, Text.intercalate_splitOn] at hchars
  exact String.toList_inj.1 hchars

/-- Segments without underscores are words. -/
theorem words_of_forall_notMem {path : FieldPath} (h : ∀ s ∈ path, '_' ∉ s.toList) :
    words path = path.map String.toList := by
  induction path with
  | nil => rfl
  | cons s path ih =>
    obtain ⟨hs, hpath⟩ := List.forall_mem_cons.1 h
    have hcons : words (s :: path) = splitOn '_' s.toList ++ words path := rfl
    rw [hcons, Text.splitOn_eq_singleton hs, ih hpath, List.map_cons, List.singleton_append]

/-! ## Columns -/

theorem columnText_singleton (name : String) : columnText d [name] = d.quoteName name := rfl

theorem toList_columnText_concat {record : FieldPath} (h : record ≠ []) (name : String) :
    (columnText d (record ++ [name])).toList =
      (d.quoteName (aliasName record)).toList ++ '.' :: (d.quoteName name).toList := by
  unfold columnText
  simp [recordPath, aliasName, h]

theorem columnText_ne_empty {path : FieldPath} (h : path ≠ []) : columnText d path ≠ "" := by
  intro hempty
  have hchars := congrArg String.toList hempty
  obtain ⟨record, name, rfl⟩ := (List.eq_nil_or_concat' path).resolve_left h
  by_cases hrecord : record = []
  · subst hrecord
    rw [List.nil_append, columnText_singleton, toList_quoteName] at hchars
    cases hchars
  · rw [toList_columnText_concat hrecord, toList_quoteName] at hchars
    cases hchars

/-- A column of the table is not written like one of a join. -/
theorem columnText_singleton_ne {record : FieldPath} (h : record ≠ []) (a b : String) :
    columnText d [a] ≠ columnText d (record ++ [b]) := by
  intro heq
  have hchars : (d.quoteName a).toList ++ [] =
      (d.quoteName (aliasName record)).toList ++ '.' :: (d.quoteName b).toList := by
    rw [← toList_columnText_concat h, ← heq, columnText_singleton, List.append_nil]
  have hdot : ('.' :: (d.quoteName b).toList).head? ≠ some d.nameQuote := by
    cases d <;> simp [Dialect.nameQuote]
  cases (eq_of_quoteName_append (by simp) hdot hchars).2

/-- Columns of joins are written alike exactly if their names and the names of the joins are the
same. -/
theorem columnText_concat_eq_iff {i j : FieldPath} (hi : i ≠ []) (hj : j ≠ []) (a b : String) :
    columnText d (i ++ [a]) = columnText d (j ++ [b]) ↔ words i = words j ∧ a = b := by
  have hdot (name : String) : ('.' :: (d.quoteName name).toList).head? ≠ some d.nameQuote := by
    cases d <;> simp [Dialect.nameQuote]
  rw [← String.toList_inj, toList_columnText_concat hi, toList_columnText_concat hj,
    ← aliasName_eq_iff hi hj]
  constructor
  · intro h
    obtain ⟨hjoin, hname⟩ := eq_of_quoteName_append (hdot a) (hdot b) h
    exact ⟨hjoin, quoteName_inj.1 (String.toList_inj.1 (List.cons.inj hname).2)⟩
  · rintro ⟨hjoin, rfl⟩
    rw [hjoin]

/-- The columns belong to joins whose records are the same row of words, and have the same name. -/
def Meet (f g : FieldPath) : Prop :=
  recordPath f ≠ [] ∧ recordPath g ≠ [] ∧ words (recordPath f) = words (recordPath g) ∧
    f.getLast? = g.getLast?

theorem columnText_eq_iff (f g : FieldPath) :
    columnText d f = columnText d g ↔ f = g ∨ Meet f g := by
  by_cases hf : f = []
  · subst hf
    by_cases hg : g = []
    · subst hg
      simp
    · refine iff_of_false (fun h => columnText_ne_empty hg h.symm) ?_
      rintro (rfl | ⟨hrecord, -⟩)
      · exact hg rfl
      · exact hrecord rfl
  by_cases hg : g = []
  · subst hg
    refine iff_of_false (columnText_ne_empty hf) ?_
    rintro (rfl | ⟨-, hrecord, -⟩)
    · exact hf rfl
    · exact hrecord rfl
  obtain ⟨i, a, rfl⟩ := (List.eq_nil_or_concat' f).resolve_left hf
  obtain ⟨j, b, rfl⟩ := (List.eq_nil_or_concat' g).resolve_left hg
  have hmeet : Meet (i ++ [a]) (j ++ [b]) ↔ i ≠ [] ∧ j ≠ [] ∧ words i = words j ∧ a = b := by
    simp [Meet, recordPath]
  rw [hmeet]
  by_cases hi : i = []
  · subst hi
    by_cases hj : j = []
    · subst hj
      simp [columnText_singleton, quoteName_inj]
    · refine iff_of_false (columnText_singleton_ne hj a b) ?_
      rintro (heq | ⟨hne, -⟩)
      · exact hj (List.append_inj_left' heq rfl).symm
      · exact hne rfl
  by_cases hj : j = []
  · subst hj
    refine iff_of_false (fun h => columnText_singleton_ne hi b a h.symm) ?_
    rintro (heq | ⟨-, hne, -⟩)
    · exact hi (List.append_inj_left' heq rfl)
    · exact hne rfl
  rw [columnText_concat_eq_iff hi hj]
  constructor
  · exact fun h => .inr ⟨hi, hj, h⟩
  · rintro (heq | ⟨-, -, h⟩)
    · obtain ⟨rfl, hname⟩ := List.append_inj' heq rfl
      exact ⟨rfl, (List.cons.inj hname).1⟩
    · exact h

/-! ## References -/

/-- Different columns are written differently. -/
def WrittenApart (d : Dialect) (columns : List FieldPath) : Prop :=
  ∀ f ∈ columns, ∀ g ∈ columns, columnText d f = columnText d g → f = g

/-- Different joins have different names. -/
def NamedApart (joins : List FieldPath) : Prop :=
  ∀ i ∈ joins, ∀ j ∈ joins, aliasName i = aliasName j → i = j

theorem writtenApart_iff {columns : List FieldPath} :
    WrittenApart d columns ↔ ∀ f ∈ columns, ∀ g ∈ columns, Meet f g → f = g := by
  constructor
  · intro h f hf g hg hmeet
    exact h f hf g hg ((columnText_eq_iff f g).2 (.inr hmeet))
  · intro h f hf g hg htext
    exact ((columnText_eq_iff f g).1 htext).elim id (h f hf g hg)

theorem mem_joinUses_iff {columns : List FieldPath} {join : FieldPath} :
    join ∈ joinUses columns ↔ join ≠ [] ∧ ∃ f ∈ columns, recordPath f = join := by
  simp [joinUses, recordPath, and_comm]

theorem namedApart_iff {columns joins : List FieldPath}
    (hjoins : ∀ join ∈ joins, join ∈ joinUses columns) :
    NamedApart joins ↔ ∀ i ∈ joins, ∀ j ∈ joins, words i = words j → i = j := by
  have hne : ∀ join ∈ joins, join ≠ [] :=
    fun join hjoin => (mem_joinUses_iff.1 (hjoins join hjoin)).1
  constructor
  · intro h i hi j hj hwords
    exact h i hi j hj ((aliasName_eq_iff (hne i hi) (hne j hj)).2 hwords)
  · intro h i hi j hj hname
    exact h i hi j hj ((aliasName_eq_iff (hne i hi) (hne j hj)).1 hname)

/-- Columns are told apart by the names of their joins. -/
theorem NamedApart.writtenApart {columns : List FieldPath} (h : NamedApart (joinUses columns)) :
    WrittenApart d columns := by
  rw [writtenApart_iff]
  rintro f hf g hg ⟨hrecord, hrecord', hwords, hlast⟩
  have hsame : recordPath f = recordPath g :=
    h _ (mem_joinUses_iff.2 ⟨hrecord, f, hf, rfl⟩) _ (mem_joinUses_iff.2 ⟨hrecord', g, hg, rfl⟩)
      ((aliasName_eq_iff hrecord hrecord').2 hwords)
  have hne {path : FieldPath} (hpath : recordPath path ≠ []) : path ≠ [] := by
    rintro rfl
    exact hpath rfl
  rw [← List.dropLast_append_getLast (hne hrecord), ← List.dropLast_append_getLast (hne hrecord')]
  rw [List.getLast?_eq_some_getLast (hne hrecord), List.getLast?_eq_some_getLast (hne hrecord')]
    at hlast
  exact congr (congrArg HAppend.hAppend hsame) (congrArg ([·]) (Option.some.inj hlast))

/-- Joins whose segments have no underscores have names of their own. -/
theorem namedApart_of_forall_notMem {joins : List FieldPath} (hne : ∀ join ∈ joins, join ≠ [])
    (h : ∀ join ∈ joins, ∀ s ∈ join, '_' ∉ s.toList) : NamedApart joins := by
  intro i hi j hj hname
  have hwords := (aliasName_eq_iff (hne i hi) (hne j hj)).1 hname
  rw [words_of_forall_notMem (h i hi), words_of_forall_notMem (h j hj)] at hwords
  exact List.map_injective_iff.2 (fun _ _ => String.toList_inj.1) hwords

/-- The references of a statement, which are the columns of the predicate and of the sort keys.
Different ones are written alike exactly if they have the same name and belong to joins that are the
same row of words, and different joins have the same name exactly if they are the same row of words.
Where no segment of a join has an underscore, neither happens. -/
theorem statement_references_apart_iff (t : Table) (p : Predicate) (r : Request) :
    ∃ fs, r.statement t p = .ofFragments t.dialect fs ∧
      mentioned fs = p.columns [] ++ r.sort.map SortKey.field ∧
      (WrittenApart t.dialect (mentioned fs) ↔
        ∀ f ∈ mentioned fs, ∀ g ∈ mentioned fs, Meet f g → f = g) ∧
      (NamedApart (r.statement t p).joins ↔
        ∀ i ∈ (r.statement t p).joins, ∀ j ∈ (r.statement t p).joins, words i = words j → i = j) ∧
      (NamedApart (r.statement t p).joins → WrittenApart t.dialect (mentioned fs)) ∧
      ((∀ join ∈ (r.statement t p).joins, ∀ s ∈ join, '_' ∉ s.toList) →
        NamedApart (r.statement t p).joins) := by
  have hmentioned : mentioned (r.before t ++ (conditionFragments t.dialect p ++ r.after)) =
      p.columns [] ++ r.sort.map SortKey.field := by
    rw [mentioned, List.flatMap_append, List.flatMap_append]
    show mentioned _ ++ (mentioned _ ++ mentioned _) = _
    rw [Request.mentioned_before, mentioned_conditionFragments, Request.mentioned_after,
      List.nil_append]
  have hjoins (join : FieldPath) : join ∈ (r.statement t p).joins ↔
      join ∈ joinUses (p.columns [] ++ r.sort.map SortKey.field) := by
    rw [Request.joins_statement, List.mem_eraseDups]
  refine ⟨_, Request.statement_eq t p r, hmentioned, writtenApart_iff,
    namedApart_iff fun join => (hjoins join).1, fun h => ?_, fun h => ?_⟩
  · rw [hmentioned]
    refine NamedApart.writtenApart fun i hi j hj => ?_
    exact h i ((hjoins i).2 hi) j ((hjoins j).2 hj)
  · exact namedApart_of_forall_notMem
      (fun join hjoin => (mem_joinUses_iff.1 ((hjoins join).1 hjoin)).1) h

/-- Visits, whose records have the field `address` of a user and the field `user_address`. -/
def visits : CollectionSchema :=
  let place : RecordShape := ⟨"Place", [⟨"city", none, .scalar .string⟩]⟩
  let user : RecordShape := ⟨"User", [⟨"address", none, .record place⟩]⟩
  ⟨"visits", ⟨"Visit", [⟨"user", none, .record user⟩, ⟨"user_address", none, .record place⟩]⟩, []⟩

/-- Visits whose place is in one city and whose user lives in another. -/
def visitsBetween (city home : String) : QueryDescription where
  filters := [("user_address.city", { eq? := some (.string city) }),
    ("user.address.city", { eq? := some (.string home) })]

/-- The two addresses are joins with one name, so both conditions are on the same column. -/
theorem visitsBetween_share_column :
    ∃ q, AssembledQuery.assemble visits (visitsBetween "Rome" "Oslo") 10 = .ok q ∧
      (Table.condition ⟨"visits", .postgres, none⟩ q.predicate).text =
        "\"user_address\".\"city\" = $1 AND \"user_address\".\"city\" = $2" ∧
      (Table.condition ⟨"visits", .postgres, none⟩ q.predicate).joins =
        [["user_address"], ["user", "address"]] ∧
      aliasName ["user_address"] = aliasName ["user", "address"] :=
  ⟨_, rfl, rfl, rfl, rfl⟩

end ListingQuery.Sql
