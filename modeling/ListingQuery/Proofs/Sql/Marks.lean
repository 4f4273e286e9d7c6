import ListingQuery.Proofs.Sql.Precedence

/-!
# The marks in a text

A text is read from the left.  Between the quotes of a name there are no marks, and a quote written
twice leaves a name and enters it again.  Elsewhere a mark is a question mark, or a dollar sign with
the digits that follow it, so a mark must not be followed by one more digit.

Fragments are well marked if the marks of their text are those of their bound values, numbered in
order, in front of any text that does not begin with a digit.  Rows of tokens are well marked, as a
word or a parenthesis stands between any two tests:

    IsMarked d (conditionFragments d p)                          (isMarked_conditionFragments)
-/

namespace ListingQuery.Sql

/-! ## Reading marks -/

/-- The mark that a text begins with, if it begins with one. -/
def Dialect.markAt : Dialect → List Char → List String
  | postgres, '$' :: cs => [String.ofList ('$' :: cs.takeWhile Char.isDigit)]
  | mysql, '?' :: _ => ["?"]
  | _, _ => []

/-- The marks in a text that begins inside a name, or outside. -/
def marksFrom (d : Dialect) : (inName : Bool) → List Char → List String
  | _, [] => []
  | true, c :: cs => marksFrom d (c != d.nameQuote) cs
  | false, c :: cs => d.markAt (c :: cs) ++ marksFrom d (c == d.nameQuote) cs

/-- The marks in a text. -/
def marks (d : Dialect) (text : String) : List String := marksFrom d false text.toList

/-- No character of the text has to do with names or marks, in any dialect. -/
def IsQuiet (cs : List Char) : Prop := ∀ c ∈ cs, c ∉ ['"', '\x60', '$', '?']

/-- The text does not begin with a digit. -/
def IsCalm (cs : List Char) : Prop := ∀ c ∈ cs.head?, c.isDigit = false

instance (cs : List Char) : Decidable (IsQuiet cs) := List.decidableBAll _ cs

instance (cs : List Char) : Decidable (IsCalm cs) := Option.decidableForallMem cs.head?

variable {d : Dialect}

theorem isQuiet_append {cs ds : List Char} (hcs : IsQuiet cs) (hds : IsQuiet ds) :
    IsQuiet (cs ++ ds) :=
  List.forall_mem_append.2 ⟨hcs, hds⟩

theorem marksFrom_quiet {cs : List Char} (h : IsQuiet cs) (rest : List Char) :
    marksFrom d false (cs ++ rest) = marksFrom d false rest := by
  induction cs with
  | nil => rfl
  | cons c cs ih =>
    obtain ⟨hc, hcs⟩ := List.forall_mem_cons.1 h
    simp only [List.mem_cons, List.not_mem_nil, or_false, not_or] at hc
    have hquote : (c == d.nameQuote) = false := by cases d <;> simp [Dialect.nameQuote, hc]
    have hmark : d.markAt (c :: (cs ++ rest)) = [] := by
      cases d <;> simp [Dialect.markAt, hc]
    rw [List.cons_append, marksFrom, hmark, hquote, ih hcs, List.nil_append]

theorem markAt_nameQuote (cs : List Char) : d.markAt (d.nameQuote :: cs) = [] := by
  cases d <;> rfl

/-- A name goes on over quotes that are written twice. -/
theorem marksFrom_inName (cs rest : List Char) :
    marksFrom d true (Text.replaceChar d.nameQuote [d.nameQuote, d.nameQuote] cs ++ rest) =
      marksFrom d true rest := by
  induction cs with
  | nil => rfl
  | cons c cs ih =>
    rw [Text.replaceChar, List.flatMap_cons, List.append_assoc]
    rw [Text.replaceChar] at ih
    split
    · simp [marksFrom, markAt_nameQuote, ih]
    · next hc => simp [marksFrom, bne_iff_ne.2 hc, ih]

theorem marksFrom_quoteName (name : String) (rest : List Char) :
    marksFrom d false ((d.quoteName name).toList ++ rest) = marksFrom d false rest := by
  rw [Dialect.quoteName, String.toList_ofList, List.cons_append, marksFrom, markAt_nameQuote,
    beq_self_eq_true, List.append_assoc, marksFrom_inName, List.nil_append]
  simp [marksFrom]

theorem marksFrom_columnText (path : FieldPath) (rest : List Char) :
    marksFrom d false ((columnText d path).toList ++ rest) = marksFrom d false rest := by
  have hdot : IsQuiet ".".toList := by decide
  rw [columnText]
  split
  · rfl
  · split
    · exact marksFrom_quoteName _ rest
    · simp only [String.toList_append, List.append_assoc, marksFrom_quoteName, marksFrom_quiet hdot]

theorem isDigit_of_mem_toString {n : Nat} {c : Char} (h : c ∈ (toString n).toList) :
    c.isDigit = true := by
  have htext : (toString n).toList = Nat.toDigits 10 n := Nat.toList_repr
  rw [htext] at h
  exact Nat.isDigit_of_mem_toDigits (by decide) (by decide) h

theorem isQuiet_toString (n : Nat) : IsQuiet (toString n).toList := by
  intro c hc hsign
  have hdigit := isDigit_of_mem_toString hc
  simp only [List.mem_cons, List.not_mem_nil, or_false] at hsign
  rcases hsign with rfl | rfl | rfl | rfl <;> revert hdigit <;> decide

theorem takeWhile_isDigit_append {digits rest : List Char} (h : ∀ c ∈ digits, c.isDigit = true)
    (hrest : IsCalm rest) : (digits ++ rest).takeWhile Char.isDigit = digits := by
  rw [List.takeWhile_append_of_pos h]
  cases rest with
  | nil => simp
  | cons c rest => simp [hrest c rfl]

theorem marksFrom_placeholder (number : Nat) {rest : List Char} (h : IsCalm rest) :
    marksFrom d false ((d.placeholder number).toList ++ rest) =
      d.placeholder number :: marksFrom d false rest := by
  cases d with
  | mysql =>
    have htext : (Dialect.mysql.placeholder number).toList = ['?'] := by
      simp [Dialect.placeholder]
    rw [htext]
    rfl
  | postgres =>
    have htext : (Dialect.postgres.placeholder number).toList =
        '$' :: (toString number).toList := by
      simp [Dialect.placeholder]
    have hdigits := takeWhile_isDigit_append (fun c => isDigit_of_mem_toString (n := number)) h
    rw [htext, List.cons_append, marksFrom, Dialect.markAt, hdigits, ← htext, String.ofList_toList]
    show _ :: marksFrom _ false _ = _
    rw [marksFrom_quiet (isQuiet_toString number)]

/-! ## Marks of fragments -/

/-- The values that fragments bind. -/
def boundValues (fs : List Fragment) : List Literal := fs.filterMap Fragment.value?

/-- The marks are those of the bound values, in front of anything that begins with no digit. -/
def IsMarked (d : Dialect) (fs : List Fragment) : Prop :=
  ∀ next rest, IsCalm rest → marksFrom d false ((textFrom d next fs).toList ++ rest) =
    (List.range' next (boundValues fs).length).map d.placeholder ++ marksFrom d false rest

/-- In front of anything that begins with no digit, the text begins with none. -/
def StartsCalm (d : Dialect) (fs : List Fragment) : Prop :=
  ∀ next rest, IsCalm rest → IsCalm ((textFrom d next fs).toList ++ rest)

theorem textFrom_append (fs gs : List Fragment) : ∀ next, textFrom d next (fs ++ gs) =
    textFrom d next fs ++ textFrom d (next + (boundValues fs).length) gs := by
  induction fs with
  | nil => simp [textFrom, boundValues]
  | cons f fs ih =>
    intro next
    cases f with
    | bound v =>
      have hlen : (boundValues (.bound v :: fs)).length = (boundValues fs).length + 1 := rfl
      rw [List.cons_append, textFrom, textFrom, ih, hlen, String.append_assoc, Nat.add_assoc,
        Nat.add_comm 1]
    | _ =>
      rw [List.cons_append, textFrom, textFrom, ih, String.append_assoc]
      rfl

theorem boundValues_append (fs gs : List Fragment) :
    boundValues (fs ++ gs) = boundValues fs ++ boundValues gs :=
  List.filterMap_append ..

theorem isMarked_append {fs gs : List Fragment} (hfs : IsMarked d fs) (hgs : IsMarked d gs)
    (hcalm : StartsCalm d gs) : IsMarked d (fs ++ gs) := by
  intro next rest hrest
  rw [textFrom_append, String.toList_append, List.append_assoc, hfs _ _ (hcalm _ _ hrest),
    hgs _ _ hrest, boundValues_append, List.length_append, ← List.range'_append_1, List.map_append,
    List.append_assoc]

theorem isMarked_nil : IsMarked d [] := fun _ _ _ => rfl

theorem isMarked_fixed {text : String} {fs : List Fragment} (htext : IsQuiet text.toList)
    (hfs : IsMarked d fs) : IsMarked d (.fixed text :: fs) := by
  intro next rest hrest
  rw [textFrom, String.toList_append, List.append_assoc, marksFrom_quiet htext, hfs _ _ hrest]
  rfl

theorem isMarked_column (path : FieldPath) {fs : List Fragment} (hfs : IsMarked d fs) :
    IsMarked d (.column path :: fs) := by
  intro next rest hrest
  rw [textFrom, String.toList_append, List.append_assoc, marksFrom_columnText, hfs _ _ hrest]
  rfl

theorem isMarked_bound (value : Literal) {fs : List Fragment} (hfs : IsMarked d fs)
    (hcalm : StartsCalm d fs) : IsMarked d (.bound value :: fs) := by
  intro next rest hrest
  rw [textFrom, String.toList_append, List.append_assoc,
    marksFrom_placeholder _ (hcalm _ _ hrest), hfs _ _ hrest]
  rfl

theorem startsCalm_nil : StartsCalm d [] := fun _ _ h => h

theorem startsCalm_fixed {text : String} (fs : List Fragment) (hne : text.toList ≠ [])
    (htext : IsCalm text.toList) : StartsCalm d (.fixed text :: fs) := by
  intro next rest _
  obtain ⟨c, cs, hcs⟩ := List.exists_cons_of_ne_nil hne
  rw [textFrom, String.toList_append, hcs]
  rw [hcs] at htext
  exact htext

/-- Fragments with a fixed text between them that begins with no digit. -/
theorem isMarked_separated {separator : String} (hquiet : IsQuiet separator.toList)
    (hne : separator.toList ≠ []) (hcalm : IsCalm separator.toList) {rows : List (List Fragment)}
    (h : ∀ fs ∈ rows, IsMarked d fs) : IsMarked d (separated separator rows) := by
  induction rows with
  | nil => exact isMarked_nil
  | cons fs rows ih =>
    obtain ⟨hfs, hrows⟩ := List.forall_mem_cons.1 h
    cases rows with
    | nil => exact hfs
    | cons gs rows =>
      exact isMarked_append hfs (isMarked_fixed hquiet (ih hrows)) (startsCalm_fixed _ hne hcalm)

theorem isMarked_boundList (values : List Literal) : IsMarked d (boundList values) := by
  have hvalues : ∀ fs ∈ values.map fun v => [Fragment.bound v], IsMarked d fs := by
    intro fs hfs
    obtain ⟨v, -, rfl⟩ := List.mem_map.1 hfs
    exact isMarked_bound v isMarked_nil startsCalm_nil
  exact isMarked_append
    (isMarked_fixed (by decide) (isMarked_separated (by decide) (by decide) (by decide) hvalues))
    (isMarked_fixed (by decide) isMarked_nil) (startsCalm_fixed _ (by decide) (by decide))

theorem isMarked_test (t : ColumnTest) : IsMarked d (t.fragments d) := by
  have hlast (v : Literal) : IsMarked d [.bound v] := isMarked_bound v isMarked_nil startsCalm_nil
  have hescaped (v : Literal) : IsMarked d [.bound v, escapeClause] :=
    isMarked_bound v (isMarked_fixed (by decide) isMarked_nil)
      (startsCalm_fixed _ (by decide) (by decide))
  cases t with
  | constant truth => exact isMarked_fixed (by cases truth <;> decide) isMarked_nil
  | compare column op value =>
    exact isMarked_column column (isMarked_fixed (by cases op <;> decide) (hlast value))
  | among column values =>
    exact isMarked_column column (isMarked_fixed (by decide) (isMarked_boundList values))
  | notAmong column values =>
    exact isMarked_column column (isMarked_fixed (by decide) (isMarked_boundList values))
  | like column pattern =>
    exact isMarked_fixed (by decide) (isMarked_column column (isMarked_fixed (by decide)
      (hescaped (.string pattern))))
  | textLike column pattern =>
    exact isMarked_fixed (by decide) (isMarked_column column (isMarked_fixed
      (by cases d <;> decide) (hescaped (.string pattern))))
  | regex column pattern =>
    exact isMarked_column column (isMarked_fixed (by cases d <;> decide) (hlast (.string pattern)))
  | isNull column => exact isMarked_column column (isMarked_fixed (by decide) isMarked_nil)
  | isNotNull column => exact isMarked_column column (isMarked_fixed (by decide) isMarked_nil)
  | isEmpty column => exact isMarked_column column (isMarked_fixed (by decide) isMarked_nil)

/-! ## Marks of conditions -/

/-- The fragments of a row of tokens. -/
def rowFragments (d : Dialect) (ts : List ConditionToken) : List Fragment :=
  ts.flatMap (ConditionToken.fragments d)

theorem rowFragments_cons (t : ConditionToken) (ts : List ConditionToken) :
    rowFragments d (t :: ts) = t.fragments d ++ rowFragments d ts := rfl

theorem rowFragments_append (ts us : List ConditionToken) :
    rowFragments d (ts ++ us) = rowFragments d ts ++ rowFragments d us := List.flatMap_append

theorem rowFragments_parenthesized (ts : List ConditionToken) :
    rowFragments d (parenthesized ts) = .fixed "(" :: (rowFragments d ts ++ [.fixed ")"]) := by
  rw [parenthesized, List.cons_append, rowFragments_cons, rowFragments_append]
  rfl

theorem connected_cons_cons (word : ConditionToken) (ts us : List ConditionToken)
    (rows : List (List ConditionToken)) :
    connected word (ts :: us :: rows) = ts ++ word :: connected word (us :: rows) := rfl

theorem isMarked_connected {word : ConditionToken} (hword : word = .andWord ∨ word = .orWord)
    {rows : List (List ConditionToken)} (h : ∀ ts ∈ rows, IsMarked d (rowFragments d ts)) :
    IsMarked d (rowFragments d (connected word rows)) := by
  induction rows with
  | nil => exact isMarked_nil
  | cons ts rows ih =>
    obtain ⟨hts, hrows⟩ := List.forall_mem_cons.1 h
    cases rows with
    | nil => exact hts
    | cons us rows =>
      rw [connected_cons_cons, rowFragments_append, rowFragments_cons]
      rcases hword with rfl | rfl
      · exact isMarked_append hts (isMarked_fixed (by decide) (ih hrows))
          (startsCalm_fixed _ (by decide) (by decide))
      · exact isMarked_append hts (isMarked_fixed (by decide) (ih hrows))
          (startsCalm_fixed _ (by decide) (by decide))

theorem isMarked_parenthesized {ts : List ConditionToken} (h : IsMarked d (rowFragments d ts)) :
    IsMarked d (rowFragments d (parenthesized ts)) := by
  rw [rowFragments_parenthesized]
  exact isMarked_fixed (by decide) (isMarked_append h (isMarked_fixed (by decide) isMarked_nil)
    (startsCalm_fixed _ (by decide) (by decide)))

/-- Between any two tests of a condition stands a word or a parenthesis. -/
theorem isMarked_conditionTokens (p : Predicate) (scope : FieldPath) :
    IsMarked d (rowFragments d (conditionTokens scope p)) := by
  have hsingle (t : ColumnTest) : IsMarked d (rowFragments d [.test t]) := by
    rw [rowFragments, List.flatMap_singleton]
    exact isMarked_test t
  induction p using Predicate.connectiveInduction generalizing scope with
  | always => exact hsingle _
  | never => exact hsingle _
  | test p ht =>
    obtain ⟨t, htokens, -, -⟩ := conditionTokens_of_isTest ht scope
    rw [htokens]
    exact hsingle t
  | nested field p ih => exact ih (scope ++ field)
  | not p ih =>
    rw [conditionTokens, rowFragments_cons]
    exact isMarked_fixed (by decide) (isMarked_parenthesized (ih scope))
  | and parts ih =>
    rw [conditionTokens]
    refine isMarked_connected (.inl rfl) fun ts hts => ?_
    rw [conjunctTokens_eq_map] at hts
    obtain ⟨p, hp, rfl⟩ := List.mem_map.1 hts
    split
    · exact isMarked_parenthesized (ih p hp scope)
    · exact ih p hp scope
  | or parts ih =>
    rw [conditionTokens]
    refine isMarked_connected (.inr rfl) fun ts hts => ?_
    rw [disjunctTokens_eq_map] at hts
    obtain ⟨p, hp, rfl⟩ := List.mem_map.1 hts
    exact isMarked_parenthesized (ih p hp scope)

theorem isMarked_conditionFragments (p : Predicate) : IsMarked d (conditionFragments d p) :=
  isMarked_conditionTokens p []

theorem isMarked_orderClause (sort : List SortKey) : IsMarked d (Table.orderClause sort) := by
  have hkeys : ∀ fs ∈ sort.map Table.orderFragments, IsMarked d fs := by
    intro fs hfs
    obtain ⟨⟨field, direction⟩, -, rfl⟩ := List.mem_map.1 hfs
    refine isMarked_column field (isMarked_fixed ?_ isMarked_nil)
    cases direction with
    | asc => exact (by decide : IsQuiet " ASC".toList)
    | desc => exact (by decide : IsQuiet " DESC".toList)
  rw [Table.orderClause]
  split
  · exact isMarked_nil
  · exact isMarked_fixed (by decide) (isMarked_separated (by decide) (by decide) (by decide) hkeys)

/-- Marked fragments alone have the marks of their values. -/
theorem marks_textFrom {fs : List Fragment} (h : IsMarked d fs) (next : Nat) :
    marks d (textFrom d next fs) =
      (List.range' next (boundValues fs).length).map d.placeholder := by
  have hend : IsCalm [] := by decide
  have hall := h next [] hend
  rw [List.append_nil] at hall
  rw [marks, hall]
  simp [marksFrom]

end ListingQuery.Sql
