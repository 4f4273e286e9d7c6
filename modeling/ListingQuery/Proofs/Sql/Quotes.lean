import ListingQuery.Proofs.Sql.References

/-!
# What stands between quotes

A statement is read character by character under the rules of its dialect.  Names and texts stand
between quotes, and a quote inside is written twice.  In MySQL a backslash in a text goes with the
character behind it; in PostgreSQL it is a character like any other.  Outside quotes there are words,
a few signs and the marks of bound values, and nothing else: no comment begins there, and no text
right behind a word, which would be its prefix.

Fragments are read as what they put between quotes, in front of any text that begins with a sign.
Only the end of a like test is not, in MySQL: there the text that names the escaping sign goes on
behind the quote that is meant to end it.

    quotes are read as they are meant ↔ PostgreSQL, or no like test           (statement_quotes_iff)
-/

namespace ListingQuery.Sql

/-- What stands between quotes: a name, or a text. -/
inductive Quoted where
  | name (text : String)
  | text (text : String)
  deriving DecidableEq, Repr

/-! ## Reading quotes -/

/-- Where a reader stands in a text; what it has seen of the current part is kept backwards. -/
inductive ReaderState where
  | plain (afterWord : Bool)
  /-- Behind a dollar sign. -/
  | dollar
  | inside (quote : Char) (seen : List Char)
  /-- Behind a backslash. -/
  | escaped (quote : Char) (seen : List Char)
  /-- Behind a quote, which ends the part unless another one follows. -/
  | closing (quote : Char) (seen : List Char)

/-- Whether the character is part of a word or a number. -/
def isWordChar (c : Char) : Bool := c.isAlphanum || c == '_'

/-- The signs that stand outside quotes. -/
def isSign (c : Char) : Bool := [' ', '(', ')', '*', ',', '.', '=', '<', '>', '~'].contains c

/-- What a character stands for behind a backslash, in MySQL. -/
def unescaped : Char → List Char
  | '0' => ['\x00']
  | 'b' => ['\x08']
  | 'n' => ['\n']
  | 'r' => ['\r']
  | 't' => ['\t']
  | 'Z' => ['\x1a']
  | '%' => ['\\', '%']
  | '_' => ['\\', '_']
  | c => [c]

namespace Dialect

/-- Whether the character is a quote around texts. -/
def isTextQuote : Dialect → Char → Bool
  | postgres, c => c == '\''
  | mysql, c => c == '\'' || c == '"'

/-- Whether the character escapes the next one, between these quotes. -/
def escapes : Dialect → (quote : Char) → Char → Bool
  | postgres, _, _ => false
  | mysql, quote, c => quote != mysql.nameQuote && c == '\\'

/-- The part between these quotes. -/
def quoted (d : Dialect) (quote : Char) (seen : List Char) : Quoted :=
  if quote = d.nameQuote then .name (String.ofList seen.reverse)
  else .text (String.ofList seen.reverse)

/-- What the sign that a mark begins with leads to. -/
def enterMark? : Dialect → (afterWord : Bool) → Char → Option ReaderState
  | postgres, afterWord, c => if c = '$' ∧ afterWord = false then some .dollar else none
  | mysql, _, c => if c = '?' then some (.plain false) else none

/-- What a character outside quotes leads to.  No text begins right behind a word. -/
def enter? (d : Dialect) (afterWord : Bool) (c : Char) : Option ReaderState :=
  if c = d.nameQuote then some (.inside c [])
  else if d.isTextQuote c then if afterWord then none else some (.inside c [])
  else if isWordChar c then some (.plain true)
  else if isSign c then some (.plain false)
  else d.enterMark? afterWord c

end Dialect

/-- What stands between quotes in the rest of a text; `none` if a quote is not closed, or something
else stands outside quotes. -/
def quotedFrom (d : Dialect) : ReaderState → List Char → Option (List Quoted)
  | .plain _, [] => some []
  | .closing quote seen, [] => some [d.quoted quote seen]
  | .dollar, [] => none
  | .inside _ _, [] => none
  | .escaped _ _, [] => none
  | .plain afterWord, c :: cs => (d.enter? afterWord c).bind fun state => quotedFrom d state cs
  | .dollar, c :: cs => if c.isDigit then quotedFrom d (.plain true) cs else none
  | .inside quote seen, c :: cs =>
    if c = quote then quotedFrom d (.closing quote seen) cs
    else if d.escapes quote c then quotedFrom d (.escaped quote seen) cs
    else quotedFrom d (.inside quote (c :: seen)) cs
  | .escaped quote seen, c :: cs =>
    quotedFrom d (.inside quote ((unescaped c).reverse ++ seen)) cs
  | .closing quote seen, c :: cs =>
    if c = quote then quotedFrom d (.inside quote (c :: seen)) cs
    else (d.enter? false c).bind fun state =>
      (quotedFrom d state cs).map (d.quoted quote seen :: ·)

/-- What stands between quotes in a text. -/
def quotedParts (d : Dialect) (text : String) : Option (List Quoted) :=
  quotedFrom d (.plain false) text.toList

/-- A text with words and signs only. -/
def IsPlain (cs : List Char) : Prop := ∀ c ∈ cs, isWordChar c = true ∨ isSign c = true

/-- Whether a text ends in a word. -/
def endsInWord : (afterWord : Bool) → List Char → Bool
  | afterWord, [] => afterWord
  | _, c :: cs => endsInWord (isWordChar c) cs

/-- The text begins with a sign, if it does not end here. -/
def IsClear (cs : List Char) : Prop := ∀ c ∈ cs.head?, isSign c = true

instance (cs : List Char) : Decidable (IsPlain cs) := List.decidableBAll _ cs

variable {d : Dialect}

theorem isClear_nil : IsClear [] := fun _ h => by cases h

/-- A sign leads out of a word, and is no quote. -/
theorem enter?_of_isSign {c : Char} (h : isSign c = true) (afterWord : Bool) :
    d.enter? afterWord c = some (.plain false) := by
  simp only [isSign, List.contains_iff_mem, List.mem_cons, List.not_mem_nil, or_false] at h
  rcases h with rfl | rfl | rfl | rfl | rfl | rfl | rfl | rfl | rfl | rfl <;> cases d <;> rfl

theorem enter?_of_isWordChar {c : Char} (h : isWordChar c = true) (afterWord : Bool) :
    d.enter? afterWord c = some (.plain true) := by
  have hne (quote : Char) (hquote : isWordChar quote = false) : c ≠ quote := by
    rintro rfl
    cases h.symm.trans hquote
  have hname : c ≠ d.nameQuote := hne _ (by cases d <;> decide)
  have htext : d.isTextQuote c = false := by
    have hsingle := hne '\'' (by decide)
    have hdouble := hne '"' (by decide)
    cases d <;> simp [Dialect.isTextQuote, hsingle, hdouble]
  rw [Dialect.enter?, if_neg hname, htext, if_neg Bool.false_ne_true, if_pos h]

theorem isWordChar_of_isSign {c : Char} (h : isSign c = true) : isWordChar c = false := by
  have hstate : some (ReaderState.plain false) = Dialect.postgres.enter? false c :=
    (enter?_of_isSign h false).symm
  cases hword : isWordChar c with
  | false => rfl
  | true =>
    rw [enter?_of_isWordChar hword] at hstate
    cases hstate

theorem quotedFrom_of_isClear {rest : List Char} (h : IsClear rest) (afterWord : Bool) :
    quotedFrom d (.plain afterWord) rest = quotedFrom d (.plain false) rest := by
  cases rest with
  | nil => rfl
  | cons c cs => rw [quotedFrom, quotedFrom, enter?_of_isSign (h c rfl), enter?_of_isSign (h c rfl)]

/-- A quote in front of a sign ends its part. -/
theorem quotedFrom_closing {rest : List Char} (h : IsClear rest) {quote : Char}
    (hquote : isSign quote = false) (seen : List Char) : quotedFrom d (.closing quote seen) rest =
      (quotedFrom d (.plain false) rest).map (d.quoted quote seen :: ·) := by
  cases rest with
  | nil => rfl
  | cons c cs =>
    have hne : c ≠ quote := by
      rintro rfl
      cases (h c rfl).symm.trans hquote
    rw [quotedFrom, quotedFrom, if_neg hne, enter?_of_isSign (h c rfl)]
    rfl

theorem quotedFrom_of_isPlain {cs : List Char} (h : IsPlain cs) (rest : List Char) :
    ∀ afterWord, quotedFrom d (.plain afterWord) (cs ++ rest) =
      quotedFrom d (.plain (endsInWord afterWord cs)) rest := by
  induction cs with
  | nil => exact fun _ => rfl
  | cons c cs ih =>
    obtain ⟨hc, hcs⟩ := List.forall_mem_cons.1 h
    intro afterWord
    have henter : d.enter? afterWord c = some (.plain (isWordChar c)) := by
      rcases hc with hword | hsign
      · rw [enter?_of_isWordChar hword, hword]
      · rw [enter?_of_isSign hsign, isWordChar_of_isSign hsign]
    rw [List.cons_append, quotedFrom, henter, Option.bind_some, ih hcs, endsInWord]

/-- A name goes on over quotes that are written twice. -/
theorem quotedFrom_inName (name rest : List Char) : ∀ seen,
    quotedFrom d (.inside d.nameQuote seen)
      (Text.replaceChar d.nameQuote [d.nameQuote, d.nameQuote] name ++ d.nameQuote :: rest) =
        quotedFrom d (.closing d.nameQuote (name.reverse ++ seen)) rest := by
  have hescapes (c : Char) : d.escapes d.nameQuote c = false := by
    cases d <;> simp [Dialect.escapes]
  induction name with
  | nil =>
    intro seen
    rw [Text.replaceChar, List.flatMap_nil, List.nil_append, quotedFrom, if_pos rfl]
    rfl
  | cons c name ih =>
    intro seen
    have hseen : (c :: name).reverse ++ seen = name.reverse ++ (c :: seen) := by simp
    rw [Text.replaceChar] at ih
    rw [Text.replaceChar, List.flatMap_cons, List.append_assoc, hseen, ← ih]
    split
    · next hc =>
      subst hc
      simp [quotedFrom]
    · next hc => simp [quotedFrom, hc, hescapes]

theorem quotedFrom_quoteName (name : String) {rest : List Char} (h : IsClear rest)
    (afterWord : Bool) : quotedFrom d (.plain afterWord) ((d.quoteName name).toList ++ rest) =
      (quotedFrom d (.plain false) rest).map (.name name :: ·) := by
  have henter : d.enter? afterWord d.nameQuote = some (.inside d.nameQuote []) := by
    rw [Dialect.enter?, if_pos rfl]
  have hpart : d.quoted d.nameQuote (name.toList.reverse ++ []) = .name name := by
    simp [Dialect.quoted]
  rw [toList_quoteName, List.cons_append, List.append_assoc, List.singleton_append, quotedFrom,
    henter, Option.bind_some, quotedFrom_inName, quotedFrom_closing h (by cases d <;> decide), hpart]

/-- The names that a column is written with: that of its join, if it has one, and its own. -/
def columnParts (path : FieldPath) : List Quoted :=
  match path.getLast? with
  | none => []
  | some name =>
    if (recordPath path).isEmpty then [.name name]
    else [.name (aliasName (recordPath path)), .name name]

theorem quotedFrom_columnText (path : FieldPath) {rest : List Char} (h : IsClear rest) :
    quotedFrom d (.plain false) ((columnText d path).toList ++ rest) =
      (quotedFrom d (.plain false) rest).map (columnParts path ++ ·) := by
  rcases List.eq_nil_or_concat' path with rfl | ⟨record, name, rfl⟩
  · exact Option.map_id_apply.symm
  · by_cases hrecord : record = []
    · subst hrecord
      exact quotedFrom_quoteName name h false
    · have hparts : columnParts (record ++ [name]) = [.name (aliasName record), .name name] := by
        simp [columnParts, recordPath, hrecord]
      have hdot : IsClear ('.' :: ((d.quoteName name).toList ++ rest)) := by
        rintro c ⟨⟩
        decide
      rw [toList_columnText_concat hrecord, List.append_assoc, List.cons_append,
        quotedFrom_quoteName _ hdot, quotedFrom, enter?_of_isSign (by decide), Option.bind_some,
        quotedFrom_quoteName name h, Option.map_map, hparts]
      rfl

theorem isPlain_append {cs ds : List Char} (hcs : IsPlain cs) (hds : IsPlain ds) :
    IsPlain (cs ++ ds) :=
  List.forall_mem_append.2 ⟨hcs, hds⟩

theorem isPlain_digits {digits : List Char} (h : ∀ c ∈ digits, c.isDigit = true) :
    IsPlain digits := fun c hc =>
  .inl (by simp [isWordChar, Char.isAlphanum, h c hc])

theorem isPlain_toString (n : Nat) : IsPlain (toString n).toList :=
  isPlain_digits fun _ => isDigit_of_mem_toString

theorem quotedFrom_placeholder (number : Nat) {rest : List Char} (h : IsClear rest) :
    quotedFrom d (.plain false) ((d.placeholder number).toList ++ rest) =
      quotedFrom d (.plain false) rest := by
  cases d with
  | mysql =>
    have htext : (Dialect.mysql.placeholder number).toList = ['?'] := by
      simp [Dialect.placeholder]
    rw [htext]
    rfl
  | postgres =>
    have htext : (Dialect.postgres.placeholder number).toList =
        '$' :: (toString number).toList := by
      simp [Dialect.placeholder]
    have hdigits : ∀ c ∈ (toString number).toList, c.isDigit = true :=
      fun c => isDigit_of_mem_toString
    obtain ⟨c, cs, hnumber⟩ :=
      List.exists_cons_of_ne_nil (by simp : (toString number).toList ≠ [])
    rw [hnumber, List.forall_mem_cons] at hdigits
    rw [htext, hnumber]
    show quotedFrom _ .dollar (c :: (cs ++ rest)) = _
    rw [quotedFrom, if_pos hdigits.1, quotedFrom_of_isPlain (isPlain_digits hdigits.2),
      quotedFrom_of_isClear h]

/-! ## Reading fragments -/

/-- In front of anything that begins with a sign, the fragments are read as these parts. -/
def Reads (d : Dialect) (fs : List Fragment) (parts : List Quoted) : Prop :=
  ∀ next rest, IsClear rest →
    quotedFrom d (.plain false) ((textFrom d next fs).toList ++ rest) =
      (quotedFrom d (.plain false) rest).map (parts ++ ·)

/-- Some text among the parts begins with a quote, as no text of a statement is meant to. -/
def HasStrayText (parts : List Quoted) : Prop :=
  ∃ text, .text text ∈ parts ∧ text.toList.head? = some '\''

/-- Whatever is read of the fragments has a stray text. -/
def ReadsAstray (d : Dialect) (fs : List Fragment) : Prop :=
  ∀ next rest found, IsClear rest →
    quotedFrom d (.plain false) ((textFrom d next fs).toList ++ rest) = some found →
      HasStrayText found

/-- The dialect does not read these parts as they are meant: one is a backslash, which goes with the
quote behind it. -/
def IsMisread (d : Dialect) (parts : List Quoted) : Prop := d = .mysql ∧ .text "\\" ∈ parts

/-- The fragments are read as these parts, or astray where the dialect misreads one of them. -/
structure AreRead (d : Dialect) (fs : List Fragment) (parts : List Quoted) : Prop where
  reads : ¬ IsMisread d parts → Reads d fs parts
  astray : IsMisread d parts → ReadsAstray d fs

/-- In front of anything that begins with a sign, the text begins with one. -/
def StartsClear (d : Dialect) (fs : List Fragment) : Prop :=
  ∀ next rest, IsClear rest → IsClear ((textFrom d next fs).toList ++ rest)

theorem isMisread_append {ps qs : List Quoted} :
    IsMisread d (ps ++ qs) ↔ IsMisread d ps ∨ IsMisread d qs := by
  rw [IsMisread, IsMisread, IsMisread, List.mem_append, and_or_left]

theorem areRead_append {fs gs : List Fragment} {ps qs : List Quoted} (hfs : AreRead d fs ps)
    (hgs : AreRead d gs qs) (hclear : StartsClear d gs) : AreRead d (fs ++ gs) (ps ++ qs) := by
  constructor
  · intro hread next rest hrest
    rw [isMisread_append, not_or] at hread
    rw [textFrom_append, String.toList_append, List.append_assoc,
      hfs.reads hread.1 _ _ (hclear _ _ hrest), hgs.reads hread.2 _ _ hrest, Option.map_map]
    exact congrArg (Option.map · _) (funext fun found => (List.append_assoc ..).symm)
  · intro hmisread next rest found hrest hfound
    rw [textFrom_append, String.toList_append, List.append_assoc] at hfound
    by_cases hps : IsMisread d ps
    · exact hfs.astray hps _ _ found (hclear _ _ hrest) hfound
    · have hqs : IsMisread d qs := (isMisread_append.1 hmisread).resolve_left hps
      rw [hfs.reads hps _ _ (hclear _ _ hrest), Option.map_eq_some_iff] at hfound
      obtain ⟨found, hfound, rfl⟩ := hfound
      obtain ⟨text, htext, hstray⟩ := hgs.astray hqs _ _ found hrest hfound
      exact ⟨text, List.mem_append_right ps htext, hstray⟩

/-- Fragments without a backslash between quotes are read alike in both dialects. -/
theorem areRead_of_reads {fs : List Fragment} {parts : List Quoted}
    (hparts : .text "\\" ∉ parts) (h : Reads d fs parts) : AreRead d fs parts :=
  ⟨fun _ => h, fun hmisread => absurd hmisread.2 hparts⟩

theorem areRead_nil : AreRead d [] [] :=
  areRead_of_reads List.not_mem_nil fun _ _ _ => Option.map_id_apply.symm

/-- A fixed text that ends in a sign stands in front of anything. -/
theorem areRead_fixed_cons {text : String} (hplain : IsPlain text.toList)
    (hend : endsInWord false text.toList = false) {fs : List Fragment} {parts : List Quoted}
    (hfs : AreRead d fs parts) : AreRead d (.fixed text :: fs) parts := by
  have htext (next : Nat) (rest : List Char) :
      quotedFrom d (.plain false) ((textFrom d next (.fixed text :: fs)).toList ++ rest) =
        quotedFrom d (.plain false) ((textFrom d next fs).toList ++ rest) := by
    rw [textFrom, String.toList_append, List.append_assoc, quotedFrom_of_isPlain hplain, hend]
  constructor
  · intro hread next rest hrest
    rw [htext, hfs.reads hread _ _ hrest]
  · intro hmisread next rest found hrest hfound
    rw [htext] at hfound
    exact hfs.astray hmisread _ _ found hrest hfound

theorem areRead_fixed {text : String} (hplain : IsPlain text.toList) :
    AreRead d [.fixed text] [] := by
  refine areRead_of_reads List.not_mem_nil fun next rest hrest => ?_
  rw [textFrom, textFrom, String.append_empty, quotedFrom_of_isPlain hplain,
    quotedFrom_of_isClear hrest]
  exact Option.map_id_apply.symm

theorem areRead_bound (value : Literal) : AreRead d [.bound value] [] := by
  refine areRead_of_reads List.not_mem_nil fun next rest hrest => ?_
  rw [textFrom, textFrom, String.append_empty, quotedFrom_placeholder next hrest]
  exact Option.map_id_apply.symm

theorem areRead_name (name : String) : AreRead d [.name name] [.name name] := by
  refine areRead_of_reads (by simp) fun next rest hrest => ?_
  rw [textFrom, textFrom, String.append_empty, quotedFrom_quoteName name hrest]
  rfl

theorem text_not_mem_columnParts (text : String) (path : FieldPath) :
    .text text ∉ columnParts path := by
  rw [columnParts]
  split
  · simp
  · split <;> simp

theorem areRead_column (path : FieldPath) : AreRead d [.column path] (columnParts path) := by
  refine areRead_of_reads (text_not_mem_columnParts _ path) fun next rest hrest => ?_
  rw [textFrom, textFrom, String.append_empty, quotedFrom_columnText path hrest]

theorem startsClear_fixed {text : String} (fs : List Fragment)
    (h : text.toList.head?.any isSign = true) : StartsClear d (.fixed text :: fs) := by
  intro next rest _
  rw [textFrom, String.toList_append, List.append_assoc]
  cases htext : text.toList with
  | nil =>
    rw [htext] at h
    cases h
  | cons c cs =>
    rw [htext] at h
    rintro _ ⟨⟩
    exact h

theorem startsClear_nil : StartsClear d [] := fun _ _ h => h

/-! ## Texts between quotes -/

/-- The empty text, behind an equals sign. -/
theorem areRead_emptyText : AreRead d [.fixed " = ''"] [.text ""] := by
  refine areRead_of_reads (by decide) fun next rest hrest => ?_
  have hchars : " = ''".toList = " = ".toList ++ ['\'', '\''] := by decide
  have henter : d.enter? false '\'' = some (.inside '\'' []) := by cases d <;> rfl
  have hpart : d.quoted '\'' [] = .text "" := by cases d <;> rfl
  rw [textFrom, textFrom, String.append_empty, hchars, List.append_assoc,
    quotedFrom_of_isPlain (by decide), List.cons_append]
  show quotedFrom d (.plain false) _ = _
  rw [quotedFrom, henter, Option.bind_some, List.cons_append, quotedFrom, if_pos rfl,
    List.nil_append, quotedFrom_closing hrest (by decide), hpart]
  rfl

/-- The first part that is found goes on from what has been seen of it. -/
def GoesOn (d : Dialect) (quote : Char) (seen : List Char) (found : List Quoted) : Prop :=
  ∃ more others, found = d.quoted quote (more ++ seen) :: others

theorem GoesOn.of_append {quote : Char} {new seen : List Char} {found : List Quoted}
    (h : GoesOn d quote (new ++ seen) found) : GoesOn d quote seen found := by
  obtain ⟨more, others, rfl⟩ := h
  exact ⟨more ++ new, others, by rw [List.append_assoc]⟩

theorem goesOn_of_quotedFrom {quote : Char} {cs : List Char} : ∀ {seen : List Char}
    {found : List Quoted}, quotedFrom d (.inside quote seen) cs = some found ∨
      quotedFrom d (.escaped quote seen) cs = some found ∨
      quotedFrom d (.closing quote seen) cs = some found → GoesOn d quote seen found := by
  induction cs with
  | nil =>
    rintro seen found (h | h | h)
    · cases h
    · cases h
    · cases h
      exact ⟨[], [], rfl⟩
  | cons c cs ih =>
    rintro seen found (h | h | h)
    · rw [quotedFrom] at h
      split at h
      · exact ih (.inr (.inr h))
      · split at h
        · exact ih (.inr (.inl h))
        · have hgoes : GoesOn d quote ([c] ++ seen) found := ih (.inl h)
          exact hgoes.of_append
    · exact (ih (.inl h)).of_append
    · rw [quotedFrom] at h
      split at h
      · have hgoes : GoesOn d quote ([c] ++ seen) found := ih (.inl h)
        exact hgoes.of_append
      · obtain ⟨state, -, h⟩ := Option.bind_eq_some_iff.1 h
        obtain ⟨others, -, rfl⟩ := Option.map_eq_some_iff.1 h
        exact ⟨[], others, rfl⟩

/-- The backslash is a text of its own in PostgreSQL.  In MySQL it goes with the quote behind it, so
the text does not end there. -/
theorem areRead_escapeClause : AreRead d [escapeClause] [.text "\\"] := by
  have hchars : " ESCAPE '\\'".toList = " ESCAPE ".toList ++ ['\'', '\\', '\''] := by decide
  have htext (next : Nat) (rest : List Char) :
      quotedFrom d (.plain false) ((textFrom d next [escapeClause]).toList ++ rest) =
        quotedFrom d (.inside '\'' []) ('\\' :: '\'' :: rest) := by
    have henter : d.enter? false '\'' = some (.inside '\'' []) := by cases d <;> rfl
    rw [escapeClause, textFrom, textFrom, String.append_empty, hchars, List.append_assoc,
      quotedFrom_of_isPlain (by decide), List.cons_append]
    show quotedFrom d (.plain false) _ = _
    rw [quotedFrom, henter, Option.bind_some]
    rfl
  cases d with
  | postgres =>
    refine ⟨fun _ next rest hrest => ?_, fun hmisread => by cases hmisread.1⟩
    have hpart : Dialect.postgres.quoted '\'' ['\\'] = .text "\\" := by rfl
    rw [htext]
    show quotedFrom .postgres (.closing '\'' ['\\']) rest = _
    rw [quotedFrom_closing hrest (by decide), hpart]
    rfl
  | mysql =>
    refine ⟨fun hread => absurd ⟨rfl, List.mem_singleton_self _⟩ hread, ?_⟩
    intro _ next rest found _ hfound
    rw [htext] at hfound
    have hinside : quotedFrom .mysql (.inside '\'' ['\'']) rest = some found := hfound
    obtain ⟨more, others, rfl⟩ := goesOn_of_quotedFrom (.inl hinside)
    refine ⟨String.ofList (more ++ ['\'']).reverse, List.mem_cons_self, ?_⟩
    rw [String.toList_ofList, List.reverse_append]
    rfl

/-! ## Tests -/

/-- What a test puts between quotes: the names of its column, and its text. -/
def ColumnTest.quotedParts : ColumnTest → List Quoted
  | constant _ => []
  | compare column _ _ => columnParts column
  | among column _ => columnParts column
  | notAmong column _ => columnParts column
  | like column _ => columnParts column ++ [.text "\\"]
  | textLike column _ => columnParts column ++ [.text "\\"]
  | regex column _ => columnParts column
  | isNull column => columnParts column
  | isNotNull column => columnParts column
  | isEmpty column => columnParts column ++ [.text ""]

section Rows

variable {α : Type} {parts : α → List Quoted}

/-- Rows with a fixed text between them that begins and ends in a sign. -/
theorem areRead_separated {separator : String} (hplain : IsPlain separator.toList)
    (hend : endsInWord false separator.toList = false)
    (hstart : separator.toList.head?.any isSign = true) {row : α → List Fragment} {xs : List α}
    (h : ∀ x ∈ xs, AreRead d (row x) (parts x)) :
    AreRead d (separated separator (xs.map row)) (xs.flatMap parts) := by
  induction xs with
  | nil => exact areRead_nil
  | cons x xs ih =>
    obtain ⟨hx, hxs⟩ := List.forall_mem_cons.1 h
    cases xs with
    | nil => simpa [separated] using hx
    | cons y xs =>
      exact areRead_append hx (areRead_fixed_cons hplain hend (ih hxs))
        (startsClear_fixed _ hstart)

/-- Rows with a word between them. -/
theorem areRead_connected {word : ConditionToken} (hword : word = .andWord ∨ word = .orWord)
    {row : α → List ConditionToken} {xs : List α}
    (h : ∀ x ∈ xs, AreRead d (rowFragments d (row x)) (parts x)) :
    AreRead d (rowFragments d (connected word (xs.map row))) (xs.flatMap parts) := by
  induction xs with
  | nil => exact areRead_nil
  | cons x xs ih =>
    obtain ⟨hx, hxs⟩ := List.forall_mem_cons.1 h
    cases xs with
    | nil => simpa [connected] using hx
    | cons y xs =>
      rw [List.map_cons, List.map_cons, connected_cons_cons, rowFragments_append,
        rowFragments_cons, List.flatMap_cons]
      rcases hword with rfl | rfl
      · exact areRead_append hx (areRead_fixed_cons (by decide) (by decide) (ih hxs))
          (startsClear_fixed _ (by decide))
      · exact areRead_append hx (areRead_fixed_cons (by decide) (by decide) (ih hxs))
          (startsClear_fixed _ (by decide))

end Rows

theorem areRead_parenthesized {ts : List ConditionToken} {parts : List Quoted}
    (h : AreRead d (rowFragments d ts) parts) :
    AreRead d (rowFragments d (parenthesized ts)) parts := by
  have hclosing : AreRead d [.fixed ")"] [] := areRead_fixed (by decide)
  rw [rowFragments_parenthesized, ← List.append_nil parts]
  exact areRead_fixed_cons (by decide) (by decide)
    (areRead_append h hclosing (startsClear_fixed _ (by decide)))

theorem areRead_boundList (values : List Literal) : AreRead d (boundList values) [] := by
  have hvalues : AreRead d (separated ", " (values.map fun v => [.bound v]))
      (values.flatMap fun _ => []) :=
    areRead_separated (by decide) (by decide) (by decide) fun v _ => areRead_bound v
  rw [List.flatMap_eq_nil_iff.2 fun _ _ => rfl] at hvalues
  have hclosing : AreRead d [.fixed ")"] [] := areRead_fixed (by decide)
  exact areRead_fixed_cons (by decide) (by decide)
    (areRead_append hvalues hclosing (startsClear_fixed _ (by decide)))

/-- A column, and what is tested of it. -/
theorem areRead_column_cons (column : FieldPath) {text : String} {fs : List Fragment}
    (hstart : text.toList.head?.any isSign = true) (h : AreRead d (.fixed text :: fs) []) :
    AreRead d (.column column :: .fixed text :: fs) (columnParts column) := by
  rw [← List.append_nil (columnParts column)]
  exact areRead_append (areRead_column column) h (startsClear_fixed fs hstart)

theorem areRead_bound_escapeClause (pattern : Literal) :
    AreRead d [.bound pattern, escapeClause] [.text "\\"] :=
  areRead_append (areRead_bound pattern) areRead_escapeClause (startsClear_fixed _ (by decide))

theorem areRead_test (t : ColumnTest) : AreRead d (t.fragments d) t.quotedParts := by
  cases t with
  | constant truth => exact areRead_fixed (by cases truth <;> decide)
  | compare column op value =>
    exact areRead_column_cons column (by cases op <;> decide)
      (areRead_fixed_cons (by cases op <;> decide) (by cases op <;> decide) (areRead_bound value))
  | among column values =>
    exact areRead_column_cons column (by decide)
      (areRead_fixed_cons (by decide) (by decide) (areRead_boundList values))
  | notAmong column values =>
    exact areRead_column_cons column (by decide)
      (areRead_fixed_cons (by decide) (by decide) (areRead_boundList values))
  | like column pattern =>
    exact areRead_fixed_cons (by decide) (by decide) (areRead_append (areRead_column column)
      (areRead_fixed_cons (by decide) (by decide) (areRead_bound_escapeClause _))
      (startsClear_fixed _ (by decide)))
  | textLike column pattern =>
    exact areRead_fixed_cons (by decide) (by decide) (areRead_append (areRead_column column)
      (areRead_fixed_cons (by cases d <;> decide) (by cases d <;> decide)
        (areRead_bound_escapeClause _)) (startsClear_fixed _ (by cases d <;> decide)))
  | regex column pattern =>
    exact areRead_column_cons column (by cases d <;> decide)
      (areRead_fixed_cons (by cases d <;> decide) (by cases d <;> decide) (areRead_bound _))
  | isNull column => exact areRead_column_cons column (by decide) (areRead_fixed (by decide))
  | isNotNull column => exact areRead_column_cons column (by decide) (areRead_fixed (by decide))
  | isEmpty column =>
    exact areRead_append (areRead_column column) areRead_emptyText
      (startsClear_fixed _ (by decide))

/-! ## Conditions -/

mutual

/-- What the condition for a predicate puts between quotes, from the left: the names of each column,
and the texts of the tests that have one. -/
def conditionParts (scope : FieldPath) : Predicate → List Quoted
  | .always => []
  | .never => []
  | .compare field _ _ => columnParts (scope ++ field)
  | .among field _ => columnParts (scope ++ field)
  | .notAmong field _ => columnParts (scope ++ field)
  | .like field _ => columnParts (scope ++ field) ++ [.text "\\"]
  | .regex field _ => columnParts (scope ++ field)
  | .contains field _ => columnParts (scope ++ field) ++ [.text "\\"]
  | .present field _ => columnParts (scope ++ field)
  | .isNull field => columnParts (scope ++ field)
  | .isEmpty field => columnParts (scope ++ field) ++ [.text ""]
  | .nested field p => conditionParts (scope ++ field) p
  | .not p => conditionParts scope p
  | .and parts => conditionPartsOf scope parts
  | .or parts => conditionPartsOf scope parts
  termination_by structural p => p

/-- What the conditions for predicates put between quotes. -/
def conditionPartsOf (scope : FieldPath) : List Predicate → List Quoted
  | [] => []
  | p :: ps => conditionParts scope p ++ conditionPartsOf scope ps
  termination_by structural ps => ps

end

theorem conditionPartsOf_eq_flatMap (scope : FieldPath) (ps : List Predicate) :
    conditionPartsOf scope ps = ps.flatMap (conditionParts scope) := by
  induction ps with
  | nil => rfl
  | cons p ps ih => rw [conditionPartsOf, ih, List.flatMap_cons]

/-- Between any two tests of a condition stands a word or a parenthesis. -/
theorem areRead_conditionTokens (p : Predicate) (scope : FieldPath) :
    AreRead d (rowFragments d (conditionTokens scope p)) (conditionParts scope p) := by
  have hsingle (t : ColumnTest) : AreRead d (rowFragments d [.test t]) t.quotedParts := by
    rw [rowFragments, List.flatMap_singleton]
    exact areRead_test t
  induction p using Predicate.connectiveInduction generalizing scope with
  | always => exact hsingle (.constant true)
  | never => exact hsingle (.constant false)
  | test p ht =>
    cases p with
    | present field wanted =>
      cases wanted with
      | true => exact hsingle (.isNotNull (scope ++ field))
      | false => exact hsingle (.isNull (scope ++ field))
    | _ => first | exact hsingle _ | cases ht
  | nested field p ih => exact ih (scope ++ field)
  | not p ih =>
    rw [conditionTokens, rowFragments_cons]
    exact areRead_fixed_cons (by decide) (by decide) (areRead_parenthesized (ih scope))
  | and parts ih =>
    rw [conditionTokens, conditionParts, conditionPartsOf_eq_flatMap, conjunctTokens_eq_map]
    refine areRead_connected (.inl rfl) fun p hp => ?_
    split
    · exact areRead_parenthesized (ih p hp scope)
    · exact ih p hp scope
  | or parts ih =>
    rw [conditionTokens, conditionParts, conditionPartsOf_eq_flatMap, disjunctTokens_eq_map]
    exact areRead_connected (.inr rfl) fun p hp => areRead_parenthesized (ih p hp scope)

/-- The texts that a condition puts between quotes are the empty one and the backslash. -/
theorem eq_of_text_mem_conditionParts {text : String} (p : Predicate) (scope : FieldPath)
    (h : .text text ∈ conditionParts scope p) : text = "" ∨ text = "\\" := by
  induction p using Predicate.connectiveInduction generalizing scope with
  | always => cases h
  | never => cases h
  | test p ht =>
    have hcolumn (column : FieldPath) : .text text ∉ columnParts column :=
      text_not_mem_columnParts text column
    cases p <;> simp_all [conditionParts, Predicate.isTest]
  | nested field p ih => exact ih (scope ++ field) h
  | not p ih => exact ih scope h
  | and parts ih =>
    rw [conditionParts, conditionPartsOf_eq_flatMap, List.mem_flatMap] at h
    obtain ⟨p, hp, h⟩ := h
    exact ih p hp scope h
  | or parts ih =>
    rw [conditionParts, conditionPartsOf_eq_flatMap, List.mem_flatMap] at h
    obtain ⟨p, hp, h⟩ := h
    exact ih p hp scope h

/-! ## Statements -/

theorem areRead_orderClause (sort : List SortKey) :
    AreRead d (Table.orderClause sort) (sort.flatMap fun key => columnParts key.field) := by
  have hkeys : ∀ key ∈ sort, AreRead d (Table.orderFragments key) (columnParts key.field) := by
    rintro ⟨field, direction⟩ -
    cases direction with
    | asc =>
      exact areRead_column_cons field (by decide : " ASC".toList.head?.any isSign = true)
        (areRead_fixed (by decide : IsPlain " ASC".toList))
    | desc =>
      exact areRead_column_cons field (by decide : " DESC".toList.head?.any isSign = true)
        (areRead_fixed (by decide : IsPlain " DESC".toList))
  rw [Table.orderClause]
  split
  · next hsort =>
    rw [List.isEmpty_iff.1 hsort]
    exact areRead_nil
  · exact areRead_fixed_cons (by decide) (by decide)
      (areRead_separated (by decide) (by decide) (by decide) hkeys)

namespace Request

/-- The name of the table, where a request says it. -/
def tableParts (name : String) : Request → List Quoted
  | condition => []
  | count => [.name name]
  | select .. => [.name name]

/-- What a statement is meant to put between quotes. -/
def quotedParts (name : String) (p : Predicate) (r : Request) : List Quoted :=
  r.tableParts name ++ (conditionParts [] p ++ r.sort.flatMap fun key => columnParts key.field)

theorem areRead_after (r : Request) :
    AreRead d r.after (r.sort.flatMap fun key => columnParts key.field) ∧
      StartsClear d r.after := by
  cases r with
  | condition => exact ⟨areRead_nil, startsClear_nil⟩
  | count => exact ⟨areRead_nil, startsClear_nil⟩
  | select page sort =>
    have hplain : IsPlain (" LIMIT " ++ toString page.limit ++ " OFFSET " ++
        toString page.offset).toList := by
      simp only [String.toList_append]
      exact isPlain_append (isPlain_append (isPlain_append (by decide) (isPlain_toString _))
        (by decide)) (isPlain_toString _)
    have hclear (fs : List Fragment) : StartsClear d (.fixed (" LIMIT " ++ toString page.limit ++
        " OFFSET " ++ toString page.offset) :: fs) := by
      refine startsClear_fixed fs ?_
      simp [isSign]
    refine ⟨?_, ?_⟩
    · have := areRead_append (areRead_orderClause (d := d) sort) (areRead_fixed hplain) (hclear [])
      rwa [List.append_nil] at this
    · rw [after, Table.orderClause]
      split
      · exact hclear []
      · exact startsClear_fixed _ (by decide)

theorem areRead_statement (name : String) (p : Predicate) (r : Request) :
    AreRead d (r.before ⟨name, d, none⟩ ++ (conditionFragments d p ++ r.after))
      (r.quotedParts name p) := by
  obtain ⟨hafter, hclear⟩ := areRead_after (d := d) r
  have hcondition := areRead_append (areRead_conditionTokens (d := d) p []) hafter hclear
  have htable {text : String} (hplain : IsPlain text.toList)
      (hend : endsInWord false text.toList = false) :
      AreRead d (.fixed text :: .name name :: .fixed " WHERE " ::
        (conditionFragments d p ++ r.after)) (.name name :: (conditionParts [] p ++
          r.sort.flatMap fun key => columnParts key.field)) :=
    areRead_fixed_cons hplain hend (areRead_append (areRead_name name)
      (areRead_fixed_cons (by decide) (by decide) hcondition) (startsClear_fixed _ (by decide)))
  cases r with
  | condition => exact hcondition
  | count => exact htable (by decide) (by decide)
  | select page sort => exact htable (by decide) (by decide)

end Request

theorem quotedParts_of_reads {fs : List Fragment} {parts : List Quoted} (h : Reads d fs parts) :
    quotedParts d (textFrom d 1 fs) = some parts := by
  have hall := h 1 [] isClear_nil
  rw [List.append_nil] at hall
  rw [quotedParts, hall, quotedFrom, Option.map_some, List.append_nil]

theorem hasStrayText_of_readsAstray {fs : List Fragment} (h : ReadsAstray d fs)
    {found : List Quoted} (hfound : quotedParts d (textFrom d 1 fs) = some found) :
    HasStrayText found :=
  h 1 [] found isClear_nil (by rwa [List.append_nil])

/-- The texts of a statement are those of its condition. -/
theorem text_mem_quotedParts_iff {text name : String} {p : Predicate} {r : Request} :
    .text text ∈ r.quotedParts name p ↔ .text text ∈ conditionParts [] p := by
  have htable : .text text ∉ r.tableParts name := by cases r <;> simp [Request.tableParts]
  have hsort : .text text ∉ r.sort.flatMap fun key => columnParts key.field := by
    rw [List.mem_flatMap]
    rintro ⟨key, -, htext⟩
    exact text_not_mem_columnParts _ _ htext
  rw [Request.quotedParts, List.mem_append, List.mem_append, or_iff_right htable,
    or_iff_left hsort]

/-- Nothing that is meant to stand between quotes begins with one. -/
theorem not_hasStrayText_quotedParts (name : String) (p : Predicate) (r : Request) :
    ¬ HasStrayText (r.quotedParts name p) := by
  rintro ⟨text, htext, hstray⟩
  rcases eq_of_text_mem_conditionParts p [] (text_mem_quotedParts_iff.1 htext) with rfl | rfl
  · cases hstray
  · revert hstray
    decide

theorem isMisread_quotedParts_iff (name : String) (p : Predicate) (r : Request) :
    IsMisread d (r.quotedParts name p) ↔ IsMisread d (conditionParts [] p) :=
  and_congr_right fun _ => text_mem_quotedParts_iff

/-- Whatever is asked of a table, and whatever names have in them, what a statement puts between
quotes is read as it is meant, exactly if the dialect is PostgreSQL or the condition names no
escaping sign.  Else some text is read that begins with a quote, if the statement is read at all. -/
theorem statement_quotes_iff (name : String) (d : Dialect) (p : Predicate) (r : Request) :
    (quotedParts d (r.statement ⟨name, d, none⟩ p).text = some (r.quotedParts name p) ↔
      d = .postgres ∨ .text "\\" ∉ conditionParts [] p) ∧
    (d = .mysql → .text "\\" ∈ conditionParts [] p →
      ∀ found, quotedParts d (r.statement ⟨name, d, none⟩ p).text = some found →
        HasStrayText found) ∧
    quotedParts d (Table.count ⟨name, d, none⟩ none).text = some [.name name] := by
  have hread := Request.areRead_statement (d := d) name p r
  have hmisread := isMisread_quotedParts_iff (d := d) name p r
  rw [Request.statement_eq]
  refine ⟨⟨fun h => ?_, fun h => ?_⟩, fun hd htext found hfound => ?_, ?_⟩
  · cases d with
    | postgres => exact .inl rfl
    | mysql =>
      refine .inr fun htext => not_hasStrayText_quotedParts name p r ?_
      exact hasStrayText_of_readsAstray (hread.astray (hmisread.2 ⟨rfl, htext⟩)) h
  · refine quotedParts_of_reads (hread.reads fun hmis => ?_)
    obtain ⟨hd, htext⟩ := hmisread.1 hmis
    rcases h with h | h
    · cases h.symm.trans hd
    · exact h htext
  · exact hasStrayText_of_readsAstray (hread.astray (hmisread.2 ⟨hd, htext⟩)) hfound
  · have hcount : AreRead d [.fixed "SELECT COUNT(*) FROM ", .name name] [.name name] :=
      areRead_fixed_cons (by decide) (by decide) (areRead_name name)
    exact quotedParts_of_reads (hcount.reads fun hmis => by simp [IsMisread] at hmis)

/-- In MySQL the statement for a like test is not read to its end. -/
theorem likeTest_quotes_not_closed :
    ((Request.select ⟨0, 10⟩ []).statement ⟨"people", .mysql, none⟩ (.like ["name"] "ann%")).text =
      "SELECT * FROM \x60people\x60 WHERE LOWER(\x60name\x60) LIKE ? ESCAPE '\\' LIMIT 10 OFFSET 0" ∧
    quotedParts .mysql ((Request.select ⟨0, 10⟩ []).statement ⟨"people", .mysql, none⟩
      (.like ["name"] "ann%")).text = none :=
  ⟨by decide +kernel, by decide +kernel⟩

end ListingQuery.Sql
