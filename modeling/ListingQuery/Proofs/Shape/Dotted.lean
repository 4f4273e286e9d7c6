import ListingQuery.Shape.FieldPath

/-!
# Dotted paths

A path whose segments have no dots is read back from its dotted form.  Where segments have dots, more
segments are read than were written.

    p ≠ [], p without dots → ofDotted (dotted p) = p                  (ofDotted_dotted)
    (ofDotted (dotted p)).length = p.length + dots in segments        (length_ofDotted_dotted)

Texts with a dot between them are read as the paths one after the other:

    ofDotted (p ++ "." ++ q) = ofDotted p ++ ofDotted q               (ofDotted_append)
-/

namespace ListingQuery

namespace Text

theorem splitOn_eq_singleton {sep : Char} {cs : List Char} (h : sep ∉ cs) :
    splitOn sep cs = [cs] := by
  induction cs with
  | nil => rfl
  | cons c cs ih =>
    rw [List.mem_cons, not_or] at h
    rw [splitOn, if_neg fun e => h.1 e.symm, ih h.2]

/-- Texts with a separator between them are split one after the other. -/
theorem splitOn_append_cons (sep : Char) (cs ds : List Char) :
    splitOn sep (cs ++ sep :: ds) = splitOn sep cs ++ splitOn sep ds := by
  induction cs with
  | nil =>
    show splitOn sep (sep :: ds) = [] :: splitOn sep ds
    rw [splitOn, if_pos rfl]
  | cons c cs ih =>
    rw [List.cons_append, splitOn, splitOn, ih]
    split
    · rfl
    · cases h : splitOn sep cs with
      | nil => exact absurd h (splitOn_ne_nil sep cs)
      | cons part parts => rfl

theorem splitOn_append {sep : Char} {cs : List Char} (h : sep ∉ cs) (ds : List Char) :
    splitOn sep (cs ++ sep :: ds) = cs :: splitOn sep ds := by
  rw [splitOn_append_cons, splitOn_eq_singleton h, List.singleton_append]

theorem notMem_of_mem_splitOn {sep : Char} {cs part : List Char} (h : part ∈ splitOn sep cs) :
    sep ∉ part := by
  induction cs generalizing part with
  | nil =>
    rw [List.mem_singleton.1 h]
    exact List.not_mem_nil
  | cons c cs ih =>
    rw [splitOn] at h
    split at h
    · rcases List.mem_cons.1 h with rfl | h
      · exact List.not_mem_nil
      · exact ih h
    · next hc =>
      cases hparts : splitOn sep cs with
      | nil => exact absurd hparts (splitOn_ne_nil sep cs)
      | cons first rest =>
        rw [hparts] at h ih
        rcases List.mem_cons.1 h with rfl | h
        · have hfirst := ih List.mem_cons_self
          exact fun hmem => (List.mem_cons.1 hmem).elim (fun e => hc e.symm) hfirst
        · exact ih (List.mem_cons_of_mem _ h)

/-- There is one part more than there are separators. -/
theorem length_splitOn (sep : Char) (cs : List Char) :
    (splitOn sep cs).length = cs.count sep + 1 := by
  induction cs with
  | nil => rfl
  | cons c cs ih =>
    rw [splitOn]
    split
    · next hc =>
      subst hc
      rw [List.length_cons, ih, List.count_cons_self]
    · next hc =>
      rw [List.count_cons_of_ne hc, ← ih]
      cases hparts : splitOn sep cs with
      | nil => exact absurd hparts (splitOn_ne_nil sep cs)
      | cons part parts => rfl

end Text

namespace FieldPath

/-- The number of dots in the segments of a path. -/
def dotCount : FieldPath → Nat
  | [] => 0
  | s :: p => s.toList.count '.' + dotCount p

/-- No segment has a dot. -/
def IsDotless (p : FieldPath) : Prop := ∀ s ∈ p, '.' ∉ s.toList

theorem isDotless_iff {p : FieldPath} : p.IsDotless ↔ p.dotCount = 0 := by
  induction p with
  | nil => simp [IsDotless, dotCount]
  | cons s p ih =>
    have hcons : IsDotless (s :: p) ↔ '.' ∉ s.toList ∧ IsDotless p := List.forall_mem_cons
    have hcount : dotCount (s :: p) = s.toList.count '.' + dotCount p := rfl
    rw [hcons, ih, hcount, Nat.add_eq_zero_iff, List.count_eq_zero]

theorem ofDotted_append (p q : String) :
    ofDotted (p ++ "." ++ q) = ofDotted p ++ ofDotted q := by
  have hchars : (p ++ "." ++ q).toList = p.toList ++ '.' :: q.toList := by
    simp [String.toList_append]
  rw [ofDotted, Text.split, hchars, Text.splitOn_append_cons, List.map_append]
  rfl

theorem ofDotted_ne_nil (s : String) : ofDotted s ≠ [] := by
  simp [ofDotted, Text.split, Text.splitOn_ne_nil]

/-- What a text is read as has no dots. -/
theorem isDotless_ofDotted (s : String) : (ofDotted s).IsDotless := by
  intro segment h
  obtain ⟨part, hpart, rfl⟩ := List.mem_map.1 h
  rw [String.toList_ofList]
  exact Text.notMem_of_mem_splitOn hpart

theorem dotted_cons {rest : FieldPath} (s : String) (h : rest ≠ []) :
    (dotted (s :: rest)).toList = s.toList ++ '.' :: (dotted rest).toList := by
  cases rest with
  | nil => exact absurd rfl h
  | cons t rest => simp [dotted, Text.join]

theorem count_dotted {p : FieldPath} (h : p ≠ []) :
    (dotted p).toList.count '.' + 1 = p.length + p.dotCount := by
  induction p with
  | nil => exact absurd rfl h
  | cons s p ih =>
    have hcount : dotCount (s :: p) = s.toList.count '.' + dotCount p := rfl
    cases p with
    | nil =>
      show s.toList.count '.' + 1 = 1 + (s.toList.count '.' + 0)
      omega
    | cons t p =>
      have ih := ih (by simp)
      rw [dotted_cons s (by simp), List.count_append, List.count_cons_self, hcount,
        List.length_cons]
      omega

theorem length_ofDotted_dotted {p : FieldPath} (h : p ≠ []) :
    (ofDotted (dotted p)).length = p.length + p.dotCount := by
  rw [ofDotted, Text.split, List.length_map, Text.length_splitOn, count_dotted h]

/-- A first segment without dots is read back. -/
theorem ofDotted_dotted_cons {s : String} {rest : FieldPath} (hs : '.' ∉ s.toList)
    (h : rest ≠ []) : ofDotted (dotted (s :: rest)) = s :: ofDotted (dotted rest) := by
  rw [ofDotted, Text.split, dotted_cons s h, Text.splitOn_append hs, List.map_cons,
    String.ofList_toList]
  rfl

theorem ofDotted_dotted_singleton {s : String} (hs : '.' ∉ s.toList) :
    ofDotted (dotted [s]) = [s] := by
  rw [ofDotted, dotted, Text.join, Text.split, Text.splitOn_eq_singleton hs, List.map_singleton,
    String.ofList_toList]

/-- A path without dots is read back. -/
theorem ofDotted_dotted {p : FieldPath} (h : p ≠ []) (hdots : p.IsDotless) :
    ofDotted (dotted p) = p := by
  induction p with
  | nil => exact absurd rfl h
  | cons s p ih =>
    obtain ⟨hs, hp⟩ := List.forall_mem_cons.1 hdots
    cases p with
    | nil => exact ofDotted_dotted_singleton hs
    | cons t p => rw [ofDotted_dotted_cons hs (by simp), ih (by simp) hp]

/-- Only one path is written as a text without dots. -/
theorem eq_of_dotted_eq {p : FieldPath} {s : String} (hs : '.' ∉ s.toList) (hne : s ≠ "")
    (h : dotted p = s) : p = [s] := by
  match p with
  | [] => exact absurd h.symm hne
  | [t] => rw [← h]; rfl
  | t :: u :: rest =>
    refine absurd ?_ hs
    rw [← h, dotted_cons t (by simp)]
    simp

end FieldPath

end ListingQuery
