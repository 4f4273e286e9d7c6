import Mathlib.Data.List.DropRight
import ListingQuery.Text.Blank

/-!
# Texts with blanks around them

A text is padded from its core by blanks in front and behind.  Trimming takes off all of them and
nothing else, so it finds the core of a padded text, if the core has no blanks at its own ends:

    IsPadded core s ↔ trim s = core    for trim core = core             (isPadded_iff)
-/

namespace ListingQuery.Text

/-- Nothing but blanks. -/
def IsBlankText (s : String) : Prop := ∀ c ∈ s.toList, isBlank c = true

theorem trim_eq_empty_iff (s : String) : trim s = "" ↔ IsBlankText s := by
  rw [trim, ← String.ofList_nil, String.ofList_inj, trimChars, List.reverse_eq_nil_iff,
    List.dropWhile_eq_nil_iff]
  simp only [List.mem_reverse]
  constructor
  · intro h
    have hnil : s.toList.dropWhile isBlank = [] := by
      rw [← List.dropWhile_idempotent, List.dropWhile_eq_nil_iff]
      exact h
    exact List.dropWhile_eq_nil_iff.1 hnil
  · exact fun h c hc => h c ((List.dropWhile_sublist _).subset hc)

/-! ## Texts that are trimmed already -/

/-- Only the characters at the ends matter. -/
theorem trimChars_eq_self_of_ends {cs : List Char} {c d : Char} (hhead : cs.head? = some c)
    (hlast : cs.getLast? = some d) (hc : isBlank c = false) (hd : isBlank d = false) :
    trimChars cs = cs := by
  have hdrop {cs : List Char} {c : Char} (hhead : cs.head? = some c) (hc : isBlank c = false) :
      cs.dropWhile isBlank = cs := by
    obtain ⟨cs, rfl⟩ := List.head?_eq_some_iff.1 hhead
    rw [List.dropWhile_cons_of_neg (by simp [hc])]
  rw [trimChars, hdrop hhead hc, hdrop (List.head?_reverse.trans hlast) hd, List.reverse_reverse]

theorem trimChars_eq_self {cs : List Char} (h : ∀ c ∈ cs, isBlank c = false) :
    trimChars cs = cs := by
  cases cs with
  | nil => rfl
  | cons c cs =>
    exact trimChars_eq_self_of_ends rfl (List.getLast?_eq_some_getLast (List.cons_ne_nil c cs))
      (h c List.mem_cons_self) (h _ (List.getLast_mem _))

/-! ## Padding -/

/-- A text with any blanks in front of it and behind it. -/
def IsPadded (core s : String) : Prop :=
  ∃ before after, IsBlankText before ∧ IsBlankText after ∧ s = before ++ core ++ after

theorem isPadded_self (s : String) : IsPadded s s :=
  ⟨"", "", by simp [IsBlankText], by simp [IsBlankText], by simp⟩

/-- Blanks around a text make no difference to what is left of it. -/
theorem trimChars_append {before after : List Char} (core : List Char)
    (hbefore : ∀ c ∈ before, isBlank c = true) (hafter : ∀ c ∈ after, isBlank c = true) :
    trimChars (before ++ core ++ after) = trimChars core := by
  rw [List.append_assoc, trimChars, trimChars, List.dropWhile_append_of_pos hbefore,
    List.dropWhile_append]
  split
  · next hblank =>
    -- nothing is left of the core, and so nothing of the blanks behind it
    rw [List.isEmpty_iff] at hblank
    rw [hblank, List.dropWhile_eq_nil_iff.2 hafter]
  · rw [List.reverse_append,
      List.dropWhile_append_of_pos fun c hc => hafter c (List.mem_reverse.1 hc)]

/-- What trimming takes off are blanks. -/
theorem exists_eq_append_trimChars (cs : List Char) : ∃ before after,
    (∀ c ∈ before, isBlank c = true) ∧ (∀ c ∈ after, isBlank c = true) ∧
      cs = before ++ trimChars cs ++ after := by
  let rest := cs.dropWhile isBlank
  refine ⟨cs.takeWhile isBlank, (rest.reverse.takeWhile isBlank).reverse,
    fun c hc => List.mem_takeWhile_imp hc,
    fun c hc => List.mem_takeWhile_imp (List.mem_reverse.1 hc), ?_⟩
  have hrest : rest = trimChars cs ++ (rest.reverse.takeWhile isBlank).reverse := by
    rw [trimChars, ← List.reverse_append, List.takeWhile_append_dropWhile, List.reverse_reverse]
  rw [List.append_assoc, ← hrest, List.takeWhile_append_dropWhile]

theorem length_trimChars_le (cs : List Char) : (trimChars cs).length ≤ cs.length := by
  obtain ⟨before, after, -, -, hcs⟩ := exists_eq_append_trimChars cs
  have hlength := congrArg List.length hcs
  simp only [List.length_append] at hlength
  omega

theorem isPadded_iff {core s : String} (hcore : trim core = core) :
    IsPadded core s ↔ trim s = core := by
  constructor
  · rintro ⟨before, after, hbefore, hafter, rfl⟩
    rw [trim, String.toList_append, String.toList_append, trimChars_append _ hbefore hafter]
    exact hcore
  · rintro rfl
    obtain ⟨before, after, hbefore, hafter, hs⟩ := exists_eq_append_trimChars s.toList
    refine ⟨String.ofList before, String.ofList after, ?_, ?_, ?_⟩
    · rwa [IsBlankText, String.toList_ofList]
    · rwa [IsBlankText, String.toList_ofList]
    · rw [trim, ← String.ofList_append, ← String.ofList_append, ← hs, String.ofList_toList]

end ListingQuery.Text
