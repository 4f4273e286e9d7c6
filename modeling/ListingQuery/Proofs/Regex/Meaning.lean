import ListingQuery.Regex.Pattern
import Mathlib.Data.List.Basic

/-!
# What a search finds

A pattern matches a text between two characters, the ends of the whole text counting as none; the
meaning is given by recursion on the pattern.  The search reads the text once and keeps what remains
to be matched of everything it has begun.

The remaining patterns match what follows exactly if the pattern matches it behind the character
read                                                               (`exists_mem_steps_iff`).  So the
search finds a match exactly if there is one, at any place                          (`search_iff`).
-/

namespace ListingQuery.Regex.Pattern

/-! ## Neighbours -/

/-- The character before a place behind `s`, where `s` stands behind `before`. -/
def lastOf : (before : Option Char) → (s : List Char) → Option Char
  | before, [] => before
  | _, c :: s => lastOf (some c) s

/-- The character behind a place before `s`, where `s` stands before `after`. -/
def firstOf : (s : List Char) → (after : Option Char) → Option Char
  | [], after => after
  | c :: _, _ => some c

@[simp] theorem lastOf_nil (before : Option Char) : lastOf before [] = before := rfl

@[simp] theorem lastOf_cons (before : Option Char) (c : Char) (s : List Char) :
    lastOf before (c :: s) = lastOf (some c) s := rfl

@[simp] theorem firstOf_nil (after : Option Char) : firstOf [] after = after := rfl

@[simp] theorem firstOf_cons (c : Char) (s : List Char) (after : Option Char) :
    firstOf (c :: s) after = some c := rfl

theorem lastOf_append (before : Option Char) (s t : List Char) :
    lastOf before (s ++ t) = lastOf (lastOf before s) t := by
  induction s generalizing before with
  | nil => rfl
  | cons c s ih => exact ih (some c)

theorem firstOf_append (s t : List Char) (after : Option Char) :
    firstOf (s ++ t) after = firstOf s (firstOf t after) := by
  cases s <;> rfl

/-- A text is cut before its first character or behind it. -/
theorem exists_cut_cons_iff {P : List Char → List Char → Prop} {c : Char} {s : List Char} :
    (∃ u v, c :: s = u ++ v ∧ P u v) ↔ P [] (c :: s) ∨ ∃ u v, s = u ++ v ∧ P (c :: u) v := by
  constructor
  · rintro ⟨u, v, hcut, h⟩
    cases u with
    | nil =>
      subst hcut
      exact .inl h
    | cons d u =>
      rw [List.cons_append, List.cons.injEq] at hcut
      obtain ⟨rfl, rfl⟩ := hcut
      exact .inr ⟨u, v, rfl, h⟩
  · rintro (h | ⟨u, v, rfl, h⟩)
    · exact ⟨[], c :: s, rfl, h⟩
    · exact ⟨c :: u, v, rfl, h⟩

theorem exists_cut_nil_iff {P : List Char → List Char → Prop} :
    (∃ u v, [] = u ++ v ∧ P u v) ↔ P [] [] := by
  constructor
  · rintro ⟨u, v, hcut, h⟩
    obtain ⟨rfl, rfl⟩ := List.append_eq_nil_iff.1 hcut.symm
    exact h
  · exact fun h => ⟨[], [], rfl, h⟩

/-! ## Meaning -/

/-- So many texts one after the other, each of them matched where it stands. -/
def Rounds (m : Option Char → List Char → Option Char → Prop) :
    (count : Nat) → Option Char → List Char → Option Char → Prop
  | 0, _, s, _ => s = []
  | count + 1, before, s, after =>
    ∃ u v, s = u ++ v ∧ m before u (firstOf v after) ∧ Rounds m count (lastOf before u) v after

/-- The pattern matches the text between these two characters. -/
def Matches : Pattern → (before : Option Char) → (s : List Char) → (after : Option Char) → Prop
  | empty, _, s, _ => s = []
  | chars set, _, s, _ => ∃ c, s = [c] ∧ set.contains c.toNat = true
  | anchor a, before, s, after => s = [] ∧ a.holds before after = true
  | seq p q, before, s, after =>
    ∃ u v, s = u ++ v ∧ p.Matches before u (firstOf v after) ∧ q.Matches (lastOf before u) v after
  | alt p q, before, s, after => p.Matches before s after ∨ q.Matches before s after
  | rep p min max?, before, s, after =>
    ∃ count, min ≤ count ∧ (∀ max ∈ max?, count ≤ max) ∧ Rounds p.Matches count before s after

/-- No repetition has a lower bound above its upper bound. -/
def IsBounded : Pattern → Prop
  | seq p q => p.IsBounded ∧ q.IsBounded
  | alt p q => p.IsBounded ∧ q.IsBounded
  | rep p min max? => p.IsBounded ∧ ∀ max ∈ max?, min ≤ max
  | _ => True

variable {p q : Pattern} {before after : Option Char} {c : Char} {s : List Char}

theorem matches_empty : empty.Matches before s after ↔ s = [] := Iff.rfl

theorem matches_chars {set : CharSet} :
    (chars set).Matches before s after ↔ ∃ c, s = [c] ∧ set.contains c.toNat = true := Iff.rfl

theorem matches_anchor {a : Anchor} :
    (anchor a).Matches before s after ↔ s = [] ∧ a.holds before after = true := Iff.rfl

theorem matches_seq : (seq p q).Matches before s after ↔
    ∃ u v, s = u ++ v ∧ p.Matches before u (firstOf v after) ∧
      q.Matches (lastOf before u) v after := Iff.rfl

theorem matches_alt : (alt p q).Matches before s after ↔
    p.Matches before s after ∨ q.Matches before s after := Iff.rfl

theorem matches_rep {min : Nat} {max? : Option Nat} : (rep p min max?).Matches before s after ↔
    ∃ count, min ≤ count ∧ (∀ max ∈ max?, count ≤ max) ∧ Rounds p.Matches count before s after :=
  Iff.rfl

/-! ## Sequences -/

/-- The patterns match the same texts everywhere. -/
def Same (p q : Pattern) : Prop :=
  ∀ before s after, p.Matches before s after ↔ q.Matches before s after

theorem Same.refl (p : Pattern) : p.Same p := fun _ _ _ => Iff.rfl

theorem Same.symm {p q : Pattern} (h : p.Same q) : q.Same p :=
  fun before s after => (h before s after).symm

theorem Same.trans {p q r : Pattern} (hpq : p.Same q) (hqr : q.Same r) : p.Same r :=
  fun before s after => (hpq before s after).trans (hqr before s after)

theorem Same.seq {p p' q q' : Pattern} (hp : p.Same p') (hq : q.Same q') :
    (seq p q).Same (seq p' q') := by
  intro before s after
  simp only [matches_seq, hp _ _ _, hq _ _ _]

theorem same_empty_seq (p : Pattern) : (seq empty p).Same p := by
  intro before s after
  rw [matches_seq]
  constructor
  · rintro ⟨u, v, rfl, hu, hv⟩
    rw [matches_empty.1 hu] at hv ⊢
    exact hv
  · exact fun h => ⟨[], s, rfl, rfl, h⟩

theorem same_seq_empty (p : Pattern) : (seq p empty).Same p := by
  intro before s after
  rw [matches_seq]
  constructor
  · rintro ⟨u, v, rfl, hu, hv⟩
    rw [matches_empty.1 hv] at hu ⊢
    rw [List.append_nil]
    exact hu
  · exact fun h => ⟨s, [], (List.append_nil s).symm, h, rfl⟩

theorem same_seq_assoc (p q r : Pattern) : (seq (seq p q) r).Same (seq p (seq q r)) := by
  intro before s after
  simp only [matches_seq]
  constructor
  · rintro ⟨_, w, rfl, ⟨u, v, rfl, hu, hv⟩, hw⟩
    rw [lastOf_append] at hw
    refine ⟨u, v ++ w, List.append_assoc u v w, ?_, v, w, rfl, hv, hw⟩
    rw [firstOf_append]
    exact hu
  · rintro ⟨u, _, rfl, hu, v, w, rfl, hv, hw⟩
    rw [firstOf_append] at hu
    refine ⟨u ++ v, w, (List.append_assoc u v w).symm, ⟨u, v, rfl, hu, hv⟩, ?_⟩
    rw [lastOf_append]
    exact hw

theorem same_sequence_cons (p : Pattern) (ps : List Pattern) :
    (sequence (p :: ps)).Same (seq p (sequence ps)) := by
  cases ps with
  | nil => exact (same_seq_empty p).symm
  | cons q ps => exact .refl _

theorem same_sequence_append (ps qs : List Pattern) :
    (sequence (ps ++ qs)).Same (seq (sequence ps) (sequence qs)) := by
  induction ps with
  | nil => exact (same_empty_seq _).symm
  | cons p ps ih =>
    have hcons : (seq (sequence (p :: ps)) (sequence qs)).Same
        (seq (seq p (sequence ps)) (sequence qs)) := (same_sequence_cons p ps).seq (.refl _)
    have hrest : (seq p (sequence (ps ++ qs))).Same (seq p (seq (sequence ps) (sequence qs))) :=
      (Same.refl p).seq ih
    rw [List.cons_append]
    exact (same_sequence_cons p _).trans (hrest.trans ((same_seq_assoc _ _ _).symm.trans hcons.symm))

theorem isBounded_sequence {ps : List Pattern} (h : ∀ p ∈ ps, p.IsBounded) :
    (sequence ps).IsBounded := by
  induction ps with
  | nil => trivial
  | cons p ps ih =>
    obtain ⟨hp, hps⟩ := List.forall_mem_cons.1 h
    cases ps with
    | nil => exact hp
    | cons q ps => exact ⟨hp, ih hps⟩

/-- A set that may be repeated any number of times matches the texts of its members. -/
theorem matches_rep_chars {set : CharSet} : (rep (chars set) 0 none).Matches before s after ↔
    ∀ c ∈ s, set.contains c.toNat = true := by
  have hrounds (count : Nat) : Rounds (chars set).Matches count before s after ↔
      s.length = count ∧ ∀ c ∈ s, set.contains c.toNat = true := by
    induction count generalizing before s with
    | zero =>
      unfold Rounds
      rw [List.length_eq_zero_iff]
      refine (and_iff_left_of_imp ?_).symm
      rintro rfl
      exact List.forall_mem_nil _
    | succ count ih =>
      unfold Rounds
      constructor
      · rintro ⟨_, v, rfl, ⟨c, rfl, hc⟩, hv⟩
        obtain ⟨rfl, hset⟩ := ih.1 hv
        exact ⟨rfl, List.forall_mem_cons.2 ⟨hc, hset⟩⟩
      · rintro ⟨hlength, hset⟩
        obtain ⟨c, v, rfl⟩ := List.exists_cons_of_length_eq_add_one hlength
        obtain ⟨hc, hv⟩ := List.forall_mem_cons.1 hset
        exact ⟨[c], v, rfl, ⟨c, rfl, hc⟩, ih.2 ⟨Nat.succ.inj hlength, hv⟩⟩
  rw [matches_rep]
  constructor
  · rintro ⟨count, -, -, h⟩
    exact ((hrounds count).1 h).2
  · exact fun h => ⟨s.length, Nat.zero_le _, by simp, (hrounds s.length).2 ⟨rfl, h⟩⟩

/-! ## The empty text -/

theorem rounds_nil_iff {m : Option Char → List Char → Option Char → Prop} {count : Nat} :
    Rounds m count before [] after ↔ count = 0 ∨ m before [] after := by
  induction count with
  | zero => simp [Rounds]
  | succ count ih =>
    unfold Rounds
    rw [exists_cut_nil_iff, firstOf_nil, lastOf_nil, ih]
    constructor
    · exact fun h => .inr h.1
    · rintro (h | h)
      · omega
      · exact ⟨h, .inr h⟩

theorem nullable_iff (hp : p.IsBounded) :
    p.nullable before after = true ↔ p.Matches before [] after := by
  induction p with
  | empty => simp [nullable, matches_empty]
  | chars set => simp [nullable, matches_chars]
  | anchor a => simp [nullable, matches_anchor]
  | seq p q ihp ihq =>
    unfold nullable
    rw [matches_seq, Bool.and_eq_true, ihp hp.1, ihq hp.2, exists_cut_nil_iff, firstOf_nil,
      lastOf_nil]
  | alt p q ihp ihq =>
    unfold nullable
    rw [matches_alt, Bool.or_eq_true, ihp hp.1, ihq hp.2]
  | rep p min max? ih =>
    unfold nullable
    rw [matches_rep, Bool.or_eq_true, beq_iff_eq, ih hp.1]
    constructor
    · intro h
      exact ⟨min, Nat.le_refl min, hp.2, rounds_nil_iff.2 h⟩
    · rintro ⟨count, hmin, -, hrounds⟩
      rcases rounds_nil_iff.1 hrounds with hcount | hround
      · exact .inl (by omega)
      · exact .inr hround

/-! ## Reading a character -/

theorem same_thenMatch (p q : Pattern) : (p.thenMatch q).Same (seq p q) := by
  by_cases h : p = empty
  · subst h
    exact (same_empty_seq q).symm
  · have hseq : p.thenMatch q = seq p q := by cases p <;> first | rfl | exact absurd rfl h
    rw [hseq]
    exact .refl _

/-- The rounds that read a text start with some that read nothing, which can only be where the
pattern matches the empty text. -/
theorem rounds_cons_iff {m : Option Char → List Char → Option Char → Prop} {count : Nat} :
    Rounds m count before (c :: s) after ↔
      ∃ idle later, count = idle + (later + 1) ∧ (idle ≠ 0 → m before [] (some c)) ∧
        ∃ u v, s = u ++ v ∧ m before (c :: u) (firstOf v after) ∧
          Rounds m later (lastOf (some c) u) v after := by
  constructor
  · intro h
    induction count with
    | zero => cases h
    | succ count ih =>
      rcases exists_cut_cons_iff.1 h with ⟨hempty, hrest⟩ | hround
      · obtain ⟨idle, later, rfl, -, hround⟩ := ih hrest
        exact ⟨idle + 1, later, by omega, fun _ => hempty, hround⟩
      · exact ⟨0, count, by omega, by simp, hround⟩
  · rintro ⟨idle, later, rfl, hidle, hround⟩
    induction idle with
    | zero =>
      rw [Nat.zero_add]
      exact exists_cut_cons_iff.2 (.inr hround)
    | succ idle ih =>
      have hempty := hidle (by omega)
      rw [Nat.succ_add]
      exact exists_cut_cons_iff.2 (.inl ⟨hempty, ih fun _ => hempty⟩)

theorem matches_remaining_iff {min : Nat} {max? : Option Nat} {isFree : Bool}
    (hbounds : ∀ max ∈ max?, min ≤ max) :
    (remaining p min max? isFree).Matches before s after ↔
      ∃ later, (isFree = false → min - 1 ≤ later) ∧ (∀ max ∈ max?, later ≤ max - 1) ∧
        Rounds p.Matches later before s after := by
  have hleast (later : Nat) :
      (if isFree then 0 else min - 1) ≤ later ↔ (isFree = false → min - 1 ≤ later) := by
    cases isFree <;> simp
  unfold remaining
  cases max? with
  | none => simp [matches_rep, hleast]
  | some max =>
    have hmin : min ≤ max := hbounds max rfl
    by_cases hmax : max ≤ 1
    · simp only [hmax, if_true, matches_empty]
      constructor
      · rintro rfl
        exact ⟨0, fun _ => by omega, fun m _ => by omega, rfl⟩
      · rintro ⟨later, -, hlater, hrounds⟩
        have hnone : later = 0 := by
          have hfew := hlater max rfl
          omega
        rw [hnone] at hrounds
        exact hrounds
    · simp only [hmax, if_false, matches_rep, hleast, Option.mem_some_iff, forall_eq']

/-- A repetition that reads a character reads it in the first round that reads anything. -/
theorem matches_rep_cons_iff {min : Nat} {max? : Option Nat} (hbounds : ∀ max ∈ max?, min ≤ max)
    {isFree : Bool} (hfree : isFree = true ↔ p.Matches before [] (some c)) :
    (rep p min max?).Matches before (c :: s) after ↔ max? ≠ some 0 ∧
      ∃ u v, s = u ++ v ∧ p.Matches before (c :: u) (firstOf v after) ∧
        (remaining p min max? isFree).Matches (lastOf (some c) u) v after := by
  simp only [matches_rep, rounds_cons_iff, matches_remaining_iff hbounds]
  constructor
  · rintro ⟨count, hmin, hmax, idle, later, rfl, hidle, u, v, hcut, hround, hlater⟩
    refine ⟨?_, u, v, hcut, hround, later, fun hbusy => ?_, fun max h => ?_, hlater⟩
    · rintro rfl
      have hnone := hmax 0 rfl
      omega
    · have hfirst : idle = 0 := by
        by_contra hne
        rw [hfree.2 (hidle hne)] at hbusy
        cases hbusy
      omega
    · have hcount := hmax max h
      omega
  · rintro ⟨hsome, u, v, hcut, hround, later, hmin, hmax, hlater⟩
    have hroom : ∀ max ∈ max?, later + 1 ≤ max := by
      intro max h
      have hle := hmax max h
      have hne : max ≠ 0 := fun hzero => hsome (by rw [← hzero]; exact h)
      omega
    -- idle rounds fill up what is missing to the least number
    refine ⟨(min - (later + 1)) + (later + 1), by omega, fun max h => ?_, min - (later + 1), later,
      rfl, fun hidle => hfree.1 ?_, u, v, hcut, hround, hlater⟩
    · have hle := hroom max h
      have hle' := hbounds max h
      omega
    · by_contra hbusy
      have hle := hmin (Bool.eq_false_iff.2 hbusy)
      omega

theorem exists_mem_thenMatch_iff {rs : List Pattern}
    (h : ∀ {s : List Char} {after : Option Char},
      (∃ r ∈ rs, r.Matches (some c) s after) ↔ p.Matches before (c :: s) after) :
    (∃ r ∈ rs.map (·.thenMatch q), r.Matches (some c) s after) ↔
      ∃ u v, s = u ++ v ∧ p.Matches before (c :: u) (firstOf v after) ∧
        q.Matches (lastOf (some c) u) v after := by
  constructor
  · rintro ⟨r, hr, hmatches⟩
    obtain ⟨r', hr', rfl⟩ := List.mem_map.1 hr
    obtain ⟨u, v, hcut, hfirst, hsecond⟩ := (same_thenMatch r' q _ _ _).1 hmatches
    exact ⟨u, v, hcut, h.1 ⟨r', hr', hfirst⟩, hsecond⟩
  · rintro ⟨u, v, hcut, hfirst, hsecond⟩
    obtain ⟨r, hr, hfirst⟩ := h.2 hfirst
    exact ⟨_, List.mem_map_of_mem hr, (same_thenMatch r q _ _ _).2 ⟨u, v, hcut, hfirst, hsecond⟩⟩

/-- The patterns that remain match what follows exactly if the pattern matches it behind the
character. -/
theorem exists_mem_steps_iff (hp : p.IsBounded) :
    (∃ r ∈ p.steps before c, r.Matches (some c) s after) ↔ p.Matches before (c :: s) after := by
  induction p generalizing s after with
  | empty => simp [steps, matches_empty]
  | chars set =>
    unfold steps
    rw [matches_chars]
    have hchar : (∃ d, c :: s = [d] ∧ set.contains d.toNat = true) ↔
        s = [] ∧ set.contains c.toNat = true := by
      constructor
      · rintro ⟨d, ⟨rfl, rfl⟩, hd⟩
        exact ⟨rfl, hd⟩
      · rintro ⟨rfl, hc⟩
        exact ⟨c, rfl, hc⟩
    rw [hchar]
    by_cases hset : set.contains c.toNat <;> simp [hset, matches_empty]
  | anchor a => simp [steps, matches_anchor]
  | seq p q ihp ihq =>
    have hsecond : (∃ r ∈ (if p.nullable before (some c) then q.steps before c else []),
        r.Matches (some c) s after) ↔
        p.Matches before [] (some c) ∧ q.Matches before (c :: s) after := by
      rw [← nullable_iff hp.1, ← ihq hp.2]
      by_cases hnull : p.nullable before (some c) <;> simp [hnull]
    unfold steps
    rw [matches_seq, exists_cut_cons_iff, firstOf_cons, lastOf_nil, ← hsecond]
    simp only [List.mem_append, or_and_right, exists_or]
    rw [exists_mem_thenMatch_iff (ihp hp.1), or_comm]
    rfl
  | alt p q ihp ihq =>
    unfold steps
    simp only [List.mem_append, or_and_right, exists_or]
    rw [matches_alt, ihp hp.1, ihq hp.2]
  | rep p min max? ih =>
    rw [matches_rep_cons_iff hp.2 (nullable_iff hp.1), steps]
    by_cases hzero : max? = some 0
    · simp [hzero]
    · simp only [beq_iff_eq, hzero, if_false]
      rw [exists_mem_thenMatch_iff (ih hp.1)]
      exact (and_iff_right hzero).symm

theorem isBounded_thenMatch (hp : p.IsBounded) (hq : q.IsBounded) : (p.thenMatch q).IsBounded := by
  cases p with
  | empty => exact hq
  | _ => exact ⟨hp, hq⟩

theorem isBounded_remaining {min : Nat} {max? : Option Nat} (hp : p.IsBounded)
    (hbounds : ∀ max ∈ max?, min ≤ max) (isFree : Bool) :
    (remaining p min max? isFree).IsBounded := by
  unfold remaining
  cases max? with
  | none => exact ⟨hp, by simp⟩
  | some max =>
    have hmin : min ≤ max := hbounds max rfl
    by_cases hmax : max ≤ 1
    · simp only [hmax, if_true]
      trivial
    · simp only [hmax, if_false]
      refine ⟨hp, ?_⟩
      rintro m ⟨⟩
      cases isFree
      · simp
        omega
      · simp

theorem isBounded_of_mem_steps (hp : p.IsBounded) : ∀ r ∈ p.steps before c, r.IsBounded := by
  have hmap {q : Pattern} {rs : List Pattern} (hrs : ∀ r ∈ rs, r.IsBounded) (hq : q.IsBounded) :
      ∀ r ∈ rs.map (·.thenMatch q), r.IsBounded := by
    intro r hr
    obtain ⟨r', hr', rfl⟩ := List.mem_map.1 hr
    exact isBounded_thenMatch (hrs r' hr') hq
  induction p with
  | empty => simp [steps]
  | chars set =>
    unfold steps
    by_cases hset : set.contains c.toNat
    · simp [hset, IsBounded]
    · simp [hset]
  | anchor a => simp [steps]
  | seq p q ihp ihq =>
    unfold steps
    refine List.forall_mem_append.2 ⟨hmap (ihp hp.1) hp.2, ?_⟩
    by_cases hnull : p.nullable before (some c)
    · simpa [hnull] using ihq hp.2
    · simp [hnull]
  | alt p q ihp ihq =>
    unfold steps
    exact List.forall_mem_append.2 ⟨ihp hp.1, ihq hp.2⟩
  | rep p min max? ih =>
    unfold steps
    by_cases hzero : max? = some 0
    · simp [hzero]
    · simp only [beq_iff_eq, hzero, if_false]
      exact hmap (ih hp.1) (isBounded_remaining hp.1 hp.2 _)

/-! ## Search -/

/-- The pattern matches a text at the start of `s`, which stands behind `before`. -/
def MatchesStart (p : Pattern) (before : Option Char) (s : List Char) : Prop :=
  ∃ u v, s = u ++ v ∧ p.Matches before u (firstOf v none)

theorem matchesStart_nil_iff (hp : p.IsBounded) :
    p.MatchesStart before [] ↔ p.nullable before none = true := by
  rw [nullable_iff hp]
  exact exists_cut_nil_iff

theorem matchesStart_cons_iff (hp : p.IsBounded) : p.MatchesStart before (c :: s) ↔
    p.nullable before (some c) = true ∨ ∃ r ∈ p.steps before c, r.MatchesStart (some c) s := by
  rw [nullable_iff hp]
  refine exists_cut_cons_iff.trans (or_congr Iff.rfl ?_)
  constructor
  · rintro ⟨u, v, hcut, hmatches⟩
    obtain ⟨r, hr, hmatches⟩ := (exists_mem_steps_iff hp).2 hmatches
    exact ⟨r, hr, u, v, hcut, hmatches⟩
  · rintro ⟨r, hr, u, v, hcut, hmatches⟩
    exact ⟨u, v, hcut, (exists_mem_steps_iff hp).1 ⟨r, hr, hmatches⟩⟩

/-- The search finds what it has begun, or the pattern at a place that it has not passed. -/
theorem searchFrom_iff {begun : List Pattern} (hp : p.IsBounded)
    (hbegun : ∀ q ∈ begun, q.IsBounded) : searchFrom p before begun s = true ↔
      (∃ q ∈ begun, q.MatchesStart before s) ∨
        ∃ t rest, s = t ++ rest ∧ p.MatchesStart (lastOf before t) rest := by
  have hall {begun : List Pattern} {q : Pattern} (hbegun : ∀ q ∈ begun, q.IsBounded)
      (hq : q ∈ p :: begun) : q.IsBounded := by
    rcases List.mem_cons.1 hq with rfl | hq
    · exact hp
    · exact hbegun q hq
  -- the pattern may be begun here, or found at a later place
  have hstart {P : Prop} {begun : List Pattern} {before : Option Char} {s : List Char} :
      ((∃ q ∈ begun, q.MatchesStart before s) ∨ p.MatchesStart before s ∨ P) ↔
        (∃ q ∈ p :: begun, q.MatchesStart before s) ∨ P := by
    rw [List.exists_mem_cons_iff, ← or_assoc, or_comm (a := ∃ q ∈ begun, _)]
  induction s generalizing before begun with
  | nil =>
    rw [searchFrom, exists_cut_nil_iff, lastOf_nil, List.any_eq_true, or_comm,
      ← List.exists_mem_cons_iff (fun q : Pattern => q.MatchesStart before [])]
    refine exists_congr fun q => and_congr_right fun hq => ?_
    rw [matchesStart_nil_iff (hall hbegun hq)]
  | cons c s ih =>
    rw [searchFrom, exists_cut_cons_iff, lastOf_nil, hstart]
    have hrest : ∀ r ∈ ((p :: begun).flatMap (steps before c)).eraseDups, r.IsBounded := by
      intro r hr
      obtain ⟨q, hq, hr⟩ := List.mem_flatMap.1 (List.mem_eraseDups.1 hr)
      exact isBounded_of_mem_steps (hall hbegun hq) r hr
    rw [Bool.or_eq_true, List.any_eq_true]
    refine (or_congr Iff.rfl (ih hrest)).trans (or_assoc.symm.trans (or_congr ?_ Iff.rfl))
    simp only [List.mem_eraseDups, List.mem_flatMap]
    constructor
    · rintro (⟨q, hq, hnull⟩ | ⟨r, ⟨q, hq, hr⟩, hmatches⟩)
      · exact ⟨q, hq, (matchesStart_cons_iff (hall hbegun hq)).2 (.inl hnull)⟩
      · exact ⟨q, hq, (matchesStart_cons_iff (hall hbegun hq)).2 (.inr ⟨r, hr, hmatches⟩)⟩
    · rintro ⟨q, hq, hmatches⟩
      rcases (matchesStart_cons_iff (hall hbegun hq)).1 hmatches with hnull | ⟨r, hr, hmatches⟩
      · exact .inl ⟨q, hq, hnull⟩
      · exact .inr ⟨r, ⟨q, hq, hr⟩, hmatches⟩

/-- The search finds a match exactly if there is one at some place of the text. -/
theorem search_iff (hp : p.IsBounded) {text : String} : p.search text = true ↔
    ∃ t u v, text.toList = t ++ (u ++ v) ∧ p.Matches (lastOf none t) u (firstOf v none) := by
  unfold search
  rw [searchFrom_iff hp (List.forall_mem_nil _)]
  constructor
  · rintro (⟨q, hq, -⟩ | ⟨t, rest, htext, u, v, rfl, hmatches⟩)
    · cases hq
    · exact ⟨t, u, v, htext, hmatches⟩
  · rintro ⟨t, u, v, htext, hmatches⟩
    exact .inr ⟨t, u ++ v, htext, u, v, rfl, hmatches⟩

theorem Same.search_eq (h : p.Same q) (hp : p.IsBounded) (hq : q.IsBounded) (text : String) :
    p.search text = q.search text := by
  rw [Bool.eq_iff_iff, search_iff hp, search_iff hq]
  simp only [h _ _ _]

end ListingQuery.Regex.Pattern
