import ListingQuery.Regex.CharSet
import ListingQuery.Text.Lower
import Mathlib.Data.List.Basic

/-!
# Texts of ASCII

On ASCII the lower-case form is taken character by character, and the characters that fold together
are those with the same small letter.  Two letters fold together with a character outside of ASCII
as well, so this holds only between characters that are both inside.
-/

namespace ListingQuery

/-- The text has only characters of ASCII. -/
def IsAscii (cs : List Char) : Prop := ∀ c ∈ cs, c.toNat < 0x80

-- the list is gone through, and not all characters that there are
instance (cs : List Char) : Decidable (IsAscii cs) :=
  @List.decidableBAll _ (fun c : Char => c.toNat < 0x80) _ cs

/-- The same character, up to the case of letters of ASCII. -/
def SameLetter (a c : Char) : Prop := a.toLower = c.toLower

theorem isAscii_cons {c : Char} {cs : List Char} :
    IsAscii (c :: cs) ↔ c.toNat < 0x80 ∧ IsAscii cs := List.forall_mem_cons

theorem isAscii_append {cs ds : List Char} : IsAscii (cs ++ ds) ↔ IsAscii cs ∧ IsAscii ds :=
  List.forall_mem_append

theorem toNat_toLower (c : Char) :
    c.toLower.toNat = if 0x41 ≤ c.toNat ∧ c.toNat ≤ 0x5A then c.toNat + 32 else c.toNat := by
  have hcapital : (c.val ≥ 'A'.val ∧ c.val ≤ 'Z'.val) ↔ 0x41 ≤ c.toNat ∧ c.toNat ≤ 0x5A := by
    rw [ge_iff_le, UInt32.le_iff_toNat_le, UInt32.le_iff_toNat_le]
    exact Iff.rfl
  unfold Char.toLower
  by_cases h : 0x41 ≤ c.toNat ∧ c.toNat ≤ 0x5A
  · rw [dif_pos (hcapital.2 h), if_pos h]
    show (c.val + ('a'.val - 'A'.val)).toNat = c.toNat + 32
    rw [UInt32.toNat_add]
    show (c.toNat + 32) % 2 ^ 32 = c.toNat + 32
    omega
  · rw [dif_neg (mt hcapital.1 h), if_neg h]

/-- A character that is no letter is the same as itself only. -/
theorem toLower_eq_iff {a c : Char} (ha : ¬(0x41 ≤ a.toNat ∧ a.toNat ≤ 0x5A))
    (ha' : ¬(0x61 ≤ a.toNat ∧ a.toNat ≤ 0x7A)) : c.toLower = a ↔ c = a := by
  rw [← Char.toNat_inj, ← Char.toNat_inj, toNat_toLower]
  split <;> omega

namespace Unicode

/-- Capital letters of ASCII are the first run of the case folding and its only one inside. -/
theorem foldingRuns_eq_cons :
    foldingRuns = ⟨0x41, 0x5A, 1, 0x61⟩ :: foldingRuns.tail ∧
      ∀ r ∈ foldingRuns.tail, 0x80 ≤ r.first := ⟨rfl, by decide +kernel⟩

theorem fold_of_ascii {n : Nat} (hn : n < 0x80) :
    fold n = if 0x41 ≤ n ∧ n ≤ 0x5A then n + 32 else n := by
  obtain ⟨hruns, houtside⟩ := foldingRuns_eq_cons
  have htail : foldingRuns.tail.findSome? (·.image? n) = none := by
    rw [List.findSome?_eq_none_iff]
    intro r hr
    have hfirst := houtside r hr
    unfold CaseRun.image?
    rw [if_neg (by omega)]
  unfold fold CaseRun.map
  rw [hruns, List.findSome?_cons, htail]
  unfold CaseRun.image?
  by_cases h : 0x41 ≤ n ∧ n ≤ 0x5A
  · have hrun : 0x41 ≤ n ∧ n ≤ 0x5A ∧ (n - 0x41) % 1 = 0 := ⟨h.1, h.2, Nat.mod_one _⟩
    rw [if_pos hrun, if_pos h]
    show 0x61 + (n - 0x41) = n + 32
    omega
  · have hrun : ¬(0x41 ≤ n ∧ n ≤ 0x5A ∧ (n - 0x41) % 1 = 0) := fun hrun => h ⟨hrun.1, hrun.2.1⟩
    rw [if_neg hrun, if_neg h]
    rfl

theorem mem_orbit_iff {m n : Nat} (hm : m < 0x80) (hn : n < 0x80) :
    m ∈ orbit n ↔ fold m = fold n := by
  obtain ⟨hruns, houtside⟩ := foldingRuns_eq_cons
  have htail : m ∉ foldingRuns.tail.filterMap (·.origin? (fold n)) := by
    intro h
    obtain ⟨r, hr, horigin⟩ := List.mem_filterMap.1 h
    have hfirst := houtside r hr
    unfold CaseRun.origin? at horigin
    split at horigin
    · cases horigin
      omega
    · cases horigin
  have hmem : m ∈ orbit n ↔
      m = n ∨ m = fold n ∨ CaseRun.origin? ⟨0x41, 0x5A, 1, 0x61⟩ (fold n) = some m := by
    show m ∈ n :: fold n :: foldingRuns.filterMap (·.origin? (fold n)) ↔ _
    rw [hruns, List.filterMap_cons]
    cases CaseRun.origin? ⟨0x41, 0x5A, 1, 0x61⟩ (fold n) <;> simp [htail, eq_comm]
  have horigin : CaseRun.origin? ⟨0x41, 0x5A, 1, 0x61⟩ (fold n) = some m ↔
      0x61 ≤ fold n ∧ fold n ≤ 0x7A ∧ m + 32 = fold n := by
    simp only [CaseRun.origin?]
    split
    · rw [Option.some.injEq]
      omega
    · simp only [reduceCtorEq, false_iff]
      omega
  rw [hmem, horigin, fold_of_ascii hm, fold_of_ascii hn]
  split <;> split <;> omega

/-- No other character has the backslash as its lower-case form. -/
theorem toLower_eq_backslash {c : Char} (h : toLower c = '\\') : c = '\\' := by
  have himages : ∀ r ∈ lowercaseRuns, 0x61 ≤ r.image := by decide +kernel
  unfold toLower at h
  split at h
  · exact (toLower_eq_iff (by decide) (by decide)).1 h
  · next hc =>
    have hlarge : 0x61 ≤ CaseRun.map lowercaseRuns c.toNat := by
      unfold CaseRun.map
      cases hrun : lowercaseRuns.findSome? (·.image? c.toNat) with
      | none =>
        show 0x61 ≤ c.toNat
        omega
      | some image =>
        obtain ⟨r, hr, himage⟩ := List.exists_of_findSome?_eq_some hrun
        have hleast := himages r hr
        unfold CaseRun.image? at himage
        split at himage
        · cases himage
          show 0x61 ≤ r.image + _
          omega
        · cases himage
    by_cases hvalid : (CaseRun.map lowercaseRuns c.toNat).isValidChar
    · rw [Char.ofNat, dif_pos hvalid] at h
      have hcode : CaseRun.map lowercaseRuns c.toNat = 0x5C := congrArg Char.toNat h
      omega
    · rw [Char.ofNat, dif_neg hvalid] at h
      cases h

end Unicode

/-- Characters of ASCII fold together if they are the same letter. -/
theorem contains_folded_single_iff {a c : Char} (ha : a.toNat < 0x80) (hc : c.toNat < 0x80) :
    (Regex.CharSet.folded (.single a)).contains c.toNat = true ↔ SameLetter a c := by
  have hsingle (n : Nat) : (Regex.CharSet.single a).contains n = true ↔ n = a.toNat := by
    unfold Regex.CharSet.single Regex.CharSet.contains
    rw [Bool.and_eq_true, decide_eq_true_iff, decide_eq_true_iff]
    omega
  have hmem : (Regex.CharSet.folded (.single a)).contains c.toNat = true ↔
      a.toNat ∈ Unicode.orbit c.toNat := by
    unfold Regex.CharSet.contains
    rw [List.any_eq_true]
    constructor
    · rintro ⟨n, hn, hcontains⟩
      rw [← (hsingle n).1 hcontains]
      exact hn
    · exact fun h => ⟨a.toNat, h, (hsingle _).2 rfl⟩
  rw [hmem, Unicode.mem_orbit_iff ha hc, Unicode.fold_of_ascii ha, Unicode.fold_of_ascii hc,
    ← toNat_toLower, ← toNat_toLower, Char.toNat_inj]
  rfl

namespace Text

theorem lowerBehind_of_isAscii {cs : List Char} (h : IsAscii cs) (before : List Char) :
    lowerBehind before cs = cs.map Char.toLower := by
  induction cs generalizing before with
  | nil => rfl
  | cons c cs ih =>
    obtain ⟨hc, hcs⟩ := isAscii_cons.1 h
    have hsigma : c ≠ 'Σ' := by
      rintro rfl
      exact absurd hc (by decide)
    have hdotted : c ≠ 'İ' := by
      rintro rfl
      exact absurd hc (by decide)
    rw [lowerBehind, lowerAt, if_neg hsigma, if_neg hdotted, Unicode.toLower, if_pos hc, ih hcs]
    rfl

theorem lowerChars_of_isAscii {cs : List Char} (h : IsAscii cs) :
    lowerChars cs = cs.map Char.toLower := lowerBehind_of_isAscii h []

end Text

end ListingQuery
