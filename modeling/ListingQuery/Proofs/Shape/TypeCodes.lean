import ListingQuery.Proofs.Text.Blank
import ListingQuery.Shape.NativeType

/-!
# Codes of native types

The grammar of type codes, and that it is exactly what is read:

    code  ::=  blanks scalar blanks  |  blanks array< code > blanks

    ofCode? t.code = some t
    ofCode? s = some t ↔ Describes s t                            (codes_form_grammar)

The codes of the scalars are listed here once more, so that the printer and the reader are both
compared with the same list.
-/

namespace ListingQuery.NativeType

/-! ## Grammar -/

/-- The scalar codes and what they stand for. -/
def scalarCodes : List (String × NativeType) :=
  [("string", string), ("char", char), ("i8", i8), ("i16", i16), ("i32", i32), ("i64", i64),
    ("isize", isize), ("u8", u8), ("u16", u16), ("u32", u32), ("u64", u64), ("usize", usize),
    ("f32", f32), ("f64", f64), ("bool", bool), ("date", date), ("datetime", datetime)]

/-- The texts that describe a type. -/
inductive Describes : String → NativeType → Prop
  | scalar {s code : String} {t : NativeType} (listed : (code, t) ∈ scalarCodes)
      (padded : Text.IsPadded code s) : Describes s t
  | array {s inner : String} {t : NativeType} (element : Describes inner t)
      (padded : Text.IsPadded ("array<" ++ inner ++ ">") s) : Describes s (array t)

/-- The scalars are printed as they are listed. -/
theorem mem_scalarCodes_iff {code : String} {t : NativeType} :
    (code, t) ∈ scalarCodes ↔ t ∈ scalars ∧ t.code = code := by
  have hprinted : scalarCodes = scalars.map fun t => (t.code, t) := rfl
  simp only [hprinted, List.mem_map, Prod.mk.injEq, exists_eq_right_right]

/-- Every type is described by its own code. -/
theorem describes_code (t : NativeType) : Describes t.code t := by
  induction t with
  | array element ih => exact .array ih (Text.isPadded_self _)
  | _ => exact .scalar (mem_scalarCodes_iff.2 ⟨by decide, rfl⟩) (Text.isPadded_self _)

/-! ## Trimmed codes -/

theorem trim_scalarCode {code : String} {t : NativeType} (h : (code, t) ∈ scalarCodes) :
    Text.trim code = code := by
  have hall : ∀ p ∈ scalarCodes, Text.trim p.1 = p.1 := by decide +kernel
  exact hall (code, t) h

theorem trim_arrayCode (inner : String) :
    Text.trim ("array<" ++ inner ++ ">") = "array<" ++ inner ++ ">" := by
  have hhead : ("array<" ++ inner ++ ">").toList.head? = some 'a' := by simp
  have hlast : ("array<" ++ inner ++ ">").toList.getLast? = some '>' := by
    rw [String.toList_append]
    exact List.getLast?_concat
  rw [Text.trim, Text.trimChars_eq_self_of_ends hhead hlast (by decide) (by decide),
    String.ofList_toList]

/-- The grammar read from the outside, where blanks are taken off first. -/
theorem describes_iff {s : String} {t : NativeType} :
    Describes s t ↔ (Text.trim s, t) ∈ scalarCodes ∨
      ∃ inner u, Text.trim s = "array<" ++ inner ++ ">" ∧ Describes inner u ∧ t = array u := by
  constructor
  · intro h
    cases h with
    | scalar listed padded =>
      rw [(Text.isPadded_iff (trim_scalarCode listed)).1 padded]
      exact .inl listed
    | array element padded =>
      exact .inr ⟨_, _, (Text.isPadded_iff (trim_arrayCode _)).1 padded, element, rfl⟩
  · rintro (listed | ⟨inner, u, htrim, element, rfl⟩)
    · exact .scalar listed ((Text.isPadded_iff (trim_scalarCode listed)).2 rfl)
    · exact .array element ((Text.isPadded_iff (trim_arrayCode inner)).2 htrim)

/-! ## Reading -/

theorem elementCode?_eq_some_iff {code inner : List Char} :
    elementCode? code = some inner ↔ code = "array<".toList ++ inner ++ ">".toList := by
  rw [elementCode?]
  split
  · next hprefix =>
    obtain ⟨rest, rfl⟩ := List.isPrefixOf_iff_prefix.1 hprefix
    have hdrop : ("array<".toList ++ rest).drop 6 = rest := rfl
    rw [hdrop, List.append_assoc, List.append_cancel_left_eq]
    -- the closing bracket is looked for in the rest only
    constructor
    · intro h
      split at h
      · next hlast =>
        cases h
        exact (List.dropLast_append_getLast? '>' hlast).symm
      · cases h
    · rintro rfl
      have hlast : (inner ++ ">".toList).getLast? = some '>' := List.getLast?_concat
      have hbody : (inner ++ ">".toList).dropLast = inner := List.dropLast_concat
      rw [hlast, hbody]
      rfl
  · next hprefix =>
    constructor
    · exact nofun
    · rintro rfl
      rw [List.append_assoc] at hprefix
      exact absurd (List.isPrefixOf_iff_prefix.2 (List.prefix_append ..)) hprefix

/-- The code of an element is what stands between the brackets of an array. -/
theorem elementCode?_eq_toList_iff {code : List Char} {inner : String} :
    elementCode? code = some inner.toList ↔ String.ofList code = "array<" ++ inner ++ ">" := by
  rw [elementCode?_eq_some_iff, ← String.toList_append, ← String.toList_append, ← String.ofList_inj,
    String.ofList_toList]

/-- A scalar is found by its code, as no two have the same one. -/
theorem find?_scalars_eq_some_iff {code : List Char} {t : NativeType} :
    (scalars.find? fun u => u.code.toList == code) = some t ↔
      (String.ofList code, t) ∈ scalarCodes := by
  rw [mem_scalarCodes_iff]
  constructor
  · intro h
    have hcode := List.find?_some h
    rw [beq_iff_eq] at hcode
    exact ⟨List.mem_of_find?_eq_some h, by rw [← hcode, String.ofList_toList]⟩
  · rintro ⟨ht, hcode⟩
    have hall : ∀ u ∈ scalars, (scalars.find? fun v => v.code.toList == u.code.toList) = some u := by
      decide +kernel
    rw [← String.toList_ofList (l := code), ← hcode]
    exact hall t ht

/-- No scalar has the code of an array. -/
theorem elementCode?_scalarCode {code : String} {t : NativeType} (h : (code, t) ∈ scalarCodes) :
    elementCode? code.toList = none := by
  have hall : ∀ p ∈ scalarCodes, elementCode? p.1.toList = none := by decide +kernel
  exact hall (code, t) h

/-- With enough levels to spare, what is read is what the text describes. -/
theorem ofCodeWithin_eq_some_iff {fuel : Nat} {code : List Char} {t : NativeType}
    (hfuel : code.length < fuel) :
    ofCodeWithin fuel code = some t ↔ Describes (String.ofList code) t := by
  induction fuel generalizing code t with
  | zero => omega
  | succ fuel ih =>
    rw [describes_iff, Text.trim, String.toList_ofList, ofCodeWithin]
    cases helement : elementCode? (Text.trimChars code) with
    | none =>
      rw [find?_scalars_eq_some_iff, or_iff_left]
      rintro ⟨inner, u, htrim, -, -⟩
      rw [elementCode?_eq_toList_iff.2 htrim] at helement
      cases helement
    | some inner =>
      have hlength : inner.length < fuel := by
        have htrim := Text.length_trimChars_le code
        rw [elementCode?_eq_some_iff.1 helement, List.length_append, List.length_append] at htrim
        have hbracket : ">".toList.length = 1 := rfl
        omega
      rw [← String.toList_ofList (l := inner)] at helement
      rw [Option.map_eq_some_iff]
      constructor
      · rintro ⟨u, hu, rfl⟩
        exact .inr ⟨_, u, elementCode?_eq_toList_iff.1 helement, (ih hlength).1 hu, rfl⟩
      · rintro (hlisted | ⟨inner', u, htrim, hu, rfl⟩)
        · have hnone := elementCode?_scalarCode hlisted
          rw [String.toList_ofList, helement] at hnone
          cases hnone
        · rw [elementCode?_eq_toList_iff.2 htrim, Option.some_inj, String.toList_inj] at helement
          exact ⟨u, (ih hlength).2 (helement ▸ hu), rfl⟩

/-! ## Main result -/

/-- The code of a type is read as that type, and what is read are exactly the texts of the grammar,
each as the type that it describes. -/
theorem codes_form_grammar :
    (∀ t : NativeType, ofCode? t.code = some t) ∧
    ∀ (s : String) (t : NativeType), ofCode? s = some t ↔ Describes s t := by
  have hread (s : String) (t : NativeType) : ofCode? s = some t ↔ Describes s t := by
    rw [ofCode?, ofCodeWithin_eq_some_iff (Nat.lt_succ_self _), String.ofList_toList]
  exact ⟨fun t => (hread t.code t).2 (describes_code t), hread⟩

-- blanks may stand at every level, but not within the words
example : ofCode? " array< array<u8>\t> " = some (.array (.array .u8)) := by decide +kernel

example : ofCode? "array <u8>" = none := by decide +kernel

end ListingQuery.NativeType
