import Mathlib.Data.List.Basic
import ListingQuery.Predicate.Matches
import ListingQuery.Proofs.Document.Values
import ListingQuery.Proofs.Predicate.Normal

/-!
# Fan-out along joined paths

A path that goes on behind a list may as well start at its elements.  The values at the joined path
are those of the second part in each element at the first, in the same order:

    d.valuesAt (f ++ g) = (d.elementsAt f).flatMap fun e => e.valuesAt g          (valuesAt_append)

Arrays in arrays, members that are missing and values that no path leads into are no exception: an
array at the end of the first part is opened one level by the elements, and any array that is left is
fanned out by the second part.

A test that asks for some value at its path therefore means the same in the scope of a list and at
the joined path; the tests that hold where there is no value do not            (fan_out_composes).
-/

namespace ListingQuery

namespace Json

/-! ## Values at joined paths -/

/-- A key is looked up once. -/
theorem valuesAtKey_eq (members : List (String × Json)) (key : String) (rest : FieldPath) :
    valuesAtKey members key rest =
      ((Keyed.get? members key).map fun v => v.valuesAt rest).getD [] := by
  induction members with
  | nil => rfl
  | cons m members ih =>
    obtain ⟨k, v⟩ := m
    rw [valuesAtKey, Keyed.get?]
    split
    · rfl
    · exact ih

/-- A path that goes on goes on in the elements of a value. -/
theorem valuesAt_eq_flatMap_elements (v : Json) {path : FieldPath} (hne : path ≠ []) :
    v.valuesAt path = v.elements.flatMap fun e => e.valuesAt path := by
  obtain ⟨key, rest, rfl⟩ := List.exists_cons_of_ne_nil hne
  cases v with
  | array items => exact valuesAtEach_eq_flatMap items (key :: rest)
  | _ => exact (List.flatMap_singleton ..).symm

/-- The second part of a path goes on in each value at the first. -/
theorem valuesAt_append_values (d : Json) : ∀ f g : FieldPath,
    d.valuesAt (f ++ g) = (d.valuesAt f).flatMap fun v => v.valuesAt g := by
  -- the path gets shorter in objects only, the value in arrays as well
  induction d using jsonInduction with
  | null | bool | number | string =>
    intro f g
    cases f with
    | nil => rw [json_valuesAt_nil, List.flatMap_singleton, List.nil_append]
    | cons key rest => rfl
  | array items ih =>
    intro f g
    cases f with
    | nil => rw [json_valuesAt_nil, List.flatMap_singleton, List.nil_append]
    | cons key rest =>
      show valuesAtEach items (key :: (rest ++ g)) = (valuesAtEach items (key :: rest)).flatMap _
      rw [valuesAtEach_eq_flatMap, valuesAtEach_eq_flatMap, List.flatMap_assoc]
      exact List.flatMap_congr fun v hv => ih v hv (key :: rest) g
  | object members ih =>
    intro f g
    cases f with
    | nil => rw [json_valuesAt_nil, List.flatMap_singleton, List.nil_append]
    | cons key rest =>
      show valuesAtKey members key (rest ++ g) = (valuesAtKey members key rest).flatMap _
      rw [valuesAtKey_eq, valuesAtKey_eq]
      cases h : Keyed.get? members key with
      | none => rfl
      | some v => exact ih _ (Keyed.mem_of_get?_eq_some h) rest g

/-- The second part of a path goes on in each element at the first. -/
theorem valuesAt_append (d : Json) (f : FieldPath) {g : FieldPath} (hg : g ≠ []) :
    d.valuesAt (f ++ g) = (d.elementsAt f).flatMap fun e => e.valuesAt g := by
  rw [valuesAt_append_values, elementsAt, List.flatMap_assoc]
  exact List.flatMap_congr fun v _ => valuesAt_eq_flatMap_elements v hg

end Json

namespace Predicate

/-! ## Tests that ask for a value -/

/-- Whether the predicate is a test that needs some value at its path. -/
def isExistential : Predicate → Bool
  | compare _ op _ => op != .ne
  | among .. => true
  | like .. => true
  | regex .. => true
  | contains .. => true
  | present _ wanted => wanted
  | isEmpty _ => true
  | _ => false

/-- The same test of the field at another path. -/
def onField (field : FieldPath) : Predicate → Predicate
  | compare _ op value => compare field op value
  | among _ values => among field values
  | notAmong _ values => notAmong field values
  | like _ pattern => like field pattern
  | regex _ pattern => regex field pattern
  | contains _ needle => contains field needle
  | present _ wanted => present field wanted
  | isNull _ => isNull field
  | isEmpty _ => isEmpty field
  | p => p

/-- Asking some of the elements at a path is asking some of those of each value there. -/
theorem any_elementsAt (d : Json) (path : FieldPath) (passes : Json → Bool) :
    (d.elementsAt path).any passes =
      (d.valuesAt path).any fun v => (v.elementsAt []).any passes := by
  have hself (v : Json) : v.elementsAt [] = v.elements := by
    rw [Json.elementsAt, json_valuesAt_nil, List.flatMap_singleton]
  simp only [hself]
  exact List.any_flatMap

/-- A comparison other than by `ne` asks the elements one by one. -/
theorem exists_comparesAny_eq_any {op : Comparison} (hne : op ≠ .ne) (value : Literal) :
    ∃ passes, ∀ found, comparesAny found op value = found.any passes := by
  cases op with
  | ne => exact absurd rfl hne
  | _ => exact ⟨_, fun _ => rfl⟩

/-- An existential test holds at a path if it holds of some value there by itself. -/
theorem holds_onField {p : Predicate} (h : p.isExistential = true) (path : FieldPath) (d : Json) :
    (p.onField path).holds d = (d.valuesAt path).any fun v => (p.onField []).holds v := by
  cases p with
  | compare field op value =>
    obtain ⟨passes, hpasses⟩ := exists_comparesAny_eq_any (bne_iff_ne.1 h) value
    simp only [onField, holds, hpasses]
    exact any_elementsAt d path passes
  | among field values => exact any_elementsAt d path _
  | like field pattern => exact any_elementsAt d path _
  | regex field pattern =>
    simp only [onField, holds]
    cases Regex.Pattern.ofText? pattern with
    | none => simp
    | some regex => exact any_elementsAt d path _
  | contains field needle => exact any_elementsAt d path _
  | present field wanted =>
    obtain rfl : wanted = true := h
    simp only [onField, holds, json_valuesAt_nil]
    cases d.valuesAt path <;> rfl
  | isEmpty field =>
    simp only [onField, holds, json_valuesAt_nil, List.any_cons, List.any_nil, Bool.or_false]
  | _ => cases h

/-- In the scope of a list, an existential test means what it means at the joined path. -/
theorem nested_onField_holds {p : Predicate} (h : p.isExistential = true) (f : FieldPath)
    {g : FieldPath} (hg : g ≠ []) (d : Json) :
    (nested f (p.onField g)).holds d = (p.onField (f ++ g)).holds d := by
  calc (nested f (p.onField g)).holds d
      = (d.elementsAt f).any fun e => (e.valuesAt g).any fun v => (p.onField []).holds v :=
        congrArg (d.elementsAt f).any (funext fun e => holds_onField h g e)
    _ = ((d.elementsAt f).flatMap fun e => e.valuesAt g).any fun v => (p.onField []).holds v :=
        List.any_flatMap.symm
    _ = (p.onField (f ++ g)).holds d := by
        rw [holds_onField h, Json.valuesAt_append d f hg]

/-- The tests that are not existential hold where there is nothing at their path. -/
theorem holds_of_valuesAt_eq_nil {p : Predicate} (htest : p.isTest = true)
    (h : p.isExistential = false) {path : FieldPath} {d : Json} (hnone : d.valuesAt path = []) :
    (p.onField path).holds d = true := by
  have helements : d.elementsAt path = [] := by rw [Json.elementsAt, hnone, List.flatMap_nil]
  cases p with
  | compare field op value =>
    obtain rfl : op = .ne := bne_eq_false_iff_eq.1 h
    rw [onField, holds, helements]
    rfl
  | notAmong field values =>
    rw [onField, holds, helements]
    rfl
  | present field wanted =>
    obtain rfl : wanted = false := h
    rw [onField, holds, hnone]
    rfl
  | isNull field =>
    rw [onField, holds, hnone]
    rfl
  | among | like | regex | contains | isEmpty => cases h
  | _ => cases htest

/-- The values at a joined path are found by fanning out twice.  A test that asks for some value
means the same in the scope of a list and at the joined path; for any other test, the two differ on
every document without the list. -/
theorem fan_out_composes :
    (∀ (d : Json) (f g : FieldPath), g ≠ [] →
      d.valuesAt (f ++ g) = (d.elementsAt f).flatMap fun e => e.valuesAt g) ∧
    (∀ p : Predicate, p.isExistential = true → ∀ (f g : FieldPath), g ≠ [] → ∀ d : Json,
      (nested f (p.onField g)).holds d = (p.onField (f ++ g)).holds d) ∧
    (∀ p : Predicate, p.isTest = true → p.isExistential = false → ∀ (f g : FieldPath), g ≠ [] →
      ∀ d : Json, d.valuesAt f = [] →
        (nested f (p.onField g)).holds d = false ∧ (p.onField (f ++ g)).holds d = true) := by
  refine ⟨fun d f g hg => d.valuesAt_append f hg,
    fun p h f g hg d => nested_onField_holds h f hg d, ?_⟩
  intro p htest h f g hg d hnone
  have helements : d.elementsAt f = [] := by rw [Json.elementsAt, hnone, List.flatMap_nil]
  refine ⟨by rw [holds, helements]; rfl, holds_of_valuesAt_eq_nil htest h ?_⟩
  rw [Json.valuesAt_append d f hg, helements, List.flatMap_nil]

/-- Rounds of a game, one of them a list itself, and entries that are no round. -/
def raggedRounds : Json := .object [("rounds", .array [
  .array [.object [("score", .ofInt 1)],
    .object [("score", .array [.ofInt 2, .array [.ofInt 3]])]],
  .null, .object [("score", .null)], .object []])]

/-- The scores of all rounds are found one after the other, and one of them is 2; without a list of
games no game has scored 2, but neither is there one that has not. -/
theorem raggedRounds_fan_out :
    raggedRounds.valuesAt ["rounds", "score"] =
      ((raggedRounds.elementsAt ["rounds"]).flatMap fun e => e.valuesAt ["score"]) ∧
    raggedRounds.valuesAt ["rounds", "score"] =
      [.ofInt 1, .array [.ofInt 2, .array [.ofInt 3]], .null] ∧
    (nested ["rounds"] (compare ["score"] .eq (.integer 2))).holds raggedRounds =
      (compare ["rounds", "score"] .eq (.integer 2)).holds raggedRounds ∧
    (compare ["rounds", "score"] .eq (.integer 2)).holds raggedRounds = true ∧
    (nested ["games"] (notAmong ["score"] [.integer 2])).holds raggedRounds = false ∧
    (notAmong ["games", "score"] [.integer 2]).holds raggedRounds = true := by
  obtain ⟨hvalues, hsame, hother⟩ := fan_out_composes
  have hscore : (["score"] : FieldPath) ≠ [] := List.cons_ne_nil _ _
  exact ⟨hvalues raggedRounds ["rounds"] ["score"] hscore, rfl,
    hsame (compare ["score"] .eq (.integer 2)) rfl ["rounds"] ["score"] hscore raggedRounds, rfl,
    hother (notAmong ["score"] [.integer 2]) rfl rfl ["games"] ["score"] hscore raggedRounds rfl⟩

end Predicate

end ListingQuery
