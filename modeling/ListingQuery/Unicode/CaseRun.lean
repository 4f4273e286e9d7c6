/-!
# Runs of a case map

Case maps of Unicode send long runs of characters, all of them or every other one, to runs of the
same shape.  A `CaseRun` is one such pair of runs; a case map is a list of them.
-/

namespace ListingQuery.Unicode

/-- The code points `first, first + step, …, last` and the images `image, image + step, …`. -/
structure CaseRun where
  first : Nat
  last : Nat
  step : Nat
  image : Nat

namespace CaseRun

/-! ## Algorithm -/

/-- The image of a code point in the run. -/
def image? (r : CaseRun) (n : Nat) : Option Nat :=
  if r.first ≤ n ∧ n ≤ r.last ∧ (n - r.first) % r.step = 0 then some (r.image + (n - r.first))
  else none

/-- The code point of the run with this image. -/
def origin? (r : CaseRun) (n : Nat) : Option Nat :=
  if r.image ≤ n ∧ n - r.image ≤ r.last - r.first ∧ (n - r.image) % r.step = 0 then
    some (r.first + (n - r.image))
  else none

/-- The image of a code point under a case map; a code point in no run stands for itself. -/
def map (runs : List CaseRun) (n : Nat) : Nat := (runs.findSome? (·.image? n)).getD n

end CaseRun

end ListingQuery.Unicode
