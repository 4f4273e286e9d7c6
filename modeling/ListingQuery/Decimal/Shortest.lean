/-!
# The fewest decimal digits that read back

A finite double is `m · 2^q` with `m < 2^53`.  The reals that round to it form an interval around it,
ends included exactly when `m` is even; below a power of two the gap is half as wide.  The shortest
decimal is found grid by grid: with `n = 1, 2, …, 17` digits, the two neighbours of the value on the
grid of `n`-digit decimals are tested against the interval, and the first grid with a hit wins.  Of
two hits the nearer one is taken, and an exact tie goes as `Tie` says.

All comparisons are made between natural numbers, over the common denominator `4 · 2^t`.
-/

namespace ListingQuery

/-- The decimal `digits · 10^exponent`. -/
structure Decimal where
  digits : Nat
  exponent : Int
  deriving DecidableEq, Repr

namespace Decimal

/-- Which neighbour is taken when the value lies exactly half way between two. -/
inductive Tie where
  | toEven
  | up
  deriving DecidableEq, Repr

/-- A positive value and the interval of reals that round to it, as numerators over `unit`. -/
structure Rounding where
  value : Nat
  below : Nat
  above : Nat
  unit : Nat
  /-- The ends of the interval belong to it. -/
  closed : Bool

/-! ## Algorithm -/

/-- The interval of the positive finite double with these bits (the sign bit left out). -/
def Rounding.ofBits (bits : Nat) : Rounding :=
  let field : Nat := bits / Nat.pow 2 52
  let fraction := bits % Nat.pow 2 52
  let mantissa := if field = 0 then fraction else fraction + Nat.pow 2 52
  let exponent : Int := if field = 0 then -1074 else (field : Int) - 1075
  let scale := Nat.pow 2 exponent.toNat
  let gap := if fraction = 0 ∧ 1 < field then scale else 2 * scale
  { value := 4 * mantissa * scale
    below := 4 * mantissa * scale - gap
    above := 4 * mantissa * scale + 2 * scale
    unit := 4 * Nat.pow 2 (-exponent).toNat
    closed := mantissa % 2 = 0 }

/-- The number of decimal digits of `n`. -/
def width (n : Nat) : Nat := (Nat.toDigits 10 n).length

/-- The number of digits before the decimal point, negative for leading zeros after it: the `e` with
`10^(e-1) ≤ value < 10^e`.  No double is below `10^-330`. -/
def Rounding.magnitude (r : Rounding) : Int :=
  (width (r.value * Nat.pow 10 330 / r.unit) : Int) - 330

/-- Whether `n · 10^p` rounds to the value. -/
def Rounding.holds (r : Rounding) (n : Nat) (p : Int) : Bool :=
  let point := n * r.unit * Nat.pow 10 p.toNat
  let scale := Nat.pow 10 (-p).toNat
  if r.closed then r.below * scale ≤ point && point ≤ r.above * scale
  else r.below * scale < point && point < r.above * scale

/-- The neighbour of the value on the grid of multiples of `10^p` that rounds to it, if one does. -/
def Rounding.onGrid? (r : Rounding) (tie : Tie) (p : Int) : Option Decimal :=
  let top := r.value * Nat.pow 10 (-p).toNat
  let step := r.unit * Nat.pow 10 p.toNat
  let low := top / step
  let rest := top % step
  match r.holds low p, r.holds (low + 1) p with
  | false, false => none
  | true, false => some ⟨low, p⟩
  | false, true => some ⟨low + 1, p⟩
  | true, true =>
    let upper : Bool := match tie with
      | .up => step ≤ 2 * rest
      | .toEven => step < 2 * rest || (step == 2 * rest && low % 2 == 1)
    some ⟨if upper then low + 1 else low, p⟩

/-- Drop trailing zeros, at most `fuel` of them. -/
def trim : (fuel : Nat) → Decimal → Decimal
  | 0, d => d
  | fuel + 1, d =>
    if d.digits ≠ 0 ∧ d.digits % 10 = 0 then trim fuel ⟨d.digits / 10, d.exponent + 1⟩ else d

/-- The first grid with a hit, from one digit to seventeen. -/
def Rounding.shortest (r : Rounding) (tie : Tie) : Decimal :=
  let found := (List.range' 1 17).findSome? fun (n : Nat) => r.onGrid? tie (r.magnitude - n)
  trim 20 (found.getD ⟨0, 0⟩)

/-- The fewest digits that read back as `x`, its sign left out; `x` is finite. -/
def shortest (tie : Tie) (x : Float) : Decimal :=
  let bits := x.toBits.toNat % Nat.pow 2 63
  if bits = 0 then ⟨0, 0⟩ else (Rounding.ofBits bits).shortest tie

end Decimal

end ListingQuery
