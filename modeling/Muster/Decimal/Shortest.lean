import Muster.Decimal.Binary

/-!
The fewest decimal digits that read back as the same double, and of those the closest to it.
-/

namespace Muster.Decimal

/-- The number `digits * 10 ^ exponent`. -/
structure Scientific where
  digits : Nat
  exponent : Int
deriving DecidableEq

/-- Moves the trailing zeros of the digits into the exponent. -/
def Scientific.stripZeros (s : Scientific) : Scientific :=
  if h : 0 < s.digits ∧ s.digits % 10 = 0 then
    (⟨s.digits / 10, s.exponent + 1⟩ : Scientific).stripZeros
  else s
termination_by s.digits
decreasing_by exact Nat.div_lt_self h.1 (by decide)

/-- Compares `a * 10 ^ i` with `n * 2 ^ j` exactly. -/
def compareScaled (a : Nat) (i : Int) (n : Nat) (j : Int) : Ordering :=
  compare (a * powerOfTen i.toNat * powerOfTwo (-j).toNat)
    (n * powerOfTwo j.toNat * powerOfTen (-i).toNat)

/-- The decimal lies among the reals that round to the value; the ends of that interval belong to
it exactly when the mantissa is even. -/
def Binary.readsBack (b : Binary) (s : Scientific) : Bool :=
  let low := compareScaled s.digits s.exponent
    (if b.narrowBelow then 4 * b.mantissa - 1 else 4 * b.mantissa - 2) (b.exponent - 2)
  let high := compareScaled s.digits s.exponent (4 * b.mantissa + 2) (b.exponent - 2)
  let closed := b.mantissa % 2 == 0
  (low == .gt || (closed && low == .eq)) && (high == .lt || (closed && high == .eq))

/-- The least `k` for which the positive value is below `10 ^ k`. -/
def Binary.scale (b : Binary) : Int :=
  let (numerator, denominator) := b.fraction
  if denominator ≤ numerator then (Nat.toDigits 10 (numerator / denominator)).length
  else 1 - (Nat.toDigits 10 ((denominator - 1) / numerator)).length

/-- The neighbour of the value on the grid of multiples of `10 ^ exponent` that reads back; of two
such neighbours the nearer, the lower on a tie with an even digit. -/
def Binary.onGrid (b : Binary) (exponent : Int) : Option Scientific :=
  let (numerator, denominator) := b.fraction
  let numerator := numerator * powerOfTen (-exponent).toNat
  let denominator := denominator * powerOfTen exponent.toNat
  let below := numerator / denominator
  let lower : Scientific := ⟨below, exponent⟩
  let upper : Scientific := ⟨below + 1, exponent⟩
  match b.readsBack lower, b.readsBack upper with
  | true, true =>
    match compare (2 * numerator) ((2 * below + 1) * denominator) with
    | .lt => some lower
    | .gt => some upper
    | .eq => some (if below % 2 = 0 then lower else upper)
  | true, false => some lower
  | false, true => some upper
  | false, false => none

/-- The coarsest grid on which a neighbour reads back wins. -/
def Binary.shortest (b : Binary) : Scientific :=
  let scale := b.scale
  let grids := (List.range 17).map fun n => scale - Int.ofNat n - 1
  let found := (grids.findSome? b.onGrid).getD
    ⟨b.mantissa * Nat.pow 5 (-b.exponent).toNat * powerOfTwo b.exponent.toNat, min b.exponent 0⟩
  found.stripZeros

end Muster.Decimal
