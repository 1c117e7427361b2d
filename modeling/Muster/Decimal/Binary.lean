/-!
The exact value of a double: a sign and a product of a natural number and a power of two.
-/

namespace Muster.Decimal

def powerOfTwo (n : Nat) : Nat := Nat.pow 2 n
def powerOfTen (n : Nat) : Nat := Nat.pow 10 n

/-- The magnitude `mantissa * 2 ^ exponent` with its sign. -/
structure Binary where
  negative : Bool
  mantissa : Nat
  exponent : Int
deriving DecidableEq

/-- What the bits of a double stand for. -/
inductive Reading
  | finite (value : Binary)
  | infinite (negative : Bool)
  | notANumber
deriving DecidableEq

def read (x : Float) : Reading :=
  let bits : Nat := x.toBits.toNat
  let negative := decide (powerOfTwo 63 ≤ bits)
  let scale : Nat := bits / powerOfTwo 52 % powerOfTwo 11
  let fraction : Nat := bits % powerOfTwo 52
  if scale = powerOfTwo 11 - 1 then
    if fraction = 0 then .infinite negative else .notANumber
  else if scale = 0 then .finite ⟨negative, fraction, -1074⟩
  else .finite ⟨negative, powerOfTwo 52 + fraction, Int.ofNat scale - 1075⟩

namespace Binary

/-- The magnitude as a fraction whose denominator is positive. -/
def fraction (b : Binary) : Nat × Nat :=
  (b.mantissa * powerOfTwo b.exponent.toNat, powerOfTwo (-b.exponent).toNat)

/-- A power of two above the least exponent is closer to its lower neighbour than to its upper. -/
def narrowBelow (b : Binary) : Bool := b.mantissa == powerOfTwo 52 && decide (-1074 < b.exponent)

end Binary

/-- The double nearest to `digits * 10 ^ exponent`; a magnitude beyond the range is infinite. -/
def nearest (negative : Bool) (digits : Nat) (exponent : Int) : Float :=
  let magnitude :=
    if digits = 0 then 0.0
    else
      let size : Int := (Nat.log2 digits : Int) * 30103 / 100000 + exponent
      if size < -400 then 0.0
      else if 400 < size then 1.0 / 0.0
      else Float.ofScientific digits (decide (exponent < 0)) exponent.natAbs
  if negative then -magnitude else magnitude

end Muster.Decimal
