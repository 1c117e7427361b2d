import Muster.Decimal.Binary

/-!
Decimals with a fixed number of places: the exact value of a double, rounded to that many places,
a half going to the even neighbour.
-/

namespace Muster.Decimal

/-- The quotient rounded to nearest, a half to even. -/
def roundHalfEven (numerator denominator : Nat) : Nat :=
  let whole := numerator / denominator
  let rest := 2 * (numerator % denominator)
  if rest < denominator then whole
  else if denominator < rest then whole + 1
  else whole + whole % 2

/-- The digits of a number of `10 ^ -places` units, with the point set. -/
def placePoint (places units : Nat) : List Char :=
  let digits := Nat.toDigits 10 units
  let padded := List.replicate (places + 1 - digits.length) '0' ++ digits
  let whole := padded.length - places
  padded.take whole ++ (if places = 0 then [] else '.' :: padded.drop whole)

/-- The text of a double with the given number of places; a negative zero keeps its sign. -/
def fixedChars (places : Nat) (x : Float) : List Char :=
  match read x with
  | .notANumber => "NaN".toList
  | .infinite negative => (if negative then "-inf" else "inf").toList
  | .finite b =>
    let (numerator, denominator) := b.fraction
    let text := placePoint places (roundHalfEven (numerator * powerOfTen places) denominator)
    if b.negative then '-' :: text else text

end Muster.Decimal
