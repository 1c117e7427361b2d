/-!
Milliseconds as unsigned 64-bit words: instants, durations and response times.
-/

namespace Muster

abbrev Millis := UInt64

namespace Millis

/-- Addition that stops at the largest word. -/
def saturatingAdd (a b : Millis) : Millis :=
  UInt64.ofNat (min (a.toNat + b.toNat) (UInt64.size - 1))

theorem toNat_saturatingAdd (a b : Millis) :
    (saturatingAdd a b).toNat = min (a.toNat + b.toNat) (UInt64.size - 1) := by
  simp only [saturatingAdd, UInt64.toNat_ofNat']
  exact Nat.mod_eq_of_lt (Nat.lt_of_le_of_lt (Nat.min_le_right _ _) (by decide))

/-- The decimals of thousandths, without trailing zeros. -/
def thousandths (n : Nat) : String :=
  if n = 0 then ""
  else
    let digits := [n / 100 % 10, n / 10 % 10, n % 10].map Nat.digitChar
    "." ++ String.ofList (digits.reverse.dropWhile (· = '0')).reverse

/-- A duration in its largest unit: seconds, or milliseconds below one second. -/
def durationText (ms : Millis) : String :=
  let n := ms.toNat
  if 1000 ≤ n then toString (n / 1000) ++ thousandths (n % 1000) ++ "s"
  else if 0 < n then toString n ++ "ms"
  else "0ns"

end Millis

end Muster
