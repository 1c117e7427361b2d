import Muster.Json
import Muster.Decimal.Binary

/-!
JSON numbers. A number without fraction and exponent that fits 64 bits is an integer. Any other is
a double: its leading digits, as many as fit an unsigned 64-bit word, are rounded to a double and
then scaled by a power of ten.
-/

namespace Muster.Json

/-- The parts of a number as written. -/
structure Numeral where
  negative : Bool
  whole : List Char
  fraction : Option (List Char)
  exponent : Option (Bool × List Char)
deriving DecidableEq

/-- Digits, none missing, and the rest. -/
def digits1? (cs : List Char) : Option (List Char × List Char) :=
  let digits := cs.takeWhile Char.isDigit
  if digits.isEmpty then none else some (digits, cs.dropWhile Char.isDigit)

/-- The exponent part: its sign, and its digits without leading zeros. -/
def exponent? : List Char → Option (Option (Bool × List Char))
  | [] => some none
  | c :: rest =>
    if c = 'e' || c = 'E' then
      let (negative, rest) :=
        match rest with
        | '-' :: tail => (true, tail)
        | '+' :: tail => (false, tail)
        | _ => (false, rest)
      match digits1? rest with
      | some (digits, []) => some (some (negative, digits.dropWhile (· = '0')))
      | _ => none
    else none

/-- Splits a number: no leading zero before another digit, a digit after the point and in the
exponent. -/
def Numeral.ofChars? (cs : List Char) : Option Numeral := do
  let (negative, cs) :=
    match cs with
    | '-' :: rest => (true, rest)
    | _ => (false, cs)
  let (whole, rest) ← digits1? cs
  guard (whole.head? ≠ some '0' || whole.length = 1)
  match rest with
  | '.' :: rest =>
    let (fraction, rest) ← digits1? rest
    return ⟨negative, whole, some fraction, ← exponent? rest⟩
  | _ => return ⟨negative, whole, none, ← exponent? rest⟩

def digitValue (c : Char) : Nat := c.toNat - '0'.toNat

def natOfDigits (digits : List Char) : Nat :=
  digits.foldl (fun value c => value * 10 + digitValue c) 0

/-- The longest run of leading digits whose value fits a 64-bit word, and the digits left. -/
def leading (value : Nat) : List Char → Nat × List Char
  | [] => (value, [])
  | c :: rest =>
    let next := value * 10 + digitValue c
    if next < UInt64.size then leading next rest else (value, c :: rest)

/-- The power of ten as a double. -/
def powerOfTen (n : Nat) : Float := Float.ofScientific 1 false n

/-- Divides by a power of ten, at most `10 ^ 308` at a time. -/
def scaleDown (x : Float) (n : Nat) : Float :=
  if n ≤ 308 then x / powerOfTen n
  else if x == 0 then x
  else scaleDown (x / powerOfTen 308) (n - 308)
termination_by n

/-- A double scaled by a power of ten; too large a result has no value. -/
def scale (x : Float) (exponent : Int) : Option Float :=
  if exponent < 0 then some (scaleDown x exponent.natAbs)
  else if exponent.toNat ≤ 308 then
    let scaled := x * powerOfTen exponent.toNat
    if scaled.isInf then none else some scaled
  else if x == 0 then some x
  else none

namespace Numeral

/-- The written exponent, where ten digits or more stand for more than any scale in use. -/
def power (n : Numeral) : Int :=
  match n.exponent with
  | none => 0
  | some (negative, digits) =>
    let size := if digits.length ≤ 10 then natOfDigits digits else 10000000000
    if negative then -Int.ofNat size else size

/-- Exponents beyond 31 bits are not added to the place of the point. -/
def beyond (n : Numeral) : Bool := decide (2147483647 < n.power.natAbs)

def magnitude? (n : Numeral) : Option Float :=
  let (value, dropped) := leading 0 n.whole
  let (significand, shift) : Nat × Int :=
    match n.fraction with
    | none => (value, dropped.length)
    | some fraction =>
      let (significand, unread) := leading value fraction
      (significand, Int.ofNat dropped.length - (fraction.length - unread.length : Nat))
  if n.beyond then
    if significand = 0 || n.power < 0 then some 0.0 else none
  else scale (Float.ofNat significand) (shift + n.power)

def float? (n : Numeral) : Option Float :=
  n.magnitude?.map fun x => if n.negative then -x else x

def toJson? (n : Numeral) : Option Json :=
  match n.fraction, n.exponent with
  | none, none =>
    let value : Int := natOfDigits n.whole
    let value := if n.negative then -value else value
    if n.negative && value == 0 then some (.float (-0.0))
    else if inRange value then some (.int value)
    else n.float?.map .float
  | _, _ => n.float?.map .float

end Numeral

def numberOfChars? (cs : List Char) : Option Json := (Numeral.ofChars? cs).bind Numeral.toJson?

end Muster.Json
