import Muster.Decimal.Binary
import Muster.Json
import Muster.Toml.Moment

/-!
Unquoted values of TOML: truth values, integers in four bases, floats, dates and times. Underscores
may stand between two digits; decimal numbers have no leading zeros. A number may be larger than any
field holds: the document is read all the same, and what reads the field refuses it.
-/

namespace Muster.Toml.Scalar

/-- The digits of a group without its underscores, each of which stands between digits. -/
def ungroup (isDigit : Char → Bool) : Bool → List Char → Option (List Char)
  | afterDigit, [] => if afterDigit then some [] else none
  | afterDigit, c :: rest =>
    if isDigit c then (ungroup isDigit true rest).map (c :: ·)
    else if c = '_' && afterDigit then ungroup isDigit false rest
    else none

def digits? (isDigit : Char → Bool) (cs : List Char) : Option (List Char) :=
  ungroup isDigit false cs

def digitValue (c : Char) : Nat :=
  if c.isDigit then c.toNat - '0'.toNat else c.toLower.toNat - 'a'.toNat + 10

def valueOf (base : Nat) (digits : List Char) : Nat :=
  digits.foldl (fun n c => n * base + digitValue c) 0

/-- The digits of a whole decimal number. -/
def whole? (cs : List Char) : Option (List Char) :=
  match cs with
  | '0' :: _ :: _ => none
  | _ => digits? Char.isDigit cs

/-- A sign and what follows it. -/
def signed : List Char → Bool × List Char
  | '-' :: rest => (true, rest)
  | '+' :: rest => (false, rest)
  | cs => (false, cs)

def isHexDigit (c : Char) : Bool := c.isDigit || ('a' ≤ c && c ≤ 'f') || ('A' ≤ c && c ≤ 'F')

/-- An integer of any size. -/
def integer? (cs : List Char) : Option Int :=
  match cs with
  | '0' :: 'x' :: rest => (digits? isHexDigit rest).map fun digits => valueOf 16 digits
  | '0' :: 'o' :: rest =>
    (digits? (fun c => '0' ≤ c && c ≤ '7') rest).map fun digits => valueOf 8 digits
  | '0' :: 'b' :: rest =>
    (digits? (fun c => c = '0' || c = '1') rest).map fun digits => valueOf 2 digits
  | _ =>
    let (negative, rest) := signed cs
    (whole? rest).map fun digits =>
      if negative then -(valueOf 10 digits : Int) else valueOf 10 digits

def isExponentMark (c : Char) : Bool := c = 'e' || c = 'E'

/-- The exponent after its mark, zero without one. -/
def exponent? : List Char → Option Int
  | [] => some 0
  | _ :: rest =>
    let (negative, rest) := signed rest
    (digits? Char.isDigit rest).map fun digits =>
      if negative then -(valueOf 10 digits : Int) else valueOf 10 digits

/-- The digits between a point and the exponent, none without a point. -/
def places? : List Char → Option (List Char)
  | [] => some []
  | '.' :: rest => digits? Char.isDigit rest
  | _ => none

/-- A decimal number with a fraction or an exponent. One beyond the range of a double is no float
but too large for any field. -/
def float? (cs : List Char) : Option Json := do
  let (negative, rest) := signed cs
  let mantissa := rest.takeWhile fun c => !isExponentMark c
  let digits ← whole? (mantissa.takeWhile (· ≠ '.'))
  let places ← places? (mantissa.dropWhile (· ≠ '.'))
  let exponent ← exponent? (rest.dropWhile fun c => !isExponentMark c)
  let value := Decimal.nearest negative (valueOf 10 (digits ++ places)) (exponent - places.length)
  return if value.isFinite then .float value else .tooLarge

/-- Infinity and not-a-number, by name. -/
def special? (cs : List Char) : Option Json :=
  let (negative, rest) := signed cs
  if rest = ['i', 'n', 'f'] then some (.float (if negative then -1.0 / 0.0 else 1.0 / 0.0))
  else if rest = ['n', 'a', 'n'] then some (.float (0.0 / 0.0))
  else none

/-- A date or time becomes an object with its text as the only field. -/
def momentKey : String := "$__toml_private_datetime"

def moment? (cs : List Char) : Option Json :=
  (Moment.read? cs).map fun text => .object [(momentKey, .string (String.ofList text))]

def truth? (cs : List Char) : Option Json :=
  if cs = ['t', 'r', 'u', 'e'] then some (.bool true)
  else if cs = ['f', 'a', 'l', 's', 'e'] then some (.bool false)
  else none

/-- The value of an unquoted run. The forms exclude one another, but that a whole number would be a
float too: an integer comes first. -/
def read? (text : String) : Option Json :=
  let cs := text.toList
  truth? cs <|> special? cs <|> (integer? cs).map .int <|> float? cs <|> moment? cs

end Muster.Toml.Scalar
