/-!
Dates and times in TOML: a date, a time, or both, and then perhaps an offset. What is read is kept
as text in one spelling: always with seconds, and with a fraction only if it is not zero.
-/

namespace Muster.Toml.Moment

/-- So many decimal digits as a number, and the characters after them. -/
def digits? : Nat → Nat → List Char → Option (Nat × List Char)
  | 0, value, cs => some (value, cs)
  | count + 1, value, c :: rest =>
    if c.isDigit then digits? count (value * 10 + (c.toNat - '0'.toNat)) rest else none
  | _ + 1, _, [] => none

/-- A number in digits, with zeros before it. -/
def padded (width n : Nat) : List Char :=
  let digits := Nat.toDigits 10 n
  List.replicate (width - digits.length) '0' ++ digits

def isLeapYear (year : Nat) : Bool := year % 4 = 0 && (year % 100 ≠ 0 || year % 400 = 0)

def daysIn (year month : Nat) : Nat :=
  if month = 2 then (if isLeapYear year then 29 else 28)
  else if month = 4 || month = 6 || month = 9 || month = 11 then 30
  else 31

/-- A date, as text, and the characters after it. -/
def date? (cs : List Char) : Option (List Char × List Char) := do
  let (year, cs) ← digits? 4 0 cs
  guard (cs.head? = some '-')
  let (month, cs) ← digits? 2 0 cs.tail
  guard (cs.head? = some '-')
  let (day, cs) ← digits? 2 0 cs.tail
  guard (1 ≤ month ∧ month ≤ 12 ∧ 1 ≤ day ∧ day ≤ daysIn year month)
  return (padded 4 year ++ '-' :: padded 2 month ++ '-' :: padded 2 day, cs)

/-- The fraction of a second after its point: nine places count, zeros at the end do not, and a
fraction of zero is left out with its point. -/
def fraction? (cs : List Char) : Option (List Char × List Char) :=
  let digits := cs.takeWhile Char.isDigit
  if digits.isEmpty then none
  else
    let kept := ((digits.take 9).reverse.dropWhile (· = '0')).reverse
    some (if kept.isEmpty then [] else '.' :: kept, cs.dropWhile Char.isDigit)

/-- Seconds with their fraction; where there are none they are zero. -/
def seconds? (cs : List Char) : Option (List Char × List Char) :=
  if cs.head? = some ':' then do
    let (second, cs) ← digits? 2 0 cs.tail
    guard (second ≤ 60)
    let text := ':' :: padded 2 second
    if cs.head? = some '.' then
      let (fraction, cs) ← fraction? cs.tail
      return (text ++ fraction, cs)
    else return (text, cs)
  else some ([':', '0', '0'], cs)

def time? (cs : List Char) : Option (List Char × List Char) := do
  let (hour, cs) ← digits? 2 0 cs
  guard (cs.head? = some ':')
  let (minute, cs) ← digits? 2 0 cs.tail
  guard (hour ≤ 23 ∧ minute ≤ 59)
  let (seconds, cs) ← seconds? cs
  return (padded 2 hour ++ ':' :: padded 2 minute ++ seconds, cs)

/-- An offset that ends the text: none, Z, or hours and minutes. No offset is negative zero. -/
def offset? : List Char → Option (List Char)
  | [] => some []
  | ['Z'] => some ['Z']
  | ['z'] => some ['Z']
  | sign :: cs => do
    guard (sign = '+' ∨ sign = '-')
    let (hour, cs) ← digits? 2 0 cs
    guard (cs.head? = some ':')
    let (minute, cs) ← digits? 2 0 cs.tail
    guard (hour ≤ 23 ∧ minute ≤ 59 ∧ cs.isEmpty)
    let sign := if hour = 0 ∧ minute = 0 then '+' else sign
    return sign :: padded 2 hour ++ ':' :: padded 2 minute

/-- A date with a time after a `T` or a space; only that may have an offset. -/
def full? (cs : List Char) : Option (List Char) := do
  let (date, cs) ← date? cs
  if cs.isEmpty then return date
  guard (cs.head? = some 'T' ∨ cs.head? = some 't' ∨ cs.head? = some ' ')
  let (time, cs) ← time? cs.tail
  return date ++ 'T' :: time ++ (← offset? cs)

def localTime? (cs : List Char) : Option (List Char) := do
  let (time, cs) ← time? cs
  guard cs.isEmpty
  return time

/-- The one spelling of a date, a time or both. -/
def read? (cs : List Char) : Option (List Char) :=
  if (cs.drop 2).head? = some ':' then localTime? cs else full? cs

/-- The text looks like a date alone, which a time may follow after a space. -/
def isDate (cs : List Char) : Bool :=
  match date? cs with
  | some (_, rest) => rest.isEmpty
  | none => false

end Muster.Toml.Moment
