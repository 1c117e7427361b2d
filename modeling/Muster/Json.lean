/-!
JSON values. Integers and doubles stay apart, and the fields of an object are kept in key order
with one entry a key, so equal contents are equal values.
-/

namespace Muster

inductive Json
  | null
  | bool (value : Bool)
  | int (value : Int)
  | float (value : Float)
  | string (value : String)
  | array (items : List Json)
  | object (fields : List (String × Json))
deriving Inhabited

namespace Json

mutual

protected def decEq : (a b : Json) → Decidable (a = b)
  | .null, b => by cases b <;> first | exact isTrue rfl | exact isFalse nofun
  | .bool x, b => by
    cases b with
    | bool y => exact decidable_of_iff (x = y) (by simp)
    | _ => exact isFalse nofun
  | .int x, b => by
    cases b with
    | int y => exact decidable_of_iff (x = y) (by simp)
    | _ => exact isFalse nofun
  | .float x, b => by
    cases b with
    | float y => exact decidable_of_iff (x = y) (by simp)
    | _ => exact isFalse nofun
  | .string x, b => by
    cases b with
    | string y => exact decidable_of_iff (x = y) (by simp)
    | _ => exact isFalse nofun
  | .array xs, b => by
    cases b with
    | array ys => exact @decidable_of_iff _ (xs = ys) (by simp) (Json.decEqItems xs ys)
    | _ => exact isFalse nofun
  | .object xs, b => by
    cases b with
    | object ys => exact @decidable_of_iff _ (xs = ys) (by simp) (Json.decEqFields xs ys)
    | _ => exact isFalse nofun

protected def decEqItems : (xs ys : List Json) → Decidable (xs = ys)
  | [], [] => isTrue rfl
  | [], _ :: _ => isFalse nofun
  | _ :: _, [] => isFalse nofun
  | x :: xs, y :: ys =>
    have := Json.decEq x y
    have := Json.decEqItems xs ys
    decidable_of_iff (x = y ∧ xs = ys) (by simp)

protected def decEqFields : (xs ys : List (String × Json)) → Decidable (xs = ys)
  | [], [] => isTrue rfl
  | [], _ :: _ => isFalse nofun
  | _ :: _, [] => isFalse nofun
  | (k, x) :: xs, (l, y) :: ys =>
    have := Json.decEq x y
    have := Json.decEqFields xs ys
    decidable_of_iff (k = l ∧ x = y ∧ xs = ys) (by simp [and_assoc])

end

instance : DecidableEq Json := Json.decEq

/-- Adds a field in key order; a field of the same key is replaced. -/
def putField (key : String) (value : Json) : List (String × Json) → List (String × Json)
  | [] => [(key, value)]
  | (other, previous) :: rest =>
    match compare key other with
    | .lt => (key, value) :: (other, previous) :: rest
    | .eq => (key, value) :: rest
    | .gt => (other, previous) :: putField key value rest

/-- The object with these fields; of two with one key the later wins. -/
def ofFields (fields : List (String × Json)) : Json :=
  .object (fields.foldl (fun sorted field => putField field.1 field.2 sorted) [])

def field? (key : String) (fields : List (String × Json)) : Option Json :=
  (fields.find? (fun field => field.1 == key)).map (·.2)

/-- The integers that are kept as integers: those of 64 bits, signed or not. -/
def minInt : Int := -9223372036854775808
def maxInt : Int := 18446744073709551615

def inRange (n : Int) : Bool := minInt ≤ n && n ≤ maxInt

/-- Stands for a number that is too large for any field; nothing that reads a field takes it. -/
def tooLarge : Json := .int (maxInt + 1)

end Json

end Muster
