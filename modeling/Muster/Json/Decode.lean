import Muster.Json

/-!
Reading domain values out of JSON. A record may arrive as an object, or as an array of its fields
in declared order; a choice may arrive as an object with a tag, or as an array led by the tag.
-/

namespace Muster.Json

def asString? : Json → Option String
  | .string s => some s
  | _ => none

def asBool? : Json → Option Bool
  | .bool b => some b
  | _ => none

/-- A natural number of 64 bits; a double is never taken for one. -/
def asNat? : Json → Option Nat
  | .int n => if 0 ≤ n ∧ n ≤ maxInt then some n.toNat else none
  | _ => none

def asWord? (j : Json) : Option UInt64 := j.asNat?.map UInt64.ofNat

/-- A double; an integer of 64 bits is converted. -/
def asFloat? : Json → Option Float
  | .float x => some x
  | .int n => if inRange n then some (Float.ofInt n) else none
  | _ => none

def asArray? : Json → Option (List Json)
  | .array items => some items
  | _ => none

/-- Null stands for an absent value. -/
def asOption? {α : Type} (decode : Json → Option α) : Json → Option (Option α)
  | .null => some none
  | j => (decode j).map some

def ofOption {α : Type} (encode : α → Json) : Option α → Json
  | none => .null
  | some a => encode a

/-- What differs between the formats that records are read from. -/
structure Format where
  /-- stands for the content of a choice that has none -/
  isUnit : Json → Bool
  /-- an array may hold more than the fields of a record -/
  surplus : Bool

def isNull : Json → Bool
  | .null => true
  | _ => false

def isEmptyValue : Json → Bool
  | .array items => items.isEmpty
  | .object fields => fields.isEmpty
  | _ => false

namespace Format

/-- JSON has null, and its arrays hold no more than the fields. -/
def json : Format := ⟨isNull, false⟩

/-- TOML has no null but empty tables and arrays; what an array holds beyond the fields is
ignored. -/
def toml : Format := ⟨isEmptyValue, true⟩

end Format

/-- A record as it arrives: its fields by name, or in declared order. -/
inductive Parts
  | named (fields : List (String × Json))
  | listed (items : List Json)
deriving DecidableEq

namespace Parts

def ofJson? : Json → Option Parts
  | .object fields => some (.named fields)
  | .array items => some (.listed items)
  | _ => none

/-- An array holds no more than the declared fields. -/
def fits (names : List String) : Parts → Bool
  | .named _ => true
  | .listed items => items.length ≤ names.length

/-- No field but the declared ones; an array may hold more where the format allows it. -/
def exact (format : Format) (names : List String) : Parts → Bool
  | .named fields => fields.all fun field => names.contains field.1
  | .listed items => format.surplus || items.length ≤ names.length

def get? (parts : Parts) (name : String) (position : Nat) : Option Json :=
  match parts with
  | .named fields => field? name fields
  | .listed items => items[position]?

/-- A field that must be there. -/
def field {α : Type} (parts : Parts) (name : String) (position : Nat)
    (decode : Json → Option α) : Option α :=
  (parts.get? name position).bind decode

/-- A field that has a default. -/
def fieldD {α : Type} (parts : Parts) (name : String) (position : Nat)
    (decode : Json → Option α) (fallback : α) : Option α :=
  match parts.get? name position with
  | some value => decode value
  | none => some fallback

/-- A field that may be absent by name or null; in an array it has its place. -/
def fieldOpt {α : Type} (parts : Parts) (name : String) (position : Nat)
    (decode : Json → Option α) : Option (Option α) :=
  match parts, parts.get? name position with
  | _, some value => asOption? decode value
  | .named _, none => some none
  | .listed _, none => none

end Parts

/-- The name of a choice without content: bare, or as the only key of an object. -/
def choiceName? (format : Format) : Json → Option String
  | .string name => some name
  | .object [(name, content)] => if format.isUnit content then some name else none
  | _ => none

/-- The tag of a choice and its other fields. -/
def tagged? (tag : String) : Json → Option (String × Parts)
  | .object fields => do
    let kind ← (field? tag fields).bind asString?
    return (kind, .named (fields.filter fun field => field.1 != tag))
  | .array (kind :: rest) => do return (← kind.asString?, .listed rest)
  | _ => none

mutual

/-- The value as JSON text can hold it: with null in place of doubles that are not finite. There is
none if an integer is out of range. -/
def storable? : Json → Option Json
  | .int n => if inRange n then some (.int n) else none
  | .float x => some (if x.isFinite then .float x else .null)
  | .array items => (storableItems? items).map .array
  | .object fields => (storableFields? fields).map .object
  | j => some j

def storableItems? : List Json → Option (List Json)
  | [] => some []
  | item :: rest => do return (← storable? item) :: (← storableItems? rest)

def storableFields? : List (String × Json) → Option (List (String × Json))
  | [] => some []
  | (key, value) :: rest => do return (key, ← storable? value) :: (← storableFields? rest)

end

end Muster.Json
