import Muster.Json

/-!
The tables of a TOML document while it is read. A table remembers how it came about, because that
decides what may still be added to it: each table is defined once, by its header or by dotted keys.
-/

namespace Muster.Toml

/-- How a table came about. -/
inductive Origin
  /-- a header below it named it in passing -/
  | implied
  /-- a dotted key -/
  | dotted
  /-- its own header -/
  | header
deriving DecidableEq

inductive Node
  /-- a finished value; nothing can be added to it -/
  | value (value : Json)
  | table (origin : Origin) (children : List (String × Node))
  /-- tables under one double-bracket header, the latest first -/
  | elements (latest : List Node)

abbrev Children := List (String × Node)

namespace Children

def child? (children : Children) (key : String) : Option Node :=
  (children.find? fun child => child.1 == key).map (·.2)

/-- Sets a child in its place, or as the last one. -/
def setChild (key : String) (node : Node) : Children → Children
  | [] => [(key, node)]
  | (other, previous) :: rest =>
    if other = key then (key, node) :: rest else (other, previous) :: setChild key node rest

/-- Assigns a value to a dotted key. The tables on the way are made by dotted keys themselves; one
that a header merely named may be passed, but nothing is put right into it. -/
def assign (value : Json) : List String → Children → Option Children
  | [], _ => none
  | [key], children =>
    match children.child? key with
    | some _ => none
    | none => some (children.setChild key (.value value))
  | key :: next :: rest, children =>
    match children.child? key with
    | none =>
      (assign value (next :: rest) []).map fun inner => children.setChild key (.table .dotted inner)
    | some (.table origin inner) =>
      if origin = .dotted || (origin = .implied && !rest.isEmpty) then
        (assign value (next :: rest) inner).map fun inner =>
          children.setChild key (.table origin inner)
      else none
    | some (.elements (.table origin inner :: earlier)) =>
      if rest.isEmpty then none
      else
        (assign value (next :: rest) inner).map fun inner =>
          children.setChild key (.elements (.table origin inner :: earlier))
    | some _ => none

/-- Changes the table that the path of a header leads to, making tables on the way. -/
def within (f : Children → Option Children) : List String → Children → Option Children
  | [], children => f children
  | key :: rest, children =>
    match children.child? key with
    | none => (within f rest []).map fun inner => children.setChild key (.table .implied inner)
    | some (.table origin inner) =>
      (within f rest inner).map fun inner => children.setChild key (.table origin inner)
    | some (.elements (.table origin inner :: earlier)) =>
      (within f rest inner).map fun inner =>
        children.setChild key (.elements (.table origin inner :: earlier))
    | some _ => none

/-- Defines the table of a header: a new one, or one that was only named so far. -/
def openTable (key : String) (children : Children) : Option Children :=
  match children.child? key with
  | none => some (children.setChild key (.table .header []))
  | some (.table .implied inner) => some (children.setChild key (.table .header inner))
  | some _ => none

/-- Adds a table to those of a double-bracket header. -/
def openElement (key : String) (children : Children) : Option Children :=
  match children.child? key with
  | none => some (children.setChild key (.elements [.table .header []]))
  | some (.elements latest) =>
    some (children.setChild key (.elements (.table .header [] :: latest)))
  | some _ => none

end Children

mutual

def Node.toJson : Node → Json
  | .value value => value
  | .table _ children => .ofFields (fieldsOf children)
  | .elements latest => .array (itemsOf latest).reverse

def fieldsOf : List (String × Node) → List (String × Json)
  | [] => []
  | (key, node) :: rest => (key, node.toJson) :: fieldsOf rest

def itemsOf : List Node → List Json
  | [] => []
  | node :: rest => node.toJson :: itemsOf rest

end

def Children.toJson (children : Children) : Json := .ofFields (fieldsOf children)

end Muster.Toml
