import Muster.Text.Blank
import Muster.Thresholds

/-!
The scenarios of a run, in the order they were registered. Names and identifiers are not blank and
occur once.
-/

namespace Muster

inductive Status
  | passed
  | failed
deriving DecidableEq

def Status.name : Status → String
  | .passed => "passed"
  | .failed => "failed"

structure Scenario where
  name : String
  identifier : String
  thresholds : Thresholds := {}
  status : Status := .passed
deriving DecidableEq

inductive CatalogError
  | emptyName
  | duplicateName (name : String)
  | duplicateIdentifier (identifier : String)
deriving DecidableEq

def CatalogError.message : CatalogError → String
  | .emptyName => "scenario name and identifier must be non-empty"
  | .duplicateName name => "duplicate scenario name: " ++ name
  | .duplicateIdentifier identifier => "duplicate scenario identifier: " ++ identifier

structure Catalog where
  scenarios : List Scenario := []
deriving DecidableEq, Inhabited

namespace Catalog

def get? (c : Catalog) (name : String) : Option Scenario :=
  c.scenarios.find? fun s => s.name = name

def hasIdentifier (c : Catalog) (identifier : String) : Bool :=
  c.scenarios.any fun s => s.identifier = identifier

def register (c : Catalog) (s : Scenario) : Except CatalogError Catalog :=
  if Text.allBlank s.name || Text.allBlank s.identifier then .error .emptyName
  else if (c.get? s.name).isSome then .error (.duplicateName s.name)
  else if c.hasIdentifier s.identifier then .error (.duplicateIdentifier s.identifier)
  else .ok ⟨c.scenarios ++ [s]⟩

/-- Registers scenarios in turn, up to the first that is refused. -/
def ofList (scenarios : List Scenario) : Except CatalogError Catalog :=
  scenarios.foldlM register {}

/-- Marks the scenario of a name as failed. -/
def fail (c : Catalog) (name : String) : Catalog :=
  ⟨c.scenarios.map fun s => if s.name = name then { s with status := .failed } else s⟩

end Catalog

end Muster
