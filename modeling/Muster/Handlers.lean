import Muster.Message
import Muster.Table

/-!
Handler tables and the registry of overrides. A handler is known only by its identity `η`; an
override replaces the entry that a table has for the same message name.
-/

namespace Muster

/-- A handler and whether delivery to it must be acknowledged. -/
structure HandlerEntry (η : Type) where
  handler : η
  ackRequired : Bool
deriving DecidableEq

/-- The handlers of a node, by message name. -/
abbrev HandlerTable (η : Type) := Table MessageName (HandlerEntry η)

namespace HandlerTable

variable {η : Type}

/-- Same size, and every entry of the first is found in the second. -/
def sameAs [DecidableEq η] (a b : HandlerTable η) : Bool :=
  a.size == b.size && a.entries.all fun (name, entry) => decide (b.find? name = some entry)

/-- The defaults with the overrides in place of entries of the same name. -/
def build (defaults overrides : HandlerTable η) : HandlerTable η := defaults.union overrides

end HandlerTable

/-- Overrides registered for each direction. -/
structure Registry (η : Type) where
  workerToMaster : HandlerTable η := ∅
  masterToWorker : HandlerTable η := ∅
deriving DecidableEq

namespace Registry

variable {η : Type}

def direction (r : Registry η) : Direction → HandlerTable η
  | .workerToMaster => r.workerToMaster
  | .masterToWorker => r.masterToWorker

/-- Registers a handler; an earlier one of the same direction and name is replaced. -/
def register (r : Registry η) (d : Direction) (name : MessageName) (entry : HandlerEntry η) :
    Registry η :=
  match d with
  | .workerToMaster => { r with workerToMaster := r.workerToMaster.insert name entry }
  | .masterToWorker => { r with masterToWorker := r.masterToWorker.insert name entry }

/-- The overrides of several directions in one table; later directions win. -/
def overridesFor (r : Registry η) (directions : List Direction) : HandlerTable η :=
  directions.foldl (fun table d => table.union (r.direction d)) ∅

def isEmpty (r : Registry η) : Bool := r.workerToMaster.isEmpty && r.masterToWorker.isEmpty

end Registry

end Muster
