import Muster.Handlers

/-!
The part a process plays in a run, and the handlers that the part brings along.
-/

namespace Muster

inductive Role
  | master
  | worker
  | local
deriving DecidableEq

namespace Role

def name : Role → String
  | .master => "master"
  | .worker => "worker"
  | .local => "local"

def ofName? : String → Option Role
  | "master" => some .master
  | "worker" => some .worker
  | "local" => some .local
  | _ => none

/-- It owns the pools and the token cache. -/
def isMasterSide : Role → Bool
  | .worker => false
  | _ => true

/-- It runs simulated users. -/
def isWorkerSide : Role → Bool
  | .master => false
  | _ => true

/-- The directions whose messages it receives. -/
def directions (r : Role) : List Direction :=
  (if r.isMasterSide then [.workerToMaster] else [])
    ++ (if r.isWorkerSide then [.masterToWorker] else [])

end Role

/-- The handlers that a process has for the messages of the protocol. -/
structure Builtins (η : Type) where
  consumeTestdata : Option η := none
  produceToken : Option η := none
  consumeToken : Option η := none
deriving DecidableEq

/-- The handlers of a role, every one with acknowledgement. -/
def Role.defaults {η : Type} (r : Role) (b : Builtins η) : HandlerTable η :=
  let offered :=
    (if r.isMasterSide then [(produceToken, b.produceToken)] else [])
      ++ (if r.isWorkerSide then
          [(consumeTestdata, b.consumeTestdata), (consumeToken, b.consumeToken)]
        else [])
  Table.ofList (offered.filterMap fun (name, handler) =>
    handler.map fun handler => (name, ⟨handler, true⟩))

end Muster
