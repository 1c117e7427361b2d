import Muster.Json.Decode

/-!
Messages between the processes of a run, and how sending or handling one can fail.
-/

namespace Muster

/-- Results are equal as their contents are. -/
instance decidableEqExcept {ε α : Type} [DecidableEq ε] [DecidableEq α] :
    DecidableEq (Except ε α)
  | .error a, .error b => decidable_of_iff (a = b) (by simp)
  | .ok a, .ok b => decidable_of_iff (a = b) (by simp)
  | .error _, .ok _ => isFalse nofun
  | .ok _, .error _ => isFalse nofun

abbrev NodeId := String
abbrev ScenarioId := String
abbrev Identity := String
abbrev MessageName := String

def produceToken : MessageName := "produce_token"
def consumeToken : MessageName := "consume_token"
def consumeTestdata : MessageName := "consume_testdata"

/-- Which side of a run a message travels to. -/
inductive Direction
  | workerToMaster
  | masterToWorker
deriving DecidableEq

namespace Direction

def name : Direction → String
  | .workerToMaster => "worker_to_master"
  | .masterToWorker => "master_to_worker"

def ofName? : String → Option Direction
  | "worker_to_master" => some .workerToMaster
  | "master_to_worker" => some .masterToWorker
  | _ => none

def toJson (d : Direction) : Json := .string d.name
def ofJson? (j : Json) : Option Direction := (Json.choiceName? .json j).bind ofName?

end Direction

inductive Destination
  | master
  | worker (node : NodeId)
deriving DecidableEq

structure Message where
  name : MessageName
  sender : NodeId
  payload : Json
deriving DecidableEq

namespace Message

def toJson (m : Message) : Json :=
  .ofFields [("name", .string m.name), ("sender", .string m.sender), ("payload", m.payload)]

def fieldNames : List String := ["name", "sender", "payload"]

def ofJson? (j : Json) : Option Message := do
  let parts ← Json.Parts.ofJson? j
  guard (parts.fits fieldNames)
  return {
    name := ← parts.field "name" 0 Json.asString?
    sender := ← parts.field "sender" 1 Json.asString?
    payload := ← parts.field "payload" 2 some }

end Message

inductive TransportError
  | unknownNode (node : NodeId)
  | unknownMessage (node : NodeId) (name : MessageName)
  | sendFailed (reason : String)
deriving DecidableEq

def TransportError.message : TransportError → String
  | .unknownNode node => "unknown destination node: " ++ node
  | .unknownMessage node name =>
    "no handler registered for message " ++ name ++ " on node " ++ node
  | .sendFailed reason => "transport send failed: " ++ reason

inductive HandlerError
  | malformedPayload (name : MessageName) (reason : String)
  | reply (cause : TransportError)
  | failed (reason : String)
deriving DecidableEq

def HandlerError.message : HandlerError → String
  | .malformedPayload name reason => "malformed " ++ name ++ " payload: " ++ reason
  | .reply cause => "handler reply failed: " ++ cause.message
  | .failed reason => "handler failed: " ++ reason

end Muster
