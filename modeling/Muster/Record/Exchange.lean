import Muster.Message
import Muster.Record.Pool

/-!
The payloads of test data messages: a worker's request for a record, and the reply with the same
id.
-/

namespace Muster

structure DataRequest where
  id : Nat
  scenario : ScenarioId
  worker : NodeId
deriving DecidableEq

inductive DataReply
  | record (record : Json)
  | exhausted
  | failed (reason : String)
deriving DecidableEq

structure DataResponse where
  id : Nat
  scenario : ScenarioId
  reply : DataReply
deriving DecidableEq

namespace DataRequest

def toJson (r : DataRequest) : Json :=
  .ofFields [("correlation_id", .int r.id), ("scenario", .string r.scenario),
    ("worker", .string r.worker)]

def fieldNames : List String := ["correlation_id", "scenario", "worker"]

def ofJson? (j : Json) : Option DataRequest := do
  let parts ← Json.Parts.ofJson? j
  guard (parts.fits fieldNames)
  return {
    id := ← parts.field "correlation_id" 0 Json.asNat?
    scenario := ← parts.field "scenario" 1 Json.asString?
    worker := ← parts.field "worker" 2 Json.asString? }

end DataRequest

namespace DataReply

def toJson : DataReply → Json
  | .record value => .ofFields [("kind", .string "record"), ("record", value)]
  | .exhausted => .ofFields [("kind", .string "exhausted")]
  | .failed reason => .ofFields [("kind", .string "failed"), ("reason", .string reason)]

def ofJson? (j : Json) : Option DataReply := do
  match ← Json.tagged? "kind" j with
  | ("record", parts) =>
    guard (parts.fits ["record"])
    return .record (← parts.field "record" 0 some)
  | ("exhausted", parts) =>
    guard (parts.fits [])
    return .exhausted
  | ("failed", parts) =>
    guard (parts.fits ["reason"])
    return .failed (← parts.field "reason" 0 Json.asString?)
  | _ => none

end DataReply

namespace DataResponse

def toJson (r : DataResponse) : Json :=
  .ofFields [("correlation_id", .int r.id), ("scenario", .string r.scenario),
    ("reply", r.reply.toJson)]

def fieldNames : List String := ["correlation_id", "scenario", "reply"]

def ofJson? (j : Json) : Option DataResponse := do
  let parts ← Json.Parts.ofJson? j
  guard (parts.fits fieldNames)
  return {
    id := ← parts.field "correlation_id" 0 Json.asNat?
    scenario := ← parts.field "scenario" 1 Json.asString?
    reply := ← parts.field "reply" 2 DataReply.ofJson? }

end DataResponse

end Muster
