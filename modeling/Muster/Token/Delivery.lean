import Muster.Token

/-!
The payloads of token messages: a worker's request, and the master's delivery with the same id.
-/

namespace Muster

structure TokenRequest where
  id : Nat
  identity : Identity
deriving DecidableEq

inductive TokenOutcome
  | issued (token : AccessToken)
  | failed (reason : String)
deriving DecidableEq

structure TokenDelivery where
  id : Nat
  identity : Identity
  outcome : TokenOutcome
deriving DecidableEq

namespace TokenRequest

def toJson (r : TokenRequest) : Json :=
  .ofFields [("correlation_id", .int r.id), ("identity", .string r.identity)]

def fieldNames : List String := ["correlation_id", "identity"]

def ofJson? (j : Json) : Option TokenRequest := do
  let parts ← Json.Parts.ofJson? j
  guard (parts.fits fieldNames)
  return {
    id := ← parts.field "correlation_id" 0 Json.asNat?
    identity := ← parts.field "identity" 1 Json.asString? }

end TokenRequest

namespace TokenOutcome

/-- What the master delivers for the result of a call for a token. -/
def ofResult : TokenResult → TokenOutcome
  | .ok token => .issued token
  | .error error => .failed error.message

def toJson : TokenOutcome → Json
  | .issued token => .ofFields [("kind", .string "issued"), ("token", token.toJson)]
  | .failed reason => .ofFields [("kind", .string "failed"), ("reason", .string reason)]

def ofJson? (j : Json) : Option TokenOutcome := do
  match ← Json.tagged? "kind" j with
  | ("issued", parts) =>
    guard (parts.fits ["token"])
    return .issued (← parts.field "token" 0 AccessToken.ofJson?)
  | ("failed", parts) =>
    guard (parts.fits ["reason"])
    return .failed (← parts.field "reason" 0 Json.asString?)
  | _ => none

end TokenOutcome

namespace TokenDelivery

def toJson (d : TokenDelivery) : Json :=
  .ofFields [("correlation_id", .int d.id), ("identity", .string d.identity),
    ("outcome", d.outcome.toJson)]

def fieldNames : List String := ["correlation_id", "identity", "outcome"]

def ofJson? (j : Json) : Option TokenDelivery := do
  let parts ← Json.Parts.ofJson? j
  guard (parts.fits fieldNames)
  return {
    id := ← parts.field "correlation_id" 0 Json.asNat?
    identity := ← parts.field "identity" 1 Json.asString?
    outcome := ← parts.field "outcome" 2 TokenOutcome.ofJson? }

end TokenDelivery

end Muster
