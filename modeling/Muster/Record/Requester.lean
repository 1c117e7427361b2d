import Muster.Pending
import Muster.Record.Exchange
import Muster.Event

/-!
A worker's side of the test data exchange: it asks over a link to a dispenser and matches replies
to the requests that wait. Requests are never repeated.
-/

namespace Muster

inductive DataError
  | noProducer
  | timeout (bound : Millis)
  | cancelled
  | transport (cause : TransportError)
  | producer (reason : String)
deriving DecidableEq

def missingText : String := "there is no test data"

def DataError.message : DataError → String
  | .noProducer => missingText
  | .timeout bound => "test data request timed out after " ++ Millis.durationText bound
  | .cancelled => "test data request cancelled"
  | .transport cause => "test data request failed: " ++ cause.message
  | .producer reason => "test data producer failed: " ++ reason

abbrev DataResult := Except DataError DataOutcome

/-- A requester; without a link it has nobody to ask. -/
structure Requester (ℓ : Type) where
  worker : NodeId
  link : Option ℓ
  timeout : Millis
  pending : Pending DataReply := {}
deriving DecidableEq

namespace Requester

variable {ℓ : Type}

def missingEvent (r : Requester ℓ) (scenario : ScenarioId) : Event :=
  { name := "testdata_missing", level := .error, message := missingText
    scenario := some scenario, node := some r.worker }

/-- Opens a request for the next record of a scenario. -/
def register (r : Requester ℓ) (scenario : ScenarioId) : DataRequest × Requester ℓ :=
  let (id, pending) := r.pending.register
  (⟨id, scenario, r.worker⟩, { r with pending })

/-- The request could not be submitted. -/
def withdraw (r : Requester ℓ) (id : Nat) : Requester ℓ :=
  { r with pending := ((r.pending.forget id).abandon id).2 }

/-- Waits for the reply to a request that was submitted. -/
def wait (r : Requester ℓ) (id : Nat) (time : Nat) : Requester ℓ :=
  { r with pending := (r.pending.wait id r.timeout time).2 }

/-- What a call makes of its reply. -/
def accept : DataReply → DataResult
  | .record record => .ok (.record record)
  | .exhausted => .ok .exhausted
  | .failed reason => .error (.producer reason)

/-- The waiting call resolves, if it does at this time. -/
def resolve (r : Requester ℓ) (id : Nat) (time : Nat) : Option (DataResult × Requester ℓ) :=
  (r.pending.resolve id time).map fun (result, pending) =>
    (match result with
      | .ok reply => accept reply
      | .error (.timeout bound) => .error (.timeout bound)
      | .error .cancelled => .error .cancelled,
      { r with pending })

def orphanEvent (r : Requester ℓ) (response : DataResponse) : Event :=
  { name := "testdata_orphan_response", level := .warn
    message := "dropping test data response " ++ toString response.id
      ++ " with no waiting request"
    scenario := some response.scenario, node := some r.worker }

/-- Takes a response for whoever waits. One that nobody waits for is reported. -/
def deliver (r : Requester ℓ) (response : DataResponse) : Bool × Requester ℓ × List Event :=
  let (delivered, pending) := r.pending.complete response.id response.reply
  (delivered, { r with pending }, if delivered then [] else [r.orphanEvent response])

def cancelAll (r : Requester ℓ) : Nat × Requester ℓ :=
  let (count, pending) := r.pending.cancelAll
  (count, { r with pending })

end Requester

end Muster
