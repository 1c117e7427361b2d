import Muster.Barrier
import Muster.Record.Exchange
import Muster.Record.Stock

/-!
The endpoint that serves a stock to the workers. A request that is accepted waits behind the spawn
barrier; it is served once, on its own, when the barrier is open. After a shutdown nothing is
accepted and nothing is drawn.
-/

namespace Muster

structure Dispenser where
  stock : Stock
  stopped : Bool := false
  accepted : Nat := 0
  parked : Table Nat DataRequest := ∅
deriving DecidableEq

namespace Dispenser

def stoppedReason : String := "test data producer stopped"

/-- Accepts a request; it waits under the next number. -/
def submit (d : Dispenser) (request : DataRequest) : Except TransportError Dispenser :=
  if d.stopped then .error (.sendFailed stoppedReason)
  else .ok { d with parked := d.parked.insert d.accepted request, accepted := d.accepted + 1 }

/-- The reply that a draw makes. -/
def replyOf : Except StockError DataOutcome → DataReply
  | .ok (.record record) => .record record
  | .ok .exhausted => .exhausted
  | .error error => .failed error.message

/-- A served request: the worker that asked, its response, and what is reported. -/
structure Served where
  worker : NodeId
  response : DataResponse
  events : List Event
deriving DecidableEq

/-- Serves the waiting request of a number if the barrier is open. -/
def serve (d : Dispenser) (barrier : Barrier) (number : Nat) : Option (Served × Dispenser) :=
  if barrier.isOpen && !d.stopped then
    (d.parked.find? number).map fun request =>
      let drawn := d.stock.request request.scenario request.worker
      ({ worker := request.worker
         response := ⟨request.id, request.scenario, replyOf drawn.outcome⟩
         events := drawn.events },
        { d with stock := drawn.stock, parked := d.parked.erase number })
  else none

/-- Nothing is accepted from now on, and the requests that wait are dropped. -/
def shutdown (d : Dispenser) : Dispenser := { d with stopped := true, parked := ∅ }

def replyFailedEvent (request : Served) (error : TransportError) : Event :=
  { name := "testdata_reply_failed", level := .warn
    message := "failed to deliver test data to " ++ request.worker ++ ": " ++ error.message
    scenario := some request.response.scenario, node := some request.worker }

end Dispenser

end Muster
