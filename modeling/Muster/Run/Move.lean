import Muster.Run

/-!
What happens in a run by itself: handlers run, dispensers serve, refreshes settle, calls return.
Each is one move, and moves may be made in any order; `settle` makes moves until none is left.
-/

namespace Muster.Run

inductive Move
  | returns (number : Nat)
  | handle (index : Nat)
  | serve (site : SiteId) (number : Nat)
  /-- a refresh goes on after its answer: into the slot, into the log, to those who wait -/
  | refresh (site : SiteId) (flight : Nat)
  | reply (index : Nat)
deriving DecidableEq

/-- What the handlers say about a payload that is not what they expect. -/
def malformedReason : String := "unexpected form"

def fail (r : Run) (target : NodeId) (name : MessageName) (error : HandlerError) : Run :=
  { r with log := r.log ++ [Hub.handlerFailedEvent target name error] }

/-- A token handler sends the result of a call for a token to the worker that asked. -/
def deliverTo (r : Run) (id : SiteId) (target worker : NodeId) (request : TokenRequest)
    (result : TokenResult) : Run :=
  let delivery : TokenDelivery := ⟨request.id, request.identity, .ofResult result⟩
  match r.site? id with
  | none => r
  | some site =>
    match r.send site.node (.worker worker) consumeToken delivery.toJson with
    | .ok r => r
    | .error error => r.fail target produceToken (.reply error)

def invoke (r : Run) (invocation : Invocation Handler) : Run :=
  let message := invocation.message
  let malformed :=
    r.fail invocation.target message.name (.malformedPayload message.name malformedReason)
  match invocation.handler with
  | .recorder label failure =>
    let r := { r with caught := r.caught ++ [.message label message] }
    match failure with
    | none => r
    | some reason => r.fail invocation.target message.name (.failed reason)
  | .consumeTestdata id =>
    match DataResponse.ofJson? message.payload with
    | none => malformed
    | some response => ((r.deliverData id response).map (·.2)).getD r
  | .consumeToken id =>
    match TokenDelivery.ofJson? message.payload with
    | none => malformed
    | some delivery => ((r.deliverToken id delivery).map (·.2)).getD r
  | .produceToken id =>
    match TokenRequest.ofJson? message.payload with
    | none => malformed
    | some request =>
      match r.enterIssuer id request.identity with
      | none => r
      | some (.served token, r) =>
        r.deliverTo id invocation.target message.sender request (.ok token)
      | some (.waits flight, r) =>
        { r with
          replies := r.replies ++ [⟨id, flight, invocation.target, message.sender, request⟩] }

def handle (r : Run) (index : Nat) : Option Run :=
  (r.hub.take index).map fun (invocation, hub) => { r with hub }.invoke invocation

def serve (r : Run) (id : SiteId) (number : Nat) : Option Run := do
  let site ← r.site? id
  let dispenser ← site.dispenser
  let (served, dispenser) ← dispenser.serve site.barrier number
  let r := (r.setSite id { site with dispenser := some dispenser }).record site served.events
  match r.send site.node (.worker served.worker) consumeTestdata served.response.toJson with
  | .ok r => return r
  | .error error => return r.record site [Dispenser.replyFailedEvent served error]

def refresh (r : Run) (id : SiteId) (flight : Nat) : Option Run := do
  let site ← r.site? id
  let issuer ← site.issuer
  let put := fun (issuer : Issuer) => r.setSite id { site with issuer := some issuer }
  match (← issuer.flights.find? flight).phase with
  | .decided _ => return put (issuer.settle flight)
  | .settled _ =>
    let (events, issuer) := issuer.report flight
    return (put issuer).record site events
  | .reported _ => return put (issuer.publish flight)
  | _ => none

def flightOutcome? (r : Run) (id : SiteId) (flight : Nat) : Option TokenResult :=
  ((r.site? id).bind (·.issuer)).bind fun issuer => issuer.outcome? flight

def reply (r : Run) (index : Nat) : Option Run := do
  let waiting ← r.replies[index]?
  let result ← r.flightOutcome? waiting.site waiting.flight
  return { r with replies := r.replies.eraseIdx index }.deliverTo waiting.site waiting.target
    waiting.worker waiting.request result

def returns (r : Run) (number : Nat) : Option Run := do
  match ← r.calls.find? number with
  | .data id request =>
    let site ← r.site? id
    let (result, requester) ← (← site.requester).resolve request r.time
    return (r.setSite id { site with requester := some requester }).finish number (.data result)
  | .token id identity request =>
    let site ← r.site? id
    let (result, client) ← (← site.client).resolve identity request r.time (site.now r.clock)
    return (r.setSite id { site with client := some client }).finish number (.token result)
  | .issue id flight => return r.finish number (.token (← r.flightOutcome? id flight))

/-- Makes a move; nothing if it cannot be made. -/
def step (r : Run) : Move → Option Run
  | .returns number => r.returns number
  | .handle index => r.handle index
  | .serve id number => r.serve id number
  | .refresh id flight => r.refresh id flight
  | .reply index => r.reply index

def siteMoves (id : SiteId) (site : Site) : List Move :=
  ((site.dispenser.map fun dispenser => dispenser.parked.keys.map (Move.serve id)).getD [])
    ++ ((site.issuer.map fun issuer => issuer.flights.keys.map (Move.refresh id)).getD [])

def moves (r : Run) : List Move :=
  r.calls.keys.map .returns
    ++ (List.range r.hub.inbox.length).map .handle
    ++ (r.sites.zipIdx.flatMap fun (site, id) => siteMoves id site)
    ++ (List.range r.replies.length).map .reply

def next? (r : Run) : Option Run := r.moves.findSome? r.step

/-- Makes so many moves, fewer if none is left. -/
def settleWithin : Nat → Run → Run
  | 0, r => r
  | count + 1, r =>
    match r.next? with
    | some r => settleWithin count r
    | none => r

/-- More moves than can follow one another without a cause from outside: a request is served,
answered and returned, and a token request takes a refresh besides. -/
def bound (r : Run) : Nat := 16 * (r.moves.length + r.tokenSource.queued.length + 1)

def settle (r : Run) : Run := settleWithin r.bound r

end Muster.Run
