import Muster.Hub
import Muster.Token.Client
import Muster.Token.Delivery
import Muster.Token.Issuer

/-!
The issuance of tokens: issuers and token clients joined by a hub, with everything that is on its
way. A client is one incarnation of a node; starting the node again makes another one, and from then
on the hub takes deliveries for the node to that. An action may come at any time, and one that is
not possible does nothing. Calls, deliveries and the answers of the token source are kept for good.
-/

namespace Muster

/-- A call for a token that asks the master: the client that made it, the id it waits under, and
the identity it is for. -/
structure TokenCall where
  site : Nat
  id : Nat
  identity : Identity
deriving DecidableEq

/-- A request of a call on its way to the issuer that the master had when it was sent. -/
structure Plea where
  call : Nat
  issuer : Nat
  sender : NodeId
  payload : Json
deriving DecidableEq

/-- A request whose handler waits for a flight. -/
structure Errand where
  call : Nat
  issuer : Nat
  sender : NodeId
  request : TokenRequest
  flight : Nat
deriving DecidableEq

structure Dispatch where
  call : Nat
  worker : NodeId
  delivery : TokenDelivery
deriving DecidableEq

/-- A delivery on its way to the client that its node had when it was sent. -/
structure Packet where
  dispatch : Dispatch
  site : Nat
  payload : Json
deriving DecidableEq

structure Arrival where
  dispatch : Dispatch
  site : Nat
  delivery : TokenDelivery
  /-- a caller got it -/
  accepted : Bool
deriving DecidableEq

/-- An answer of the token source to a refresh of an identity. -/
structure SourceNote where
  identity : Identity
  answer : SourceAnswer
  now : Millis
  lifetime : Millis
deriving DecidableEq

structure Issuance where
  hub : Hub Nat Nat := {}
  issuers : List Issuer := []
  clients : List TokenClient := []
  calls : List TokenCall := []
  /-- the calls whose request was sent, or could not be -/
  tried : List Nat := []
  pleas : List Plea := []
  errands : List Errand := []
  outbox : List Dispatch := []
  transit : List Packet := []
  arrivals : List Arrival := []
  answers : List SourceNote := []
  returned : List (Nat × TokenResult) := []
  /-- the tokens of calls that a client served from its cache -/
  served : List (Identity × AccessToken) := []
deriving DecidableEq

namespace Issuance

inductive Action
  | start (node : NodeId) (client : Option (TokenPolicy × Millis)) (issuer : Option TokenPolicy)
  | close (node : NodeId)
  | cancelAll (site : Nat)
  | issue (issuer : Nat) (action : Issuer.Action)
  | call (site : Nat) (identity : Identity) (now : Millis)
  | ask (call : Nat) (refusal : Option TransportError)
  | wait (call time : Nat)
  | handle (index : Nat) (now : Millis)
  | finish (index : Nat)
  | send (index : Nat) (refused : Bool)
  | deliver (index : Nat)
  | lose (index : Nat)
  | returns (call time : Nat) (now : Millis)

variable (s : Issuance)

/-- The handlers of a client and an issuer at one node; the hub knows them by their numbers. -/
def handlersOf (client issuer : Option Nat) : HandlerTable Nat :=
  Table.ofList ((client.map fun n => (consumeToken, ⟨n, true⟩)).toList ++
    (issuer.map fun n => (produceToken, ⟨n, true⟩)).toList)

def start (node : NodeId) (client : Option (TokenPolicy × Millis)) (issuer : Option TokenPolicy) :
    Issuance :=
  { s with
    hub := s.hub.attach node (handlersOf (client.map fun _ => s.clients.length)
      (issuer.map fun _ => s.issuers.length))
    clients := s.clients ++
      (client.map fun (policy, timeout) => ({ node, policy, timeout } : TokenClient)).toList
    issuers := s.issuers ++ (issuer.map fun policy => ({ policy } : Issuer)).toList }

def close (node : NodeId) : Issuance := { s with hub := s.hub.attach node ∅ }

def withClient (i : Nat) (f : TokenClient → TokenClient) : Issuance :=
  match s.clients[i]? with
  | some client => { s with clients := s.clients.set i (f client) }
  | none => s

/-- What the token source says by an action, if that decides a flight. -/
def notesOf (issuer : Issuer) : Issuer.Action → List SourceNote
  | .answer flight answer now =>
    match issuer.flights.find? flight with
    | some ⟨identity, .calling⟩ => [⟨identity, answer, now, issuer.policy.defaultLifetime⟩]
    | _ => []
  | _ => []

def issue (k : Nat) (action : Issuer.Action) : Issuance :=
  match s.issuers[k]? with
  | some issuer =>
    { s with
      issuers := s.issuers.set k (issuer.step action)
      answers := s.answers ++ notesOf issuer action }
  | none => s

def call (i : Nat) (identity : Identity) (now : Millis) : Issuance :=
  match s.clients[i]? with
  | some client =>
    match client.fresh? identity now with
    | some token => { s with served := s.served ++ [(identity, token)] }
    | none =>
      { s with
        clients := s.clients.set i (client.register identity).2
        calls := s.calls ++ [⟨i, (client.register identity).1.id, identity⟩] }
  | none => s

def refuse (number : Nat) (call : TokenCall) (client : TokenClient) (error : TransportError) :
    Issuance :=
  { s with
    clients := s.clients.set call.site (client.withdraw call.id)
    tried := s.tried ++ [number]
    returned := s.returned ++ [(number, .error (.transport error.message))] }

def ask (number : Nat) (refusal : Option TransportError) : Issuance :=
  if number ∈ s.tried then s
  else
    match s.calls[number]? with
    | some call =>
      match s.clients[call.site]? with
      | some client =>
        match refusal, s.hub.bound (s.hub.addressee .master) produceToken with
        | none, .ok issuer =>
          { s with
            tried := s.tried ++ [number]
            pleas := s.pleas ++
              [⟨number, issuer, client.node, (TokenRequest.mk call.id call.identity).toJson⟩] }
        | none, .error error => s.refuse number call client error
        | some error, _ => s.refuse number call client error
      | none => s
    | none => s

def wait (number time : Nat) : Issuance :=
  match s.calls[number]? with
  | some call =>
    if number ∈ s.tried then s.withClient call.site fun client => client.wait call.id time else s
  | none => s

def handle (index : Nat) (now : Millis) : Issuance :=
  match s.pleas[index]? with
  | some plea =>
    match TokenRequest.ofJson? plea.payload, s.issuers[plea.issuer]? with
    | some request, some issuer =>
      let entered := s.issue plea.issuer (.enter request.identity now)
      match (issuer.enter request.identity now).1 with
      | .served token =>
        { entered with
          pleas := s.pleas.eraseIdx index
          outbox := s.outbox ++
            [⟨plea.call, plea.sender, ⟨request.id, request.identity, .issued token⟩⟩] }
      | .waits flight =>
        { entered with
          pleas := s.pleas.eraseIdx index
          errands := s.errands ++ [⟨plea.call, plea.issuer, plea.sender, request, flight⟩] }
    | _, _ => { s with pleas := s.pleas.eraseIdx index }
  | none => s

def finish (index : Nat) : Issuance :=
  match s.errands[index]? with
  | some errand =>
    match (s.issuers[errand.issuer]?).bind fun issuer => issuer.outcome? errand.flight with
    | some result =>
      { s with
        errands := s.errands.eraseIdx index
        outbox := s.outbox ++ [⟨errand.call, errand.sender,
          ⟨errand.request.id, errand.request.identity, .ofResult result⟩⟩] }
    | none => s
  | none => s

/-- A delivery is sent to its worker. What cannot be sent is gone. -/
def send (index : Nat) (refused : Bool) : Issuance :=
  match s.outbox[index]? with
  | some dispatch =>
    match refused, s.hub.bound dispatch.worker consumeToken with
    | false, .ok site =>
      { s with
        outbox := s.outbox.eraseIdx index
        transit := s.transit ++ [⟨dispatch, site, dispatch.delivery.toJson⟩] }
    | _, _ => { s with outbox := s.outbox.eraseIdx index }
  | none => s

/-- A delivery arrives. One that cannot be read is gone. -/
def deliver (index : Nat) : Issuance :=
  match s.transit[index]? with
  | some packet =>
    match TokenDelivery.ofJson? packet.payload, s.clients[packet.site]? with
    | some delivery, some client =>
      let (accepted, client, _) := client.deliver delivery
      { s with
        clients := s.clients.set packet.site client
        transit := s.transit.eraseIdx index
        arrivals := s.arrivals ++ [⟨packet.dispatch, packet.site, delivery, accepted⟩] }
    | _, _ => { s with transit := s.transit.eraseIdx index }
  | none => s

def lose (index : Nat) : Issuance := { s with transit := s.transit.eraseIdx index }

def returns (number time : Nat) (now : Millis) : Issuance :=
  match s.calls[number]? with
  | some call =>
    match (s.clients[call.site]?).bind fun client =>
        client.resolve call.identity call.id time now with
    | some (result, client) =>
      { s with
        clients := s.clients.set call.site client
        returned := s.returned ++ [(number, result)] }
    | none => s
  | none => s

def step : Action → Issuance
  | .start node client issuer => s.start node client issuer
  | .close node => s.close node
  | .cancelAll i => s.withClient i fun client => client.cancelAll.2
  | .issue k action => s.issue k action
  | .call i identity now => s.call i identity now
  | .ask number refusal => s.ask number refusal
  | .wait number time => s.wait number time
  | .handle index now => s.handle index now
  | .finish index => s.finish index
  | .send index refused => s.send index refused
  | .deliver index => s.deliver index
  | .lose index => s.lose index
  | .returns number time now => s.returns number time now

def run (s : Issuance) (actions : List Action) : Issuance := actions.foldl step s

end Issuance

end Muster
