import Muster.Hub
import Muster.Proofs.Record.Station
import Muster.Record.Requester

/-!
The supply of records: dispensers and requesters joined by a hub, with everything that is on its
way. A requester is one incarnation of a worker; starting a node again makes another one, and from
then on the hub takes replies for the node to that. An action may come at any time, and one that is
not possible does nothing. Calls, accepted requests, draws and deliveries are kept for good.
-/

namespace Muster

/-- A call for a record: the requester that made it, the id it waits under, what it asked for. -/
structure DataCall where
  site : Nat
  id : Nat
  scenario : ScenarioId
deriving DecidableEq

/-- A reply on its way to the requester that its node had when it was sent. -/
structure Parcel where
  station : Nat
  draw : Draw
  site : Nat
  payload : Json
deriving DecidableEq

structure Receipt where
  station : Nat
  draw : Draw
  site : Nat
  response : DataResponse
  /-- a caller got the reply -/
  accepted : Bool
deriving DecidableEq

structure Supply where
  hub : Hub Nat Nat := {}
  stations : List Station := []
  sites : List (Requester Nat) := []
  calls : List DataCall := []
  /-- the calls whose request was submitted, or could not be -/
  tried : List Nat := []
  /-- the draws whose replies were not sent yet, each with its station -/
  outbox : List (Nat × Draw) := []
  transit : List Parcel := []
  receipts : List Receipt := []
  returned : List (Nat × DataResult) := []
deriving DecidableEq

namespace Supply

inductive Action
  | openStation (files : Files) (shuffles : Shuffles) (plans : List PoolPlan)
  | work (station : Nat) (action : Barrier.Action)
  | shutdown (station : Nat)
  | start (node : NodeId) (link : Option Nat) (timeout : Millis)
  | close (node : NodeId)
  | cancelAll (site : Nat)
  | request (site : Nat) (scenario : ScenarioId)
  | submit (call : Nat) (refusal : Option TransportError)
  | wait (call : Nat) (time : Nat)
  | look (station number : Nat)
  | serve (station number : Nat)
  | send (index : Nat) (refused : Bool)
  | deliver (index : Nat)
  | lose (index : Nat)
  | returns (call : Nat) (time : Nat)

variable (s : Supply)

def openStation (files : Files) (shuffles : Shuffles) (plans : List PoolPlan) : Supply :=
  match Stock.load files shuffles plans with
  | .ok stock => { s with stations := s.stations ++ [{ dispenser := { stock } }] }
  | .error _ => s

def withStation (k : Nat) (f : Station → Station) : Supply :=
  match s.stations[k]? with
  | some station => { s with stations := s.stations.set k (f station) }
  | none => s

def withSite (i : Nat) (f : Requester Nat → Requester Nat) : Supply :=
  match s.sites[i]? with
  | some site => { s with sites := s.sites.set i (f site) }
  | none => s

/-- The handlers of a requester; the hub knows it by its number. -/
def handlersOf (site : Nat) : HandlerTable Nat :=
  Table.ofList [(consumeTestdata, ⟨site, true⟩)]

def start (node : NodeId) (link : Option Nat) (timeout : Millis) : Supply :=
  { s with
    hub := s.hub.attach node (handlersOf s.sites.length)
    sites := s.sites ++ [{ worker := node, link, timeout }] }

def close (node : NodeId) : Supply := { s with hub := s.hub.attach node ∅ }

/-- A call registers its request. A requester without a link answers the call on the spot, and
nothing comes of it. -/
def request (i : Nat) (scenario : ScenarioId) : Supply :=
  match s.sites[i]? with
  | some site =>
    if site.link.isSome then
      { s with
        sites := s.sites.set i (site.register scenario).2
        calls := s.calls ++ [⟨i, (site.register scenario).1.id, scenario⟩] }
    else s
  | none => s

def refuse (number : Nat) (call : DataCall) (site : Requester Nat) (error : TransportError) :
    Supply :=
  { s with
    sites := s.sites.set call.site (site.withdraw call.id)
    tried := s.tried ++ [number]
    returned := s.returned ++ [(number, .error (.transport error))] }

def submit (number : Nat) (refusal : Option TransportError) : Supply :=
  if number ∈ s.tried then s
  else
    match s.calls[number]? with
    | some call =>
      match s.sites[call.site]? with
      | some site =>
        match site.link.bind fun k => (s.stations[k]?).map fun station => (k, station) with
        | some (k, station) =>
          match refusal, station.submit number ⟨call.id, call.scenario, site.worker⟩ with
          | none, .ok station =>
            { s with stations := s.stations.set k station, tried := s.tried ++ [number] }
          | none, .error error => s.refuse number call site error
          | some error, _ => s.refuse number call site error
        | none => s
      | none => s
    | none => s

def wait (number time : Nat) : Supply :=
  match s.calls[number]? with
  | some call =>
    if number ∈ s.tried then s.withSite call.site fun site => site.wait call.id time else s
  | none => s

def serve (k number : Nat) : Supply :=
  match s.stations[k]? with
  | some station =>
    match station.serve number with
    | some (draw, station) =>
      { s with stations := s.stations.set k station, outbox := s.outbox ++ [(k, draw)] }
    | none => s
  | none => s

/-- The reply of a draw is sent to its worker. What cannot be sent is gone. -/
def send (index : Nat) (refused : Bool) : Supply :=
  match s.outbox[index]? with
  | some (k, draw) =>
    match refused, s.hub.bound draw.worker consumeTestdata with
    | false, .ok site =>
      { s with
        outbox := s.outbox.eraseIdx index
        transit := s.transit ++ [⟨k, draw, site, draw.response.toJson⟩] }
    | _, _ => { s with outbox := s.outbox.eraseIdx index }
  | none => s

/-- A reply arrives. One that cannot be read is gone. -/
def deliver (index : Nat) : Supply :=
  match s.transit[index]? with
  | some parcel =>
    match DataResponse.ofJson? parcel.payload, s.sites[parcel.site]? with
    | some response, some site =>
      let (accepted, site, _) := site.deliver response
      { s with
        sites := s.sites.set parcel.site site
        transit := s.transit.eraseIdx index
        receipts := s.receipts ++ [⟨parcel.station, parcel.draw, parcel.site, response, accepted⟩] }
    | _, _ => { s with transit := s.transit.eraseIdx index }
  | none => s

def lose (index : Nat) : Supply := { s with transit := s.transit.eraseIdx index }

def returns (number time : Nat) : Supply :=
  match s.calls[number]? with
  | some call =>
    match (s.sites[call.site]?).bind fun site => site.resolve call.id time with
    | some (result, site) =>
      { s with
        sites := s.sites.set call.site site
        returned := s.returned ++ [(number, result)] }
    | none => s
  | none => s

def step : Action → Supply
  | .openStation files shuffles plans => s.openStation files shuffles plans
  | .work k action => s.withStation k fun station => station.work action
  | .shutdown k => s.withStation k Station.shutdown
  | .start node link timeout => s.start node link timeout
  | .close node => s.close node
  | .cancelAll i => s.withSite i fun site => site.cancelAll.2
  | .request i scenario => s.request i scenario
  | .submit number refusal => s.submit number refusal
  | .wait number time => s.wait number time
  | .look k number => s.withStation k fun station => station.look number
  | .serve k number => s.serve k number
  | .send index refused => s.send index refused
  | .deliver index => s.deliver index
  | .lose index => s.lose index
  | .returns number time => s.returns number time

def run (s : Supply) (actions : List Action) : Supply := actions.foldl step s

end Supply

end Muster
