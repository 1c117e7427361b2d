import Muster.Site

/-!
A run in one process: a hub, the sites that work over it, two clocks, the source of the tokens, and
everything that is on its way. This module holds the state and what is done to it from outside;
`Muster.Run.Move` holds what then happens by itself.
-/

namespace Muster

/-- What recorders outside the sites got. -/
inductive Caught
  | message (label : String) (message : Message)
  | request (label : String) (request : DataRequest)
deriving DecidableEq

/-- A refresh that waits for the answer of the token source. -/
structure SourceCall where
  site : SiteId
  flight : Nat
  identity : Identity
deriving DecidableEq

/-- The token source: what it was asked, who waits for an answer, and answers given ahead. -/
structure TokenSource where
  asked : List Identity := []
  waiting : List SourceCall := []
  queued : List (Identity × SourceAnswer) := []
deriving DecidableEq

inductive Call
  | data (site : SiteId) (id : Nat)
  | token (site : SiteId) (identity : Identity) (id : Nat)
  | issue (site : SiteId) (flight : Nat)
deriving DecidableEq

inductive CallResult
  | data (result : DataResult)
  | token (result : TokenResult)
deriving DecidableEq

/-- A token request whose handler waits for a refresh before it replies. -/
structure Reply where
  site : SiteId
  flight : Nat
  target : NodeId
  worker : NodeId
  request : TokenRequest
deriving DecidableEq

structure Run where
  hub : Hub Handler Link := {}
  registry : Registry Handler := {}
  sites : List Site := []
  /-- the clock that tokens expire by -/
  clock : Millis := 0
  /-- the clock that waits are bounded by -/
  time : Nat := 0
  log : List Event := []
  caught : List Caught := []
  tokenSource : TokenSource := {}
  /-- how many calls were made, and those that have not returned, by number -/
  made : Nat := 0
  calls : Table Nat Call := ∅
  replies : List Reply := []
  /-- the results of calls, in the order they returned -/
  returned : List (Nat × CallResult) := []
deriving DecidableEq

namespace TokenSource

/-- A refresh asks the source. It has its answer at once if one was given ahead. -/
def ask (source : TokenSource) (call : SourceCall) : Option SourceAnswer × TokenSource :=
  let asked := source.asked ++ [call.identity]
  match source.queued.find? fun entry => entry.1 = call.identity with
  | some entry =>
    (some entry.2,
      { source with asked, queued := source.queued.eraseP fun other => other.1 = call.identity })
  | none => (none, { source with asked, waiting := source.waiting ++ [call] })

end TokenSource

namespace Run

def site? (r : Run) (id : SiteId) : Option Site := r.sites[id]?

def setSite (r : Run) (id : SiteId) (site : Site) : Run := { r with sites := r.sites.set id site }

/-- Events of a site go to the log of the run, unless it keeps them to itself. -/
def record (r : Run) (site : Site) (events : List Event) : Run :=
  if site.logged then { r with log := r.log ++ events } else r

/-- Starts a process in its role. Nothing is left of one that fails to start, but for events that
it had recorded before. -/
def startVia (r : Run) (connect : Connector) (files : Files) (shuffles : Shuffles)
    (setup : Setup) : Except RoleError SiteId × Run :=
  let id := r.sites.length
  match setup.assemble files shuffles connect r.registry id with
  | .error error => (.error error, r)
  | .ok (site, events) =>
    let r := r.record site events
    match site.attach r.hub site.effective with
    | .error error => (.error (.transport error), r)
    | .ok (site, hub) =>
      (.ok id, { r with hub, sites := r.sites ++ [site] }.record site [site.initializedEvent])

/-- Starts a process that finds dispensers over the hub. -/
def start (r : Run) (files : Files) (shuffles : Shuffles) (setup : Setup) :
    Except RoleError SiteId × Run :=
  r.startVia r.hub.connect files shuffles setup

/-- Registers an override; it counts for sites that start from now on. -/
def register (r : Run) (d : Direction) (name : MessageName) (entry : HandlerEntry Handler) : Run :=
  { r with registry := r.registry.register d name entry }

def clearRegistry (r : Run) : Run := { r with registry := {} }

def attach (r : Run) (node : NodeId) (table : HandlerTable Handler) : Run :=
  { r with hub := r.hub.attach node table }

def detach (r : Run) (node : NodeId) : Bool × Run :=
  let (was, hub) := r.hub.detach node
  (was, { r with hub })

def publish (r : Run) (address : String) (link : Link) : Run :=
  { r with hub := r.hub.publish address link }

def advance (r : Run) (ms : Nat) : Run := { r with time := r.time + ms }

def setClock (r : Run) (clock : Millis) : Run := { r with clock }

def send (r : Run) (sender : NodeId) (destination : Destination) (name : MessageName)
    (payload : Json) : Except TransportError Run :=
  (r.hub.send sender destination name payload).map fun hub => { r with hub }

def submit (r : Run) (link : Link) (request : DataRequest) : Except TransportError Run :=
  match link with
  | .recorder label none => .ok { r with caught := r.caught ++ [.request label request] }
  | .recorder _ (some refusal) => .error refusal
  | .dispenser id =>
    match (r.site? id).bind fun site => site.dispenser.map fun dispenser => (site, dispenser) with
    | none => .error (.sendFailed Dispenser.stoppedReason)
    | some (site, dispenser) =>
      (dispenser.submit request).map fun dispenser =>
        r.setSite id { site with dispenser := some dispenser }

def submitTo (r : Run) (address : String) (request : DataRequest) : Except TransportError Run :=
  (r.hub.connect address).bind fun link => r.submit link request

def dial (r : Run) : Nat × Run := (r.made + 1, { r with made := r.made + 1 })

def finish (r : Run) (number : Nat) (result : CallResult) : Run :=
  { r with calls := r.calls.erase number, returned := r.returned ++ [(number, result)] }

def hold (r : Run) (number : Nat) (call : Call) : Run :=
  { r with calls := r.calls.insert number call }

def withRequester (r : Run) (id : SiteId) (f : Requester Link → Requester Link) : Run :=
  match r.site? id with
  | some site => r.setSite id { site with requester := site.requester.map f }
  | none => r

def withClient (r : Run) (id : SiteId) (f : TokenClient → TokenClient) : Run :=
  match r.site? id with
  | some site => r.setSite id { site with client := site.client.map f }
  | none => r

def requestData (r : Run) (id : SiteId) (scenario : ScenarioId) : Option (Nat × Run) := do
  let site ← r.site? id
  let requester ← site.requester
  let (number, r) := r.dial
  match requester.link with
  | none =>
    return (number,
      (r.record site [requester.missingEvent scenario]).finish number (.data (.error .noProducer)))
  | some link =>
    let (request, _) := requester.register scenario
    let r := r.withRequester id fun requester => (requester.register scenario).2
    match r.submit link request with
    | .error error =>
      return (number,
        (r.withRequester id fun requester => requester.withdraw request.id).finish number
          (.data (.error (.transport error))))
    | .ok r =>
      return (number,
        (r.withRequester id fun requester => requester.wait request.id r.time).hold number
          (.data id request.id))

def requestToken (r : Run) (id : SiteId) (identity : Identity) : Option (Nat × Run) := do
  let site ← r.site? id
  let client ← site.client
  let (number, r) := r.dial
  match client.fresh? identity (site.now r.clock) with
  | some token => return (number, r.finish number (.token (.ok token)))
  | none =>
    let (request, _) := client.register identity
    let r := r.withClient id fun client => (client.register identity).2
    match r.send site.node .master produceToken request.toJson with
    | .error error =>
      return (number,
        (r.withClient id fun client => client.withdraw request.id).finish number
          (.token (.error (.transport error.message))))
    | .ok r =>
      return (number,
        (r.withClient id fun client => client.wait request.id r.time).hold number
          (.token id identity request.id))

/-- A flight that has just started asks the token source. -/
def takeOff (r : Run) (id : SiteId) (flight : Nat) (identity : Identity) : Run :=
  match r.tokenSource.ask ⟨id, flight, identity⟩ with
  | (none, tokenSource) => { r with tokenSource }
  | (some answer, tokenSource) =>
    let r := { r with tokenSource }
    match r.site? id with
    | none => r
    | some site =>
      r.setSite id
        { site with
          issuer := site.issuer.map fun issuer =>
            issuer.answer flight answer (site.now r.clock) }

def enterIssuer (r : Run) (id : SiteId) (identity : Identity) : Option (Entry × Run) := do
  let site ← r.site? id
  let issuer ← site.issuer
  let (entry, entered) := issuer.enter identity (site.now r.clock)
  let r := r.setSite id { site with issuer := some entered }
  return (entry,
    if issuer.started < entered.started then r.takeOff id issuer.started identity else r)

def requestIssue (r : Run) (id : SiteId) (identity : Identity) : Option (Nat × Run) := do
  let (entry, r) ← r.enterIssuer id identity
  let (number, r) := r.dial
  match entry with
  | .served token => return (number, r.finish number (.token (.ok token)))
  | .waits flight => return (number, r.hold number (.issue id flight))

/-- The source answers the oldest refresh of an identity that still waits, or the next one. True if
one waited. -/
def answer (r : Run) (identity : Identity) (answer : SourceAnswer) : Bool × Run :=
  let isCalling := fun (call : SourceCall) =>
    call.identity = identity &&
      (((r.site? call.site).bind (·.issuer)).any fun issuer =>
        issuer.calling.contains (call.flight, identity))
  let source := r.tokenSource
  match source.waiting.find? isCalling with
  | none =>
    (false,
      { r with tokenSource := { source with queued := source.queued ++ [(identity, answer)] } })
  | some call =>
    let r := { r with tokenSource := { source with waiting := source.waiting.erase call } }
    match r.site? call.site with
    | none => (true, r)
    | some site =>
      (true,
        r.setSite call.site
          { site with
            issuer := site.issuer.map fun issuer =>
              issuer.answer call.flight answer (site.now r.clock) })

def deliverData (r : Run) (id : SiteId) (response : DataResponse) : Option (Bool × Run) := do
  let site ← r.site? id
  let requester ← site.requester
  let (delivered, requester, events) := requester.deliver response
  return (delivered,
    (r.setSite id { site with requester := some requester }).record site events)

def deliverToken (r : Run) (id : SiteId) (delivery : TokenDelivery) : Option (Bool × Run) := do
  let site ← r.site? id
  let client ← site.client
  let (delivered, client, events) := client.deliver delivery
  return (delivered, (r.setSite id { site with client := some client }).record site events)

def completeSpawning (r : Run) (id : SiteId) (users : Nat) : Option (Bool × Run) := do
  let site ← r.site? id
  let (opened, site, events) := site.completeSpawning users
  return (opened, (r.setSite id site).record site events)

def stepBarrier (r : Run) (id : SiteId) (action : Barrier.Action) : Option (Bool × Run) := do
  let site ← r.site? id
  let (opened, barrier) := site.barrier.step action
  return (opened, r.setSite id { site with barrier })

def validate (r : Run) (id : SiteId) (book : StatsBook) : Option (Report × Run) := do
  let site ← r.site? id
  let (report, site, events) := site.validate book
  return (report, (r.setSite id site).record site events)

def teardown (r : Run) (id : SiteId) : Option (Site.Teardown × Run) := do
  let site ← r.site? id
  let (summary, site, hub, events) := site.teardown r.hub
  return (summary, ({ r with hub }.setSite id site).record site events)

def cancelData (r : Run) (id : SiteId) : Option (Nat × Run) := do
  let site ← r.site? id
  let (count, site) := site.cancelData
  return (count, r.setSite id site)

def cancelTokens (r : Run) (id : SiteId) : Option (Nat × Run) := do
  let site ← r.site? id
  let (count, site) := site.cancelTokens
  return (count, r.setSite id site)

def cancelRefreshes (r : Run) (id : SiteId) : Option (Nat × Run) := do
  let site ← r.site? id
  let (count, site) := site.cancelRefreshes
  return (count, r.setSite id site)

def stopDispenser (r : Run) (id : SiteId) : Option Run := do
  let site ← r.site? id
  return r.setSite id site.stopDispenser.2

end Run

end Muster
