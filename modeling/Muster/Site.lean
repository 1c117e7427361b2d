import Muster.Config
import Muster.Hub
import Muster.Record.Dispenser
import Muster.Record.Requester
import Muster.Role
import Muster.Token.Client
import Muster.Token.Issuer
import Muster.Verdict

/-!
A site is one process of a run in its role: the dispenser and the token issuer of the master side,
the requester and the token client of the worker side, the barrier between them, and the handler
table under which the process is reached.
-/

namespace Muster

/-- Sites are numbered in the order they start. -/
abbrev SiteId := Nat

inductive Handler
  | consumeTestdata (site : SiteId)
  | produceToken (site : SiteId)
  | consumeToken (site : SiteId)
  /-- from outside: it keeps what it gets, and may then fail -/
  | recorder (label : String) (failure : Option String)
deriving DecidableEq

inductive Link
  | dispenser (site : SiteId)
  /-- from outside: it keeps what it gets, or refuses it -/
  | recorder (label : String) (refusal : Option TransportError)
deriving DecidableEq

/-- What finds the dispenser of an address. -/
abbrev Connector := String → Except TransportError Link

structure Site where
  role : Role
  node : NodeId
  /-- a clock that stands still, in place of the clock of the run -/
  ownClock : Option Millis := none
  /-- its events go to the log of the run -/
  logged : Bool := true
  /-- how often it can still attach to the hub, if that is bounded -/
  attachesLeft : Option Nat := none
  barrier : Barrier := {}
  effective : HandlerTable Handler := ∅
  dispenser : Option Dispenser := none
  requester : Option (Requester Link) := none
  client : Option TokenClient := none
  issuer : Option Issuer := none
  catalog : Catalog := {}
  exitCode : ExitCode := .success
deriving DecidableEq

inductive RoleError
  | transport (cause : TransportError)
  | producer (cause : StockError)
  | config (cause : ConfigError)
deriving DecidableEq

def RoleError.message : RoleError → String
  | .transport cause => "transport failure: " ++ cause.message
  | .producer cause => "test data producer failure: " ++ cause.message
  | .config cause => "configuration failure: " ++ cause.message

structure Setup where
  role : Role
  node : NodeId
  config : Config := {}
  hasTokenSource : Bool := false
  hasConnector : Bool := false
  ownClock : Option Millis := none
  logged : Bool := true
  attachesLeft : Option Nat := none
deriving DecidableEq

namespace Setup

/-- The address of the dispenser if the configuration names none. -/
def defaultAddress : String := "master"

/-- It serves records itself: on the master side, unless it works with a dispenser elsewhere. -/
def servesRecords (s : Setup) : Bool :=
  s.role.isMasterSide && !(s.role.isWorkerSide && s.config.producerAddress.isSome)

/-- The dispenser of a process that serves records, if the configuration has any pool. -/
def dispenser (s : Setup) (files : Files) (shuffles : Shuffles) :
    Except StockError (Option Dispenser) :=
  if s.servesRecords && !s.config.plans.isEmpty then
    (Stock.load files shuffles s.config.plans).map fun stock => some { stock }
  else .ok none

def missingEvent (s : Setup) : Event :=
  { name := "testdata_missing", level := .error, message := missingText, node := some s.node }

def connectFailedEvent (s : Setup) (address : String) (error : TransportError) : Event :=
  { name := "testdata_connect_failed", level := .warn
    message := "failed to reach test data producer at " ++ address ++ ": " ++ error.message
    node := some s.node }

/-- The link of the worker side, and what is reported about it. A process with its own dispenser
uses that; a missing one was reported already unless there is an address. -/
def link (s : Setup) (connect : Connector) (id : SiteId) (hasDispenser : Bool) :
    Option Link × List Event :=
  if s.role = .local && hasDispenser then (some (.dispenser id), [])
  else if s.role = .local && s.config.producerAddress.isNone then (none, [])
  else if s.hasConnector then
    let address := s.config.producerAddress.getD defaultAddress
    match connect address with
    | .ok link => (some link, [])
    | .error error => (none, [s.connectFailedEvent address error, s.missingEvent])
  else (none, [s.missingEvent])

def builtins (s : Setup) (id : SiteId) : Builtins Handler :=
  { consumeTestdata := if s.role.isWorkerSide then some (.consumeTestdata id) else none
    produceToken :=
      if s.role.isMasterSide && s.hasTokenSource then some (.produceToken id) else none
    consumeToken := if s.role.isWorkerSide then some (.consumeToken id) else none }

def handlers (s : Setup) (registry : Registry Handler) (id : SiteId) : HandlerTable Handler :=
  HandlerTable.build (s.role.defaults (s.builtins id)) (registry.overridesFor s.role.directions)

/-- Puts a site together, and says what is reported on the way. The catalog is made first, then
the pools. -/
def assemble (s : Setup) (files : Files) (shuffles : Shuffles) (connect : Connector)
    (registry : Registry Handler) (id : SiteId) : Except RoleError (Site × List Event) := do
  let catalog ← s.config.catalog.mapError .config
  let dispenser ← (s.dispenser files shuffles).mapError .producer
  let unserved := if s.servesRecords && dispenser.isNone then [s.missingEvent] else []
  let (link, unlinked) :=
    if s.role.isWorkerSide then s.link connect id dispenser.isSome else (none, [])
  let timeout := s.config.requestTimeout
  let policy := s.config.tokens
  return (
    { role := s.role, node := s.node, ownClock := s.ownClock, logged := s.logged
      attachesLeft := s.attachesLeft
      barrier := Barrier.acquire {}
      effective := s.handlers registry id
      dispenser
      requester := if s.role.isWorkerSide then some { worker := s.node, link, timeout } else none
      client := if s.role.isWorkerSide then some { node := s.node, policy, timeout } else none
      issuer := if s.role.isMasterSide && s.hasTokenSource then some { policy } else none
      catalog },
    unserved ++ unlinked)

end Setup

namespace Site

def now (s : Site) (clock : Millis) : Millis := s.ownClock.getD clock

def refusal : TransportError := .sendFailed "attach refused"

def attach (s : Site) (hub : Hub Handler Link) (table : HandlerTable Handler) :
    Except TransportError (Site × Hub Handler Link) :=
  match s.attachesLeft with
  | some 0 => .error refusal
  | left => .ok ({ s with attachesLeft := left.map (· - 1) }, hub.attach s.node table)

def initializedEvent (s : Site) : Event :=
  { name := "role_initialized", level := .info
    message := s.role.name ++ " role initialized with " ++ toString s.effective.size ++ " handlers"
    node := some s.node }

def releasedEvent (s : Site) (users : Nat) : Event :=
  { name := "barrier_released", level := .info
    message := "spawning complete with " ++ toString users ++ " users"
    node := some s.node }

/-- All users are spawned: the first such call opens the barrier and reports it. -/
def completeSpawning (s : Site) (users : Nat) : Bool × Site × List Event :=
  let (opened, barrier) := s.barrier.release users
  (opened, { s with barrier }, if opened then [s.releasedEvent users] else [])

def validate (s : Site) (book : StatsBook) : Report × Site × List Event :=
  let pass := s.catalog.validate book s.exitCode
  (pass.report, { s with catalog := pass.catalog, exitCode := pass.exitCode }, pass.events)

def cancelData (s : Site) : Nat × Site :=
  match s.requester with
  | some requester =>
    let (count, requester) := requester.cancelAll
    (count, { s with requester := some requester })
  | none => (0, s)

def cancelTokens (s : Site) : Nat × Site :=
  match s.client with
  | some client =>
    let (count, client) := client.cancelAll
    (count, { s with client := some client })
  | none => (0, s)

def cancelRefreshes (s : Site) : Nat × Site :=
  match s.issuer with
  | some issuer =>
    let (count, issuer) := issuer.cancelAll
    (count, { s with issuer := some issuer })
  | none => (0, s)

/-- Stops the dispenser; what its pools handed out is final. -/
def stopDispenser (s : Site) : List PoolSummary × Site :=
  match s.dispenser with
  | some dispenser =>
    (dispenser.stock.summary, { s with dispenser := some dispenser.shutdown })
  | none => ([], s)

def summaryEvent (s : Site) (pool : PoolSummary) : Event :=
  let remaining :=
    match pool.remaining with
    | some left => toString left
    | none => "cyclic"
  { name := "testdata_summary", level := .info
    message := pool.scenario ++ " served " ++ toString pool.served ++ " of "
      ++ toString pool.total ++ " records (" ++ remaining ++ " remaining) to "
      ++ toString pool.perWorker.size ++ " workers"
    scenario := some pool.scenario, node := some s.node }

def detachFailedEvent (s : Site) (error : TransportError) : Event :=
  { name := "handler_detach_failed", level := .warn
    message := "failed to detach handlers: " ++ error.message, node := some s.node }

def teardownEvent (s : Site) (cancelled : Nat) : Event :=
  { name := "role_teardown", level := .info
    message := s.role.name ++ " role torn down, " ++ toString cancelled ++ " waits cancelled"
    node := some s.node }

structure Teardown where
  cancelled : Nat
  pools : List PoolSummary
  barrierForced : Bool
deriving DecidableEq

/-- Ends the part of the site in the run: cancels what waits, stops the dispenser, opens the
barrier only after that, and takes the handlers off the hub. -/
def teardown (s : Site) (hub : Hub Handler Link) :
    Teardown × Site × Hub Handler Link × List Event :=
  let (data, s) := s.cancelData
  let (tokens, s) := s.cancelTokens
  let (refreshes, s) := s.cancelRefreshes
  let cancelled := data + tokens + refreshes
  let (pools, s) := s.stopDispenser
  let summaries := pools.map s.summaryEvent
  let (forced, barrier) := s.barrier.forceRelease
  let s := { s with barrier }
  let (s, hub, failures) :=
    match s.attach hub ∅ with
    | .ok (s, hub) => (s, hub, [])
    | .error error => (s, hub, [s.detachFailedEvent error])
  (⟨cancelled, pools, forced⟩, s, hub, summaries ++ failures ++ [s.teardownEvent cancelled])

end Site

end Muster
