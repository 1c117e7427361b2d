import Muster.Proofs.Rows
import Muster.Proofs.Token.Landing
import Muster.Run.Move

/-!
Runs of whole processes over one hub. Everything that is done to a run from outside is an act, and
so is every move that it makes by itself; acts follow one another in any order, and one that cannot
be done does nothing. A refresh lands in one piece once the token source has answered it.
-/

namespace Muster

/-- A handler from outside, as it stands in a table. -/
structure Listener where
  name : MessageName
  label : String
  ackRequired : Bool := false
  failure : Option String := none
deriving DecidableEq

namespace Listener

def entry (l : Listener) : HandlerEntry Handler := ⟨.recorder l.label l.failure, l.ackRequired⟩

def table (listeners : List Listener) : HandlerTable Handler :=
  Table.ofList (listeners.map fun l => (l.name, l.entry))

end Listener

namespace Run

inductive Act
  | start (files : Files) (shuffles : Shuffles) (setup : Setup)
  | override (direction : Direction) (listener : Listener)
  | clearRegistry
  | attach (node : NodeId) (listeners : List Listener)
  | detach (node : NodeId)
  | publish (address : String) (link : Link)
  | advance (ms : Nat)
  | setClock (clock : Millis)
  | send (sender : NodeId) (destination : Destination) (name : MessageName) (payload : Json)
  | submit (address : String) (request : DataRequest)
  | requestData (site : SiteId) (scenario : ScenarioId)
  | requestToken (site : SiteId) (identity : Identity)
  | requestIssue (site : SiteId) (identity : Identity)
  /-- the token source answers a refresh that waits for it -/
  | land (call : SourceCall) (answer : SourceAnswer)
  | deliverData (site : SiteId) (response : DataResponse)
  | deliverToken (site : SiteId) (delivery : TokenDelivery)
  | completeSpawning (site : SiteId) (users : Nat)
  | stepBarrier (site : SiteId) (action : Barrier.Action)
  | validate (site : SiteId) (book : StatsBook)
  | teardown (site : SiteId)
  | cancelData (site : SiteId)
  | cancelTokens (site : SiteId)
  | cancelRefreshes (site : SiteId)
  | stopDispenser (site : SiteId)
  | move (move : Move)

/-- The answer to a refresh goes into the slot, into the log and to those who wait, and nothing
happens in between. -/
def land (r : Run) (call : SourceCall) (answer : SourceAnswer) : Option Run :=
  if call ∈ r.tokenSource.waiting then do
    let site ← r.site? call.site
    let issuer ← site.issuer
    let (events, issuer) := issuer.land call.flight answer (site.now r.clock)
    let tokenSource := { r.tokenSource with waiting := r.tokenSource.waiting.erase call }
    return ({ r with tokenSource }.setSite call.site { site with issuer := some issuer }).record
      site events
  else none

/-- Does an act. A process that starts can attach to the hub as often as it likes. -/
def act (r : Run) : Act → Run
  | .start files shuffles setup => (r.start files shuffles { setup with attachesLeft := none }).2
  | .override direction listener => r.register direction listener.name listener.entry
  | .clearRegistry => r.clearRegistry
  | .attach node listeners => r.attach node (Listener.table listeners)
  | .detach node => (r.detach node).2
  | .publish address link => r.publish address link
  | .advance ms => r.advance ms
  | .setClock clock => r.setClock clock
  | .send sender destination name payload =>
    (r.send sender destination name payload).toOption.getD r
  | .submit address request => (r.submitTo address request).toOption.getD r
  | .requestData id scenario => ((r.requestData id scenario).map (·.2)).getD r
  | .requestToken id identity => ((r.requestToken id identity).map (·.2)).getD r
  | .requestIssue id identity => ((r.requestIssue id identity).map (·.2)).getD r
  | .land call answer => (r.land call answer).getD r
  | .deliverData id response => ((r.deliverData id response).map (·.2)).getD r
  | .deliverToken id delivery => ((r.deliverToken id delivery).map (·.2)).getD r
  | .completeSpawning id users => ((r.completeSpawning id users).map (·.2)).getD r
  | .stepBarrier id action => ((r.stepBarrier id action).map (·.2)).getD r
  | .validate id book => ((r.validate id book).map (·.2)).getD r
  | .teardown id => ((r.teardown id).map (·.2)).getD r
  | .cancelData id => ((r.cancelData id).map (·.2)).getD r
  | .cancelTokens id => ((r.cancelTokens id).map (·.2)).getD r
  | .cancelRefreshes id => ((r.cancelRefreshes id).map (·.2)).getD r
  | .stopDispenser id => (r.stopDispenser id).getD r
  | .move move => (r.step move).getD r

def acts (r : Run) (list : List Act) : Run := list.foldl act r

/-- A run before anything has started. -/
def begin (master : NodeId) : Run := { hub := { master } }

def Reachable (r : Run) : Prop := ∃ master list, r = (begin master).acts list

/-- The process whose distributor a handler enters: with a request that it can read. -/
def entered? (invocation : Invocation Handler) : Option SiteId :=
  match invocation.handler with
  | .produceToken id =>
    if (TokenRequest.ofJson? invocation.message.payload).isSome then some id else none
  | _ => none

/-- The process whose distributor an act enters. -/
def Act.entered? (r : Run) : Act → Option SiteId
  | .requestIssue id _ => some id
  | .move (.handle index) => r.hub.inbox[index]?.bind Run.entered?
  | _ => none

/-- What every act preserves holds after any number of them. -/
theorem acts_induction {motive : Run → Prop} (step : ∀ {r} act, motive r → motive (r.act act))
    {r : Run} (start : motive r) (list : List Act) : motive (r.acts list) := by
  induction list generalizing r with
  | nil => exact start
  | cons act rest ih => exact ih (step act start)

/-- Something can be done or the run rests. -/
theorem getD_of_done {motive : Run → Prop} {r : Run} {done : Option Run} (rest : motive r)
    (goes : ∀ s, done = some s → motive s) : motive (done.getD r) := by
  cases done with
  | none => exact rest
  | some s => exact goes s rfl

theorem map_getD_of_done {α : Type} {motive : Run → Prop} {r : Run} {done : Option (α × Run)}
    (rest : motive r) (goes : ∀ value s, done = some (value, s) → motive s) :
    motive ((done.map (·.2)).getD r) := by
  cases done with
  | none => exact rest
  | some result => exact goes result.1 result.2 rfl

theorem site?_setSite {r : Run} {id : SiteId} {site : Site} (found : r.site? id = some site)
    (next : Site) : (r.setSite id next).site? id = some next := getElem?_set_same found

theorem setSite_setSite (r : Run) (id : SiteId) (first second : Site) :
    (r.setSite id first).setSite id second = r.setSite id second := by
  simp only [setSite, List.set_set]

theorem site?_record (r : Run) (site : Site) (events : List Event) (id : SiteId) :
    (r.record site events).site? id = r.site? id := by
  unfold record
  split <;> rfl

theorem setSite_record (r : Run) (id : SiteId) (first second logger : Site)
    (events : List Event) : ((r.setSite id first).record logger events).setSite id second =
      (r.setSite id second).record logger events := by
  rw [← setSite_setSite r id first second]
  unfold record
  split <;> rfl

/-- A refresh goes on by what its phase says. -/
theorem refresh_eq {r : Run} {id : SiteId} {flight : Nat} {site : Site} {issuer : Issuer}
    {identity : Identity} {phase : Phase} (found : r.site? id = some site)
    (has : site.issuer = some issuer)
    (flying : issuer.flights.find? flight = some ⟨identity, phase⟩) :
    r.refresh id flight =
      match phase with
      | .decided _ => some (r.setSite id { site with issuer := some (issuer.settle flight) })
      | .settled _ =>
        some ((r.setSite id { site with issuer := some (issuer.report flight).2 }).record site
          (issuer.report flight).1)
      | .reported _ => some (r.setSite id { site with issuer := some (issuer.publish flight) })
      | _ => none := by
  simp only [refresh, found, has, flying, Option.bind_eq_bind, Option.bind_some]
  cases phase <;> rfl

/-- A refresh that lands is answered and then goes on move by move. -/
theorem land_eq_moves {r : Run} {call : SourceCall} {answer : SourceAnswer} {site : Site}
    {issuer : Issuer} (found : r.site? call.site = some site) (has : site.issuer = some issuer)
    (calling : issuer.flights.find? call.flight = some ⟨call.identity, .calling⟩)
    (oldest : r.tokenSource.waiting.find? (fun other => other.identity = call.identity &&
      (((r.site? other.site).bind (·.issuer)).any fun issuer =>
        issuer.calling.contains (other.flight, call.identity))) = some call) :
    r.land call answer =
      (((r.answer call.identity answer).2.refresh call.site call.flight).bind
        (·.refresh call.site call.flight)).bind (·.refresh call.site call.flight) := by
  obtain ⟨decided, settled, reported⟩ :=
    Issuer.phases_of_landing calling answer (site.now r.clock)
  obtain ⟨base, rested⟩ : ∃ base : Run, base = { r with tokenSource :=
    { r.tokenSource with waiting := r.tokenSource.waiting.erase call } } := ⟨_, rfl⟩
  have still : base.site? call.site = some site := by rw [rested]; exact found
  have stage : ∀ issuer : Issuer, (base.setSite call.site { site with issuer }).site? call.site =
      some { site with issuer } := fun issuer => site?_setSite still _
  have answered : (r.answer call.identity answer).2 = base.setSite call.site
      { site with issuer := issuer.answer call.flight answer (site.now r.clock) } := by
    rw [rested] at still ⊢
    simp only [Run.answer, oldest, still, has, Option.map_some]
  have logged := fun events =>
    refresh_eq ((site?_record _ site events _).trans (stage _)) rfl reported
  have member := List.mem_of_find?_eq_some oldest
  rw [answered, refresh_eq (stage _) rfl decided]
  simp only [Option.bind_some, setSite_setSite]
  rw [refresh_eq (stage _) rfl settled]
  simp only [Option.bind_some, setSite_setSite]
  -- the events are logged before the last move, and a landing logs them after it
  refine Eq.trans ?_ (logged _).symm
  simp only [land, if_pos member, found, has, Option.bind_eq_bind, Option.bind_some,
    setSite_record, rested]
  rfl

end Run

end Muster
