import Muster.Proofs.Run.Calm

/-!
What an act changes that starts and ends no process and installs nothing. Every process keeps its
barrier and goes on, messages reach handlers that are installed, and one call at most is made or
returns. Each act is taken apart once, here.
-/

namespace Muster

namespace Run

variable {r s t : Run} {scope : Scope} {entered : Option SiteId} {id : SiteId} {site : Site}

/-! ### What acts leave behind -/

/-- Nothing is installed, and new messages reach handlers that are installed. -/
structure Sends (r s : Run) : Prop where
  registry : s.registry = r.registry
  tables : s.hub.tables = r.hub.tables
  inbox : ∀ invocation ∈ s.hub.inbox, invocation ∈ r.hub.inbox ∨
    ∃ target name, r.hub.bound target name = .ok invocation.handler

theorem sends_of_hub (hub : s.hub = r.hub) (registry : s.registry = r.registry) : Sends r s :=
  ⟨registry, by rw [hub], fun _ member => .inl (hub ▸ member)⟩

theorem Sends.refl (r : Run) : Sends r r := sends_of_hub rfl rfl

theorem Sends.bound (sends : Sends r s) (target : NodeId) (name : MessageName) :
    s.hub.bound target name = r.hub.bound target name := by
  rw [Hub.bound, Hub.bound, sends.tables]

theorem Sends.trans (first : Sends r s) (second : Sends s t) : Sends r t where
  registry := second.registry.trans first.registry
  tables := second.tables.trans first.tables
  inbox invocation member := by
    rcases second.inbox invocation member with old | ⟨target, name, bound⟩
    · exact first.inbox invocation old
    · exact .inr ⟨target, name, (first.bound target name).symm.trans bound⟩

theorem sends_record (r : Run) (site : Site) (events : List Event) :
    Sends r (r.record site events) := by
  unfold record
  split <;> exact sends_of_hub rfl rfl

/-- Processes go on and messages are sent. Nobody starts, and no call is made or returns. -/
structure Proceeds (scope : Scope) (r s : Run) : Prop where
  calm : Calm r s
  sends : Sends r s
  steps : r.Fits → ∀ {id site}, r.site? id = some site →
    ∃ later, s.site? id = some later ∧ site.Steps scope id later
  none : ∀ {id}, r.site? id = none → s.site? id = none
  queued : r.Fits → s.tokenSource.queued = []
  made : s.made = r.made
  calls : s.calls = r.calls
  returned : s.returned = r.returned

theorem Proceeds.grows (proceeds : Proceeds scope r s) (fits : r.Fits) : Grows scope r s where
  kept := proceeds.steps fits
  born found missing := nomatch (proceeds.none missing).symm.trans found
  queued := proceeds.queued fits

theorem Proceeds.trans (first : Proceeds scope r s) (second : Proceeds scope s t) :
    Proceeds scope r t where
  calm := first.calm.trans second.calm
  sends := first.sends.trans second.sends
  steps fits {id site} found := by
    obtain ⟨mid, here, before⟩ := first.steps fits found
    obtain ⟨later, there, after⟩ := second.steps (first.grows fits).fits here
    exact ⟨later, there, before.trans after⟩
  none missing := second.none (first.none missing)
  queued fits := second.queued (first.grows fits).fits
  made := second.made.trans first.made
  calls := second.calls.trans first.calls
  returned := second.returned.trans first.returned

/-- It makes no difference that a call is given its number first. -/
theorem Proceeds.dial (proceeds : Proceeds scope r s) : Proceeds scope r.dial.2 s.dial.2 where
  calm := ⟨proceeds.calm.kept, proceeds.calm.log⟩
  sends := ⟨proceeds.sends.registry, proceeds.sends.tables, proceeds.sends.inbox⟩
  steps fits := proceeds.steps ⟨fits.sites, fits.queued⟩
  none := proceeds.none
  queued fits := proceeds.queued ⟨fits.sites, fits.queued⟩
  made := congrArg (· + 1) proceeds.made
  calls := proceeds.calls
  returned := proceeds.returned

/-! ### Single changes -/

/-- No process changes. -/
theorem proceeds_of_sites (same : s.sites = r.sites)
    (log : s.log.countP Event.isRelease = r.log.countP Event.isRelease) (sends : Sends r s)
    (queued : r.tokenSource.queued = [] → s.tokenSource.queued = []) (made : s.made = r.made)
    (calls : s.calls = r.calls) (returned : s.returned = r.returned) : Proceeds scope r s := by
  have still : ∀ id, s.site? id = r.site? id := fun id => by rw [site?, same, site?]
  exact {
    calm := ⟨fun found => ⟨_, (still _).trans found, rfl⟩, log⟩
    sends
    steps := fun fits _ _ found => ⟨_, (still _).trans found, .refl (fits.sites found)⟩
    none := fun missing => (still _).trans missing
    queued := fun fits => queued fits.queued
    made, calls, returned }

/-- Processes, messages and the log stay as they are. -/
theorem proceeds_rest (r : Run) (clock : Millis) (time : Nat) (caught : List Caught)
    {source : TokenSource} (replies : List Reply)
    (queued : r.tokenSource.queued = [] → source.queued = []) :
    Proceeds scope r { r with clock, time, caught, tokenSource := source, replies } :=
  proceeds_of_sites rfl rfl (sends_of_hub rfl rfl) queued rfl rfl rfl

theorem Proceeds.refl (r : Run) : Proceeds scope r r := proceeds_rest r _ _ _ _ fun queued => queued

theorem proceeds_log {events : List Event} (r : Run) (apart : Apart events) :
    Proceeds scope r { r with log := r.log ++ events } :=
  proceeds_of_sites rfl (calm_log r apart).log (sends_of_hub rfl rfl) (fun queued => queued) rfl rfl
    rfl

theorem proceeds_record {events : List Event} (r : Run) (site : Site) (apart : Apart events) :
    Proceeds scope r (r.record site events) := by
  unfold record
  split
  · exact proceeds_log r apart
  · exact .refl r

theorem proceeds_fail (r : Run) (target : NodeId) (name : MessageName) (error : HandlerError) :
    Proceeds scope r (r.fail target name error) :=
  proceeds_log r (apart_singleton (by rfl))

theorem proceeds_hub {hub : Hub Handler Link} (r : Run) (sends : Sends r { r with hub }) :
    Proceeds scope r { r with hub } :=
  proceeds_of_sites rfl rfl sends (fun queued => queued) rfl rfl rfl

/-- A message that is sent is queued for the handler that is installed for it. -/
theorem send_cases {sender : NodeId} {destination : Destination} {name : MessageName}
    {payload : Json} (sent : r.send sender destination name payload = .ok s) :
    ∃ handler, r.hub.bound (r.hub.addressee destination) name = .ok handler ∧
      s = { r with hub := { r.hub with inbox := r.hub.inbox ++
        [⟨handler, r.hub.addressee destination, ⟨name, sender, payload⟩⟩] } } := by
  unfold send Hub.send at sent
  dsimp only at sent
  cases bound : r.hub.bound (r.hub.addressee destination) name with
  | error => rw [bound] at sent; cases sent
  | ok handler =>
    rw [bound] at sent
    exact ⟨handler, rfl, (Except.ok.inj sent).symm⟩

theorem proceeds_post {target : NodeId} {name : MessageName} {handler : Handler}
    (bound : r.hub.bound target name = .ok handler) (message : Message) :
    Proceeds scope r
      { r with hub := { r.hub with inbox := r.hub.inbox ++ [⟨handler, target, message⟩] } } := by
  refine proceeds_hub r ⟨rfl, rfl, fun invocation member => ?_⟩
  rw [List.mem_append, List.mem_singleton] at member
  exact member.imp_right fun same => ⟨target, name, by rw [same, bound]⟩

theorem proceeds_send {sender : NodeId} {destination : Destination} {name : MessageName}
    {payload : Json} (sent : r.send sender destination name payload = .ok s) :
    Proceeds scope r s := by
  obtain ⟨handler, bound, rfl⟩ := send_cases sent
  exact proceeds_post bound _

/-- One process goes on and the others rest. -/
theorem proceeds_setSite {next : Site} (found : r.site? id = some site)
    (same : next.barrier = site.barrier) (steps : r.Fits → site.Steps scope id next) :
    Proceeds scope r (r.setSite id next) where
  calm := calm_setSite found same
  sends := sends_of_hub rfl rfl
  steps fits := (grows_setSite fits found (steps fits)).kept
  none missing := List.getElem?_eq_none (by
    rw [setSite, List.length_set]
    exact List.getElem?_eq_none_iff.mp missing)
  queued fits := fits.queued
  made := rfl
  calls := rfl
  returned := rfl

/-! ### Parts of a process -/

theorem proceeds_dispenser {dispenser next : Dispenser} (found : r.site? id = some site)
    (has : site.dispenser = some dispenser) (steps : dispenser.Steps next) :
    Proceeds scope r (r.setSite id { site with dispenser := some next }) := by
  refine proceeds_setSite found rfl fun fits => ?_
  refine { Site.Steps.refl (fits.sites found) with dispenser := ?_ }
  rw [has]
  exact .some steps

theorem proceeds_requester {requester next : Requester Link} (found : r.site? id = some site)
    (has : site.requester = some requester)
    (steps : requester.pending.Fits → requester.pending.Steps
      (fun n => scope.gone = some (.data id n)) (fun n => scope.opened = some (.data id n))
      next.pending) :
    Proceeds scope r (r.setSite id { site with requester := some next }) := by
  refine proceeds_setSite found rfl fun fits => ?_
  have fitting := fits.sites found
  refine { Site.Steps.refl fitting with requester := ?_ }
  rw [has]
  exact .some (steps (fitting.requester requester has))

theorem proceeds_client {client next : TokenClient} (found : r.site? id = some site)
    (has : site.client = some client)
    (steps : client.pending.Fits → client.pending.Steps
      (fun n => scope.gone = some (.token id n)) (fun n => scope.opened = some (.token id n))
      next.pending) :
    Proceeds scope r (r.setSite id { site with client := some next }) := by
  refine proceeds_setSite found rfl fun fits => ?_
  have fitting := fits.sites found
  refine { Site.Steps.refl fitting with client := ?_ }
  rw [has]
  exact .some (steps (fitting.client client has))

theorem proceeds_issuer {issuer next : Issuer} (found : r.site? id = some site)
    (has : site.issuer = some issuer)
    (steps : r.Fits → issuer.Steady → Issuer.Steps (scope.entered = some id) issuer next) :
    Proceeds scope r (r.setSite id { site with issuer := some next }) := by
  refine proceeds_setSite found rfl fun fits => ?_
  have fitting := fits.sites found
  refine { Site.Steps.refl fitting with issuer := ?_ }
  rw [has]
  exact .some (steps fits (fitting.issuer issuer has))

/-! ### Whole acts -/

/-- What an act does that starts and ends nobody, and what becomes of a call by it. -/
inductive Effect (entered : Option SiteId) (r : Run) : Run → Prop
  | goes {s : Run} (proceeds : Proceeds { entered } r s) : Effect entered r s
  | answers {t : Run} (result : CallResult) (proceeds : Proceeds { entered } r.dial.2 t) :
      Effect entered r (t.finish (r.made + 1) result)
  | holds {t : Run} (call : Call)
      (proceeds : Proceeds { entered, opened := call.place? } r.dial.2 t)
      (opens : r.Fits → (call.place?.isSome = true → r.standing? call = none) ∧
        t.standing? call = some .waits) : Effect entered r (t.hold (r.made + 1) call)
  | returns {t : Run} (number : Nat) (call : Call) (result : CallResult)
      (found : r.calls.find? number = some call)
      (proceeds : Proceeds { entered, gone := call.place? } r t)
      (ends : r.Fits → (call.place?.isSome = true → t.standing? call = none) ∧
        (r.standing? call = some .cancelled → result = call.cancelled)) :
      Effect entered r (t.finish number result)

theorem Effect.calm (effect : Effect entered r s) : Calm r s := by
  cases effect with
  | goes proceeds => exact proceeds.calm
  | answers _ proceeds | holds _ proceeds | returns _ _ _ _ proceeds =>
    exact ⟨proceeds.calm.kept, proceeds.calm.log⟩

theorem Effect.sends (effect : Effect entered r s) : Sends r s := by
  cases effect with
  | goes proceeds => exact proceeds.sends
  | answers _ proceeds | holds _ proceeds | returns _ _ _ _ proceeds =>
    exact ⟨proceeds.sends.registry, proceeds.sends.tables, proceeds.sends.inbox⟩

theorem Effect.turn (effect : Effect entered r s) (fits : r.Fits) : Turn entered r s := by
  have dialled : r.dial.2.Fits := ⟨fits.sites, fits.queued⟩
  cases effect with
  | goes proceeds =>
    exact .goes (proceeds.grows fits) proceeds.made proceeds.calls proceeds.returned
  | @answers t result proceeds =>
    have grows := proceeds.grows dialled
    exact .answers result ⟨grows.kept, grows.born, grows.queued⟩ proceeds.made
      (by rw [finish, proceeds.calls]; rfl) (by rw [finish, proceeds.returned]; rfl)
  | @holds t call proceeds opens =>
    have grows := proceeds.grows dialled
    exact .holds call ⟨grows.kept, grows.born, grows.queued⟩ (opens fits).1 (opens fits).2
      proceeds.made (by rw [hold, proceeds.calls]; rfl) proceeds.returned
  | @returns t number call result found proceeds ends =>
    have grows := proceeds.grows fits
    exact .returns number call result found ⟨grows.kept, grows.born, grows.queued⟩ (ends fits).1
      (ends fits).2 proceeds.made (by rw [finish, proceeds.calls])
      (by rw [finish, proceeds.returned])

theorem effect_rest (r : Run) : Effect entered r r := .goes (.refl r)

theorem effect_getD {done : Option Run} (goes : ∀ s, done = some s → Effect entered r s) :
    Effect entered r (done.getD r) :=
  getD_of_done (motive := Effect entered r) (effect_rest r) goes

theorem effect_map {α : Type} {done : Option (α × Run)}
    (goes : ∀ value s, done = some (value, s) → Effect entered r s) :
    Effect entered r ((done.map (·.2)).getD r) :=
  map_getD_of_done (motive := Effect entered r) (effect_rest r) goes

end Run

end Muster
