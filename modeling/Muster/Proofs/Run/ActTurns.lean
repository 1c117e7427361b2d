import Muster.Proofs.Run.ActEffects

/-!
Every act is a turn: the processes that start and end, and so all acts.
-/

namespace Muster

/-- What a process is when it starts: its parts are new, and nobody waits in it. -/
structure Setup.Assembled (setup : Setup) (registry : Registry Handler) (id : SiteId) (s : Site) :
    Prop where
  node : s.node = setup.node
  attaches : s.attachesLeft = setup.attachesLeft
  effective : s.effective = setup.handlers registry id
  requester : ∀ requester ∈ s.requester, requester.pending = {}
  client : ∀ client ∈ s.client, client.pending = {}
  issuer : ∀ issuer ∈ s.issuer, issuer = { policy := setup.config.tokens }

namespace Setup

variable {setup : Setup} {registry : Registry Handler} {id : SiteId} {s : Site}

theorem assembled_of_assemble {files : Files} {shuffles : Shuffles} {connect : Connector}
    {events : List Event}
    (assembled : setup.assemble files shuffles connect registry id = .ok (s, events)) :
    setup.Assembled registry id s := by
  unfold assemble at assembled
  obtain ⟨catalog, -, assembled⟩ := ok_of_bind assembled
  obtain ⟨dispenser, -, assembled⟩ := ok_of_bind assembled
  obtain ⟨rfl, -⟩ := Prod.mk.inj (Except.ok.inj assembled)
  refine ⟨rfl, rfl, rfl, fun requester has => ?_, fun client has => ?_, fun issuer has => ?_⟩
  all_goals
    dsimp only at has
    split at has
    · obtain rfl := Option.some.inj has
      rfl
    · cases has

theorem Assembled.fits (parts : setup.Assembled registry id s)
    (attaches : setup.attachesLeft = none) : s.Fits where
  attaches := parts.attaches.trans attaches
  requester requester has := parts.requester requester has ▸ Pending.fits_empty
  client client has := parts.client client has ▸ Pending.fits_empty
  issuer issuer has := parts.issuer issuer has ▸ Issuer.steady_empty _

theorem Assembled.standing? (parts : setup.Assembled registry id s) (call : Call) :
    s.standing? call = none := by
  cases call with
  | data site request =>
    refine Option.bind_eq_none_iff.mpr fun requester has => ?_
    rw [parts.requester requester has]
    rfl
  | token site identity request =>
    refine Option.bind_eq_none_iff.mpr fun client has => ?_
    rw [parts.client client has]
    rfl
  | issue site flight =>
    refine Option.bind_eq_none_iff.mpr fun issuer has => ?_
    rw [parts.issuer issuer has]
    rfl

end Setup

namespace Run

variable {r : Run} {entered : Option SiteId} {id : SiteId} {site : Site}

theorem record_eq (r : Run) (site : Site) (events : List Event) :
    ∃ log, r.record site events = { r with log } := by
  unfold record
  split
  · exact ⟨_, rfl⟩
  · exact ⟨r.log, rfl⟩

theorem turn_rest (fits : r.Fits) : Turn entered r r := (effect_rest r).turn fits

/-- One process goes on, and something is reported. -/
theorem turn_setSite (fits : r.Fits) {next : Site} (found : r.site? id = some site)
    (steps : site.Steps { entered } id next) (logger : Site) (events : List Event) :
    Turn entered r ((r.setSite id next).record logger events) := by
  obtain ⟨log, same⟩ := (r.setSite id next).record_eq logger events
  rw [same]
  exact .goes ((grows_setSite fits found steps).congr rfl rfl) rfl rfl rfl

/-! ### Starting -/

/-- A process cannot be put together and nothing is left of it, or it attaches its table. -/
theorem startVia_cases (r : Run) (connect : Connector) (files : Files) (shuffles : Shuffles)
    {setup : Setup} (attaches : setup.attachesLeft = none) :
    (∃ error, setup.assemble files shuffles connect r.registry r.sites.length = .error error ∧
      r.startVia connect files shuffles setup = (.error error, r)) ∨
    ∃ site events log,
      setup.assemble files shuffles connect r.registry r.sites.length = .ok (site, events) ∧
      r.startVia connect files shuffles setup = (.ok r.sites.length,
        { r with
          hub := r.hub.attach site.node site.effective, sites := r.sites ++ [site], log }) := by
  unfold startVia
  dsimp only
  cases assembled : setup.assemble files shuffles connect r.registry r.sites.length with
  | error error => exact .inl ⟨error, rfl, rfl⟩
  | ok result =>
    obtain ⟨site, events⟩ := result
    have parts := Setup.assembled_of_assemble assembled
    obtain ⟨first, recorded⟩ := r.record_eq site events
    have attached := Site.attach_eq (parts.attaches.trans attaches) r.hub site.effective
    simp only [recorded, attached]
    obtain ⟨log, same⟩ := record_eq { r with
      hub := r.hub.attach site.node site.effective, sites := r.sites ++ [site], log := first } site
      [site.initializedEvent]
    exact .inr ⟨site, events, log, rfl, congrArg (Prod.mk _) same⟩

theorem start_cases (r : Run) (files : Files) (shuffles : Shuffles) {setup : Setup}
    (attaches : setup.attachesLeft = none) :
    (r.start files shuffles setup).2 = r ∨ ∃ site log,
      setup.Assembled r.registry r.sites.length site ∧ (r.start files shuffles setup).2 =
        { r with
          hub := r.hub.attach site.node site.effective, sites := r.sites ++ [site], log } := by
  rcases r.startVia_cases r.hub.connect files shuffles attaches with
    ⟨error, -, failed⟩ | ⟨site, events, log, assembled, started⟩
  · exact .inl (congrArg Prod.snd failed)
  · exact .inr ⟨site, log, Setup.assembled_of_assemble assembled, congrArg Prod.snd started⟩

theorem turn_start (fits : r.Fits) (files : Files) (shuffles : Shuffles) {setup : Setup}
    (attaches : setup.attachesLeft = none) :
    Turn entered r (r.start files shuffles setup).2 := by
  rcases r.start_cases files shuffles attaches with same | ⟨site, log, parts, same⟩
  · rw [same]
    exact turn_rest fits
  · rw [same]
    refine .goes ⟨fun {id before} found => ⟨before, ?_, .refl (fits.sites found)⟩,
      fun {id after} here missing => ?_, fits.queued⟩ rfl rfl rfl
    · rw [site?, List.getElem?_append_left (List.getElem?_eq_some_iff.mp found).1]
      exact found
    · obtain rfl : after = site := by
        rw [site?, List.getElem?_append_right (List.getElem?_eq_none_iff.mp missing)] at here
        exact (List.mem_singleton.mp (List.mem_of_getElem? here))
      exact ⟨parts.fits attaches, parts.standing?⟩

/-! ### The end and the barrier -/

theorem teardown_eq (fits : r.Fits) (found : r.site? id = some site) :
    ∃ log, r.teardown id = some
      (⟨site.dataWaits + site.tokenWaits + site.refreshing, site.pools, !site.barrier.isOpen⟩,
        { r.setSite id site.ended with hub := r.hub.attach site.node ∅, log }) := by
  obtain ⟨events, ends⟩ := Site.teardown_eq (fits.sites found) r.hub
  obtain ⟨log, recorded⟩ := record_eq
    ({ r with hub := r.hub.attach site.node ∅ }.setSite id site.ended) site.ended events
  refine ⟨log, ?_⟩
  simp only [teardown, found, Option.bind_eq_bind, Option.bind_some, ends, Option.pure_def,
    recorded]
  rfl

theorem turn_teardown (fits : r.Fits) :
    Turn entered r (((r.teardown id).map (·.2)).getD r) := by
  cases found : r.site? id with
  | none => simpa [teardown, found] using turn_rest fits
  | some site =>
    obtain ⟨log, ends⟩ := teardown_eq fits found
    have steps : site.Steps { entered } id site.ended := Site.steps_ended (fits.sites found)
    rw [ends]
    exact .goes ((grows_setSite fits found steps).congr rfl rfl) rfl rfl rfl

theorem turn_completeSpawning (fits : r.Fits) (users : Nat) :
    Turn entered r (((r.completeSpawning id users).map (·.2)).getD r) := by
  unfold completeSpawning
  cases found : r.site? id with
  | none => exact turn_rest fits
  | some site =>
    have steps : site.Steps { entered } id (site.completeSpawning users).2.1 :=
      { Site.Steps.refl (fits.sites found) with }
    exact turn_setSite fits found steps _ _

theorem turn_stepBarrier (fits : r.Fits) (action : Barrier.Action) :
    Turn entered r (((r.stepBarrier id action).map (·.2)).getD r) := by
  unfold stepBarrier
  cases found : r.site? id with
  | none => exact turn_rest fits
  | some site =>
    have steps : site.Steps { entered } id { site with barrier := (site.barrier.step action).2 } :=
      { Site.Steps.refl (fits.sites found) with }
    exact .goes (grows_setSite fits found steps) rfl rfl rfl

/-- Every act is a turn. -/
theorem turn_act (fits : r.Fits) (act : Act) : Turn (act.entered? r) r (r.act act) := by
  have plain : act.Plain → Turn (act.entered? r) r (r.act act) :=
    fun plain => (effect_act plain).turn fits
  cases act with
  | start files shuffles setup => exact turn_start fits files shuffles rfl
  | override | clearRegistry | attach | detach =>
    exact .goes ((Grows.refl fits).congr rfl rfl) rfl rfl rfl
  | completeSpawning id users => exact turn_completeSpawning fits users
  | stepBarrier id action => exact turn_stepBarrier fits action
  | teardown id => exact turn_teardown fits
  | _ => exact plain trivial

end Run

end Muster
