import Muster.Proofs.Run.Effects

/-!
The effect of each act. All acts have one but those that start or end a process, install handlers or
act at a barrier.
-/

namespace Muster

namespace Run

variable {r s : Run} {scope : Scope} {entered : Option SiteId} {id : SiteId} {site : Site}

/-! ### Messages -/

theorem proceeds_deliverTo (r : Run) (id : SiteId) (target worker : NodeId)
    (request : TokenRequest) (result : TokenResult) :
    Proceeds scope r (r.deliverTo id target worker request result) := by
  unfold deliverTo
  dsimp only
  split
  · exact .refl r
  · split
    · rename_i sent
      exact proceeds_send sent
    · exact proceeds_fail ..

theorem proceeds_deliverData {response : DataResponse} {delivered : Bool}
    (done : r.deliverData id response = some (delivered, s)) : Proceeds scope r s := by
  unfold deliverData at done
  obtain ⟨site, found, done⟩ := Option.bind_eq_some_iff.mp done
  obtain ⟨requester, has, done⟩ := Option.bind_eq_some_iff.mp done
  obtain ⟨-, rfl⟩ := Prod.mk.inj (Option.some.inj done)
  refine .trans ?_ (proceeds_record _ site (requester.apart_deliver response))
  exact proceeds_requester found has fun pending => Pending.steps_complete pending _ _

theorem proceeds_deliverToken {delivery : TokenDelivery} {delivered : Bool}
    (done : r.deliverToken id delivery = some (delivered, s)) : Proceeds scope r s := by
  unfold deliverToken at done
  obtain ⟨site, found, done⟩ := Option.bind_eq_some_iff.mp done
  obtain ⟨client, has, done⟩ := Option.bind_eq_some_iff.mp done
  obtain ⟨-, rfl⟩ := Prod.mk.inj (Option.some.inj done)
  refine .trans ?_ (proceeds_record _ site (client.apart_deliver delivery))
  exact proceeds_client found has fun pending => Pending.steps_complete pending _ _

/-! ### Places in a table -/

section

variable {α : Type} {p q : Pending α}

theorem opens_at (place : Nat → Place) (fits : p.Fits) (bound : Millis) (now : Nat) :
    p.Steps (fun n => none = some (place n)) (fun n => some (place p.nextId) = some (place n))
        (p.register.2.wait p.nextId bound now).2 ∧
      (p.register.2.wait p.nextId bound now).2.standing? p.nextId = some .waits := by
  refine Pending.opens_spec fits ?_ bound now
  rfl

theorem leaves_at (place : Nat → Place) (fits : p.Fits) {number now : Nat}
    {result : Except WaitError α} (resolved : p.resolve number now = some (result, q)) :
    p.Steps (fun n => some (place number) = some (place n)) (fun n => none = some (place n)) q ∧
      q.standing? number = none := by
  refine Pending.steps_resolve fits ?_ resolved
  rfl

end

/-! ### Data requests -/

theorem withRequester_eq (found : r.site? id = some site)
    (f : Requester Link → Requester Link) :
    r.withRequester id f = r.setSite id { site with requester := site.requester.map f } := by
  simp only [withRequester, found]

theorem withRequester_withRequester (r : Run) (id : SiteId)
    (f g : Requester Link → Requester Link) :
    (r.withRequester id f).withRequester id g = r.withRequester id (g ∘ f) := by
  cases found : r.site? id with
  | none => simp only [withRequester, found]
  | some site =>
    rw [withRequester_eq found, withRequester_eq found, withRequester_eq (site?_setSite found _),
      setSite_setSite, Option.map_map]

theorem submit_cases {link : Link} {request : DataRequest}
    (submitted : r.submit link request = .ok s) : (∃ caught, s = { r with caught }) ∨
      ∃ id site dispenser next, r.site? id = some site ∧ site.dispenser = some dispenser ∧
        dispenser.submit request = .ok next ∧
        s = r.setSite id { site with dispenser := some next } := by
  unfold submit at submitted
  split at submitted
  · exact .inl ⟨_, (Except.ok.inj submitted).symm⟩
  · cases submitted
  · rename_i id
    split at submitted
    · cases submitted
    · rename_i site dispenser served
      obtain ⟨owner, found, has⟩ := Option.bind_eq_some_iff.mp served
      obtain ⟨other, present, same⟩ := Option.map_eq_some_iff.mp has
      obtain ⟨rfl, rfl⟩ := Prod.mk.inj same
      cases accepted : other.submit request with
      | error => rw [accepted] at submitted; cases submitted
      | ok next =>
        rw [accepted] at submitted
        exact .inr ⟨id, owner, other, next, found, present, accepted,
          (Except.ok.inj submitted).symm⟩

theorem proceeds_submit {link : Link} {request : DataRequest}
    (submitted : r.submit link request = .ok s) : Proceeds scope r s := by
  rcases submit_cases submitted with
    ⟨caught, rfl⟩ | ⟨id, site, dispenser, next, found, has, accepted, rfl⟩
  · exact proceeds_rest r _ _ _ _ fun queued => queued
  · exact proceeds_dispenser found has (Dispenser.steps_submit accepted)

/-- A submission leaves the requester alone that it comes from, also if the process submits to a
dispenser of its own. -/
theorem submit_withRequester (found : r.site? id = some site) {f : Requester Link → Requester Link}
    {link : Link} {request : DataRequest}
    (submitted : (r.withRequester id f).submit link request = .ok s) :
    ∃ t later, Proceeds scope r t ∧ t.site? id = some later ∧ later.requester = site.requester ∧
      s = t.withRequester id f := by
  rw [withRequester_eq found] at submitted
  have here := site?_setSite found { site with requester := site.requester.map f }
  rcases submit_cases submitted with
    ⟨caught, rfl⟩ | ⟨other, owner, dispenser, next, there, has, accepted, rfl⟩
  · have kept : Run.site? { r with caught } id = some site := found
    refine ⟨_, site, proceeds_rest r _ _ caught _ fun queued => queued, kept, rfl, ?_⟩
    rw [withRequester_eq kept]
    rfl
  · have steps := Dispenser.steps_submit accepted
    by_cases same : other = id
    · subst same
      obtain rfl := Option.some.inj (here.symm.trans there)
      have opened := site?_setSite found { site with dispenser := some next }
      refine ⟨_, _, proceeds_dispenser found has steps, opened, rfl, ?_⟩
      rw [withRequester_eq opened]
      simp only [setSite_setSite]
    · rw [site?_setSite_ne r same] at there
      have kept := (r.site?_setSite_ne (Ne.symm same) { owner with dispenser := some next }).trans
        found
      refine ⟨_, site, proceeds_dispenser there has steps, kept, rfl, ?_⟩
      rw [withRequester_eq kept, setSite_comm r same]

theorem effect_requestData {scenario : ScenarioId} {number : Nat}
    (done : r.requestData id scenario = some (number, s)) : Effect entered r s := by
  unfold requestData at done
  obtain ⟨site, found, done⟩ := Option.bind_eq_some_iff.mp done
  obtain ⟨requester, has, done⟩ := Option.bind_eq_some_iff.mp done
  have dialled : r.dial.2.site? id = some site := found
  dsimp only at done
  split at done
  · obtain ⟨-, rfl⟩ := Prod.mk.inj (Option.some.inj done)
    exact .answers _ (proceeds_record _ site (apart_singleton (by rfl)))
  · split at done
    · obtain ⟨-, rfl⟩ := Prod.mk.inj (Option.some.inj done)
      refine .answers _ ?_
      -- opened and given up at once: nobody begins to wait
      rw [withRequester_withRequester, withRequester_eq dialled, has]
      exact proceeds_requester dialled has Pending.steps_withdraw
    · rename_i submitted
      obtain ⟨-, rfl⟩ := Prod.mk.inj (Option.some.inj done)
      obtain ⟨t, later, proceeds, here, same, rfl⟩ := submit_withRequester dialled submitted
      rw [has] at same
      rw [withRequester_withRequester, withRequester_eq here, same]
      refine .holds (.data id requester.pending.nextId) (proceeds.trans ?_)
        fun fits => ⟨fun _ => ?_, ?_⟩
      · exact proceeds_requester here same fun pending => (opens_at (.data id) pending _ _).1
      · have pending := (fits.sites found).requester requester has
        simp [standing?, Call.site, found, Site.standing?, has, Pending.standing?,
          pending.none_of_next]
      · rw [standing?, Call.site, site?_setSite here]
        exact (opens_at (.data id) ((fits.sites found).requester requester has) _ _).2

/-! ### Token requests -/

theorem withClient_eq (found : r.site? id = some site) (f : TokenClient → TokenClient) :
    r.withClient id f = r.setSite id { site with client := site.client.map f } := by
  simp only [withClient, found]

theorem withClient_withClient (r : Run) (id : SiteId) (f g : TokenClient → TokenClient) :
    (r.withClient id f).withClient id g = r.withClient id (g ∘ f) := by
  cases found : r.site? id with
  | none => simp only [withClient, found]
  | some site =>
    rw [withClient_eq found, withClient_eq found, withClient_eq (site?_setSite found _),
      setSite_setSite, Option.map_map]

/-- A message leaves the client alone that sends it. -/
theorem send_withClient (found : r.site? id = some site) {f : TokenClient → TokenClient}
    {sender : NodeId} {destination : Destination} {name : MessageName} {payload : Json}
    (sent : (r.withClient id f).send sender destination name payload = .ok s) :
    ∃ t, Proceeds scope r t ∧ t.site? id = some site ∧ s = t.withClient id f := by
  rw [withClient_eq found] at sent
  obtain ⟨handler, bound, rfl⟩ := send_cases sent
  have here : r.hub.bound (r.hub.addressee destination) name = .ok handler := bound
  have kept : ∀ hub, Run.site? { r with hub } id = some site := fun _ => found
  refine ⟨_, proceeds_post here ⟨name, sender, payload⟩, kept _, ?_⟩
  rw [withClient_eq (kept _)]
  rfl

theorem effect_requestToken {identity : Identity} {number : Nat}
    (done : r.requestToken id identity = some (number, s)) : Effect entered r s := by
  unfold requestToken at done
  obtain ⟨site, found, done⟩ := Option.bind_eq_some_iff.mp done
  obtain ⟨client, has, done⟩ := Option.bind_eq_some_iff.mp done
  have dialled : r.dial.2.site? id = some site := found
  dsimp only at done
  split at done
  · obtain ⟨-, rfl⟩ := Prod.mk.inj (Option.some.inj done)
    exact .answers _ (.refl _)
  · split at done
    · obtain ⟨-, rfl⟩ := Prod.mk.inj (Option.some.inj done)
      refine .answers _ ?_
      rw [withClient_withClient, withClient_eq dialled, has]
      exact proceeds_client dialled has Pending.steps_withdraw
    · rename_i sent
      obtain ⟨-, rfl⟩ := Prod.mk.inj (Option.some.inj done)
      obtain ⟨t, proceeds, here, rfl⟩ := send_withClient dialled sent
      rw [withClient_withClient, withClient_eq here, has]
      refine .holds (.token id identity client.pending.nextId) (proceeds.trans ?_)
        fun fits => ⟨fun _ => ?_, ?_⟩
      · exact proceeds_client here has fun pending => (opens_at (.token id) pending _ _).1
      · have pending := (fits.sites found).client client has
        simp [standing?, Call.site, found, Site.standing?, has, Pending.standing?,
          pending.none_of_next]
      · rw [standing?, Call.site, site?_setSite here]
        exact (opens_at (.token id) ((fits.sites found).client client has) _ _).2

/-! ### Refreshes -/

theorem proceeds_land {call : SourceCall} {answer : SourceAnswer}
    (done : r.land call answer = some s) : Proceeds scope r s := by
  unfold land at done
  split at done
  · obtain ⟨site, found, done⟩ := Option.bind_eq_some_iff.mp done
    obtain ⟨issuer, has, done⟩ := Option.bind_eq_some_iff.mp done
    obtain rfl := Option.some.inj done
    refine .trans ?_ (proceeds_record _ site (Issuer.apart_report _ call.flight))
    exact .trans (proceeds_issuer found has fun _ steady => Issuer.steps_land steady _ _ _)
      (proceeds_rest _ _ _ _ _ id)
  · cases done

/-- A refresh that starts asks the source. It is not answered at once, unless the source has an
answer ahead. -/
theorem proceeds_takeOff (r : Run) (id : SiteId) (flight : Nat) (identity : Identity) :
    Proceeds scope r (r.takeOff id flight identity) := by
  unfold takeOff TokenSource.ask
  dsimp only
  cases ahead : r.tokenSource.queued.find? fun entry => entry.1 = identity with
  | none => exact proceeds_rest _ _ _ _ _ fun queued => queued
  | some entry =>
    have answered : r.tokenSource.queued ≠ [] := by
      intro queued
      rw [queued] at ahead
      cases ahead
    dsimp only
    split
    · exact proceeds_rest _ _ _ _ _ fun queued => absurd queued answered
    · rename_i site found
      have here : r.site? id = some site := found
      have next : Proceeds scope r (r.setSite id { site with
          issuer := site.issuer.map fun issuer =>
            issuer.answer flight entry.2 (site.now r.clock) }) :=
        proceeds_setSite here rfl fun fits => absurd fits.queued answered
      exact next.trans (proceeds_rest _ _ _ _ _ fun queued => absurd queued answered)

theorem proceeds_enterIssuer {identity : Identity} {entry : Entry}
    (done : r.enterIssuer id identity = some (entry, s)) :
    Proceeds { entered := some id } r s := by
  unfold enterIssuer at done
  obtain ⟨site, found, done⟩ := Option.bind_eq_some_iff.mp done
  obtain ⟨issuer, has, done⟩ := Option.bind_eq_some_iff.mp done
  dsimp only at done
  obtain ⟨-, rfl⟩ := Prod.mk.inj (Option.some.inj done)
  have enters : Proceeds { entered := some id } r (r.setSite id
      { site with issuer := some (issuer.enter identity (site.now r.clock)).2 }) :=
    proceeds_issuer found has fun _ steady => Issuer.steps_enter rfl steady identity _
  split
  · exact enters.trans (proceeds_takeOff ..)
  · exact enters

theorem enterIssuer_eq (fits : r.Fits) {issuer : Issuer} (found : r.site? id = some site)
    (has : site.issuer = some issuer) (identity : Identity) :
    ∃ source : TokenSource, source.queued = [] ∧ r.enterIssuer id identity =
      let (entry, entered) := issuer.enter identity (site.now r.clock)
      some (entry, { r.setSite id { site with issuer := some entered } with
        tokenSource := source }) := by
  have ahead : ∀ call, r.tokenSource.ask call = (none, { r.tokenSource with
      asked := r.tokenSource.asked ++ [call.identity]
      waiting := r.tokenSource.waiting ++ [call] }) := by
    intro call
    simp [TokenSource.ask, fits.queued]
  simp only [enterIssuer, found, has, Option.bind_eq_bind, Option.bind_some]
  split
  · refine ⟨(r.tokenSource.ask ⟨id, issuer.started, identity⟩).2, by rw [ahead]; exact fits.queued,
      ?_⟩
    unfold takeOff
    rw [show (r.setSite id _).tokenSource = r.tokenSource from rfl, ahead]
    rfl
  · exact ⟨r.tokenSource, fits.queued, rfl⟩

/-- A call that enters a distributor and has no token waits for a flight that is running. -/
theorem waits_of_enterIssuer (fits : r.Fits) {identity : Identity} {flight : Nat}
    (done : r.enterIssuer id identity = some (.waits flight, s)) :
    s.standing? (.issue id flight) = some .waits := by
  have spare := done
  unfold enterIssuer at spare
  obtain ⟨site, found, spare⟩ := Option.bind_eq_some_iff.mp spare
  obtain ⟨issuer, has, -⟩ := Option.bind_eq_some_iff.mp spare
  obtain ⟨source, queued, same⟩ := enterIssuer_eq fits found has identity
  obtain ⟨waits, rfl⟩ := Prod.mk.inj (Option.some.inj (same.symm.trans done))
  have entering : Issuer.Steps True issuer (issuer.enter identity (site.now r.clock)).2 :=
    Issuer.steps_enter trivial ((fits.sites found).issuer issuer has) identity _
  have running := entering.steady.running (Issuer.recorded_of_enter waits)
  have here := site?_setSite found
    { site with issuer := some (issuer.enter identity (site.now r.clock)).2 }
  refine (congrArg (·.bind fun site => site.standing? (.issue id flight)) here).trans ?_
  simp only [Option.bind_some, Site.standing?, Issuer.standing?, running, Option.map_some]
  rfl

theorem effect_requestIssue {identity : Identity} {number : Nat}
    (done : r.requestIssue id identity = some (number, s)) : Effect (some id) r s := by
  unfold requestIssue at done
  obtain ⟨⟨entry, t⟩, entered, done⟩ := Option.bind_eq_some_iff.mp done
  have proceeds := proceeds_enterIssuer entered
  have number : t.dial.1 = r.made + 1 := congrArg (· + 1) proceeds.made
  cases entry with
  | served token =>
    obtain ⟨-, rfl⟩ := Prod.mk.inj (Option.some.inj done)
    show Effect (some id) r (t.dial.2.finish t.dial.1 _)
    rw [number]
    exact .answers _ proceeds.dial
  | waits flight =>
    obtain ⟨-, rfl⟩ := Prod.mk.inj (Option.some.inj done)
    show Effect (some id) r (t.dial.2.hold t.dial.1 _)
    rw [number]
    exact .holds (.issue id flight) proceeds.dial fun fits =>
      ⟨nofun, waits_of_enterIssuer (s := t) fits entered⟩

/-- No refresh is under way between its answer and its end. -/
theorem refresh_eq_none (fits : r.Fits) (flight : Nat) : r.refresh id flight = none := by
  unfold refresh
  cases found : r.site? id with
  | none => rfl
  | some site =>
    cases has : site.issuer with
    | none => simp [has]
    | some issuer =>
      simp only [Option.bind_eq_bind, Option.bind_some, has]
      cases flying : issuer.flights.find? flight with
      | none => rfl
      | some f =>
        obtain ⟨identity, phase⟩ := f
        simp only [Option.bind_some]
        rcases ((fits.sites found).issuer issuer has).landed flying with rfl | finished
        · rfl
        · cases phase with
          | decided | settled | reported => exact finished.elim
          | calling | published | aborted => rfl

theorem proceeds_refresh {flight : Nat} (done : r.refresh id flight = some s) :
    Proceeds scope r s := by
  have stuck : ∀ {prop : Prop}, r.Fits → prop := fun fits =>
    nomatch (refresh_eq_none fits flight).symm.trans done
  unfold refresh at done
  obtain ⟨site, found, done⟩ := Option.bind_eq_some_iff.mp done
  obtain ⟨issuer, has, done⟩ := Option.bind_eq_some_iff.mp done
  obtain ⟨f, -, done⟩ := Option.bind_eq_some_iff.mp done
  dsimp only at done
  split at done
  · obtain rfl := Option.some.inj done
    exact proceeds_issuer found has stuck
  · obtain rfl := Option.some.inj done
    exact .trans (proceeds_issuer found has stuck)
      (proceeds_record _ site (issuer.apart_report flight))
  · obtain rfl := Option.some.inj done
    exact proceeds_issuer found has stuck
  · cases done

/-! ### Moves -/

theorem flightOutcome?_of_cancelled {flight : Nat}
    (cancelled : r.standing? (.issue id flight) = some .cancelled) :
    r.flightOutcome? id flight = some (.error .cancelled) := by
  obtain ⟨site, found, cancelled⟩ := Option.bind_eq_some_iff.mp cancelled
  obtain ⟨issuer, has, cancelled⟩ := Option.bind_eq_some_iff.mp cancelled
  obtain ⟨⟨identity, phase⟩, flying, aborted⟩ := Option.map_eq_some_iff.mp cancelled
  have here : r.site? id = some site := found
  cases phase with
  | aborted =>
    simp only [flightOutcome?, here, Option.bind_some, has, Issuer.outcome?, flying]
  | calling | decided | settled | reported | published => cases aborted

theorem effect_returns {number : Nat} (done : r.returns number = some s) :
    Effect entered r s := by
  unfold returns at done
  obtain ⟨call, waiting, done⟩ := Option.bind_eq_some_iff.mp done
  cases call with
  | data id request =>
    obtain ⟨site, found, done⟩ := Option.bind_eq_some_iff.mp done
    obtain ⟨requester, has, done⟩ := Option.bind_eq_some_iff.mp done
    obtain ⟨⟨result, after⟩, resolves, done⟩ := Option.bind_eq_some_iff.mp done
    obtain ⟨⟨_, next⟩, resolved, same⟩ := Option.map_eq_some_iff.mp resolves
    obtain ⟨rfl, rfl⟩ := Prod.mk.inj same
    obtain rfl := Option.some.inj done
    refine .returns number (.data id request) _ waiting ?_ fun fits => ⟨fun _ => ?_, ?_⟩
    · exact proceeds_requester found has fun pending => (leaves_at (.data id) pending resolved).1
    · rw [standing?, Call.site, site?_setSite found]
      exact (leaves_at (.data id) ((fits.sites found).requester requester has) resolved).2
    · intro cancelled
      simp only [standing?, Call.site, found, Option.bind_some, Site.standing?, has] at cancelled
      obtain ⟨last, ended⟩ := Pending.resolve_of_cancelled
        ((fits.sites found).requester requester has) r.time cancelled
      obtain ⟨rfl, -⟩ := Prod.mk.inj (Option.some.inj (resolved.symm.trans ended))
      rfl
  | token id identity request =>
    obtain ⟨site, found, done⟩ := Option.bind_eq_some_iff.mp done
    obtain ⟨client, has, done⟩ := Option.bind_eq_some_iff.mp done
    obtain ⟨⟨result, after⟩, resolves, done⟩ := Option.bind_eq_some_iff.mp done
    obtain ⟨⟨_, next⟩, resolved, same⟩ := Option.map_eq_some_iff.mp resolves
    obtain ⟨rfl, rfl⟩ := Prod.mk.inj same
    obtain rfl := Option.some.inj done
    refine .returns number (.token id identity request) _ waiting ?_ fun fits => ⟨fun _ => ?_, ?_⟩
    · exact proceeds_client found has fun pending => (leaves_at (.token id) pending resolved).1
    · rw [standing?, Call.site, site?_setSite found]
      exact (leaves_at (.token id) ((fits.sites found).client client has) resolved).2
    · intro cancelled
      simp only [standing?, Call.site, found, Option.bind_some, Site.standing?, has] at cancelled
      obtain ⟨last, ended⟩ := Pending.resolve_of_cancelled
        ((fits.sites found).client client has) r.time cancelled
      obtain ⟨rfl, -⟩ := Prod.mk.inj (Option.some.inj (resolved.symm.trans ended))
      rfl
  | issue id flight =>
    obtain ⟨result, outcome, done⟩ := Option.bind_eq_some_iff.mp done
    obtain rfl := Option.some.inj done
    refine .returns number (.issue id flight) _ waiting (.refl r)
      fun _ => ⟨(fun placed => by cases placed), fun cancelled => ?_⟩
    rw [flightOutcome?_of_cancelled cancelled] at outcome
    obtain rfl := Option.some.inj outcome
    rfl

theorem proceeds_invoke (r : Run) (invocation : Invocation Handler) :
    Proceeds { entered := entered? invocation } r (r.invoke invocation) := by
  obtain ⟨handler, target, message⟩ := invocation
  unfold invoke
  cases handler with
  | recorder label failure =>
    have caught : Proceeds { entered := entered? ⟨.recorder label failure, target, message⟩ } r
        { r with caught := r.caught ++ [.message label message] } :=
      proceeds_rest r _ _ _ _ fun queued => queued
    cases failure with
    | none => exact caught
    | some reason => exact caught.trans (proceeds_fail ..)
  | consumeTestdata id =>
    dsimp only
    split
    · exact proceeds_fail ..
    · exact map_getD_of_done (motive := Proceeds _ r) (.refl r) fun _ _ => proceeds_deliverData
  | consumeToken id =>
    dsimp only
    split
    · exact proceeds_fail ..
    · exact map_getD_of_done (motive := Proceeds _ r) (.refl r) fun _ _ => proceeds_deliverToken
  | produceToken id =>
    unfold entered?
    dsimp only
    cases read : TokenRequest.ofJson? message.payload with
    | none => exact proceeds_fail ..
    | some request =>
      simp only [Option.isSome_some, if_true]
      split
      · exact .refl r
      · rename_i entered
        exact (proceeds_enterIssuer entered).trans (proceeds_deliverTo ..)
      · rename_i entered
        exact (proceeds_enterIssuer entered).trans (proceeds_rest _ _ _ _ _ fun queued => queued)

theorem proceeds_handle {index : Nat} (done : r.handle index = some s) :
    Proceeds { entered := (Act.move (.handle index)).entered? r } r s := by
  obtain ⟨⟨_, hub⟩, taken, rfl⟩ := Option.map_eq_some_iff.mp done
  obtain ⟨invocation, waits, same⟩ := Option.map_eq_some_iff.mp taken
  obtain ⟨rfl, rfl⟩ := Prod.mk.inj same
  rw [Act.entered?, waits]
  have taken : Sends r { r with hub := { r.hub with inbox := r.hub.inbox.eraseIdx index } } :=
    ⟨rfl, rfl, fun other member => .inl (List.mem_of_mem_eraseIdx member)⟩
  exact (proceeds_hub r taken).trans (proceeds_invoke _ invocation)

theorem proceeds_serve {number : Nat} (done : r.serve id number = some s) :
    Proceeds scope r s := by
  unfold serve at done
  obtain ⟨site, found, done⟩ := Option.bind_eq_some_iff.mp done
  obtain ⟨dispenser, has, done⟩ := Option.bind_eq_some_iff.mp done
  obtain ⟨⟨served, next⟩, serves, done⟩ := Option.bind_eq_some_iff.mp done
  have recorded : Proceeds scope r
      ((r.setSite id { site with dispenser := some next }).record site served.events) :=
    (proceeds_dispenser found has (Dispenser.steps_serve serves)).trans
      (proceeds_record _ site (Dispenser.apart_serve serves))
  dsimp only at done
  split at done
  · rename_i sent
    obtain rfl := Option.some.inj done
    exact recorded.trans (proceeds_send sent)
  · obtain rfl := Option.some.inj done
    exact recorded.trans (proceeds_record _ site (apart_singleton (by rfl)))

theorem proceeds_reply {index : Nat} (done : r.reply index = some s) : Proceeds scope r s := by
  obtain ⟨waiting, -, done⟩ := Option.bind_eq_some_iff.mp done
  obtain ⟨result, -, done⟩ := Option.bind_eq_some_iff.mp done
  obtain rfl := Option.some.inj done
  exact .trans (proceeds_rest r _ _ _ _ fun queued => queued) (proceeds_deliverTo ..)

theorem effect_step {move : Move} (done : r.step move = some s) :
    Effect ((Act.move move).entered? r) r s := by
  cases move with
  | returns number => exact effect_returns done
  | handle index => exact .goes (proceeds_handle done)
  | serve id number => exact .goes (proceeds_serve done)
  | refresh id flight => exact .goes (proceeds_refresh done)
  | reply index => exact .goes (proceeds_reply done)

/-! ### Acts -/

/-- An act that starts and ends no process, installs nothing and leaves the barriers alone. -/
def Act.Plain : Act → Prop
  | .start .. | .override .. | .clearRegistry | .attach .. | .detach .. | .completeSpawning ..
  | .stepBarrier .. | .teardown .. => False
  | _ => True

theorem effect_act {act : Act} (plain : act.Plain) : Effect (act.entered? r) r (r.act act) := by
  cases act with
  | start | override | clearRegistry | attach | detach | completeSpawning | stepBarrier
  | teardown => exact plain.elim
  | publish => exact .goes (proceeds_hub r ⟨rfl, rfl, fun _ => .inl⟩)
  | advance | setClock => exact .goes (proceeds_rest r _ _ _ _ fun queued => queued)
  | send sender destination name payload =>
    cases sent : r.send sender destination name payload with
    | error => simp only [act, sent]; exact effect_rest r
    | ok s => simp only [act, sent]; exact .goes (proceeds_send sent)
  | submit address request =>
    cases submitted : r.submitTo address request with
    | error => simp only [act, submitted]; exact effect_rest r
    | ok s =>
      simp only [act, submitted]
      unfold submitTo at submitted
      cases connected : r.hub.connect address with
      | error => rw [connected] at submitted; cases submitted
      | ok link =>
        rw [connected] at submitted
        exact .goes (proceeds_submit submitted)
  | requestData => exact effect_map fun _ _ => effect_requestData
  | requestToken => exact effect_map fun _ _ => effect_requestToken
  | requestIssue => exact effect_map fun _ _ => effect_requestIssue
  | land => exact effect_getD fun _ done => .goes (proceeds_land done)
  | deliverData => exact effect_map fun _ _ done => .goes (proceeds_deliverData done)
  | deliverToken => exact effect_map fun _ _ done => .goes (proceeds_deliverToken done)
  | validate id book =>
    refine effect_map fun _ s done => ?_
    obtain ⟨site, found, done⟩ := Option.bind_eq_some_iff.mp done
    obtain ⟨-, rfl⟩ := Prod.mk.inj (Option.some.inj done)
    refine .goes (.trans ?_ (proceeds_record _ _ (site.catalog.apart_validate book site.exitCode)))
    exact proceeds_setSite found rfl fun fits => { Site.Steps.refl (fits.sites found) with }
  | cancelData =>
    refine effect_map fun _ s done => ?_
    obtain ⟨site, found, done⟩ := Option.bind_eq_some_iff.mp done
    obtain ⟨-, rfl⟩ := Prod.mk.inj (Option.some.inj done)
    exact .goes (proceeds_setSite found site.barrier_cancelData fun fits =>
      Site.steps_cancelData (fits.sites found))
  | cancelTokens =>
    refine effect_map fun _ s done => ?_
    obtain ⟨site, found, done⟩ := Option.bind_eq_some_iff.mp done
    obtain ⟨-, rfl⟩ := Prod.mk.inj (Option.some.inj done)
    exact .goes (proceeds_setSite found site.barrier_cancelTokens fun fits =>
      Site.steps_cancelTokens (fits.sites found))
  | cancelRefreshes =>
    refine effect_map fun _ s done => ?_
    obtain ⟨site, found, done⟩ := Option.bind_eq_some_iff.mp done
    obtain ⟨-, rfl⟩ := Prod.mk.inj (Option.some.inj done)
    exact .goes (proceeds_setSite found site.barrier_cancelRefreshes fun fits =>
      Site.steps_cancelRefreshes (fits.sites found))
  | stopDispenser =>
    refine effect_getD fun s done => ?_
    obtain ⟨site, found, done⟩ := Option.bind_eq_some_iff.mp done
    obtain rfl := Option.some.inj done
    exact .goes (proceeds_setSite found site.barrier_stopDispenser fun fits =>
      Site.steps_stopDispenser (fits.sites found))
  | move => exact effect_getD fun _ => effect_step

end Run

end Muster
