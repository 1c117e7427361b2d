import Muster.Proofs.Run.Teardown
import Muster.Proofs.Run.Wires
import Muster.Proofs.Token.OneFlight

/-!
Token requests that were sent before a process ended and are handled after that. They are the only
messages that still reach its distributor, and one that reaches it starts a refresh.
-/

namespace Muster

namespace Run

variable {r s : Run} {id : SiteId} {site : Site} {issuer : Issuer} {started : Nat}

/-! ### Who is reached -/

/-- The handlers of a process are at its node, and all others from outside. -/
structure Wired (r : Run) : Prop where
  outside : ∀ d, Outside (r.registry.direction d)
  homes : ∀ {node name handler id}, r.hub.bound node name = .ok handler →
    handler.owner? = some id → ∃ site, r.site? id = some site ∧ site.node = node

theorem wired_begin (master : NodeId) : (begin master).Wired where
  outside d := by cases d <;> exact nofun
  homes := nofun

theorem wired_act (fits : r.Fits) (wired : r.Wired) (act : Act) : (r.act act).Wired := by
  have rewires := rewires_act fits wired.outside act
  obtain ⟨scope, -, grows⟩ := (turn_act fits act).grows
  refine ⟨rewires.outside, fun here owned => ?_⟩
  rcases rewires.bound here with old | new
  · obtain ⟨site, found, home⟩ := wired.homes old owned
    obtain ⟨later, still, steps⟩ := grows.kept found
    exact ⟨later, still, steps.node.trans home⟩
  · exact (new _ owned).2

theorem wired_of_reachable (reached : r.Reachable) : r.Wired := by
  obtain ⟨master, list, rfl⟩ := reached
  refine (acts_induction (motive := fun r => r.Fits ∧ r.Wired) ?_
    ⟨(sound_begin master).fits, wired_begin master⟩ list).2
  rintro r act ⟨fits, wired⟩
  obtain ⟨scope, -, grows⟩ := (turn_act fits act).grows
  exact ⟨grows.fits, wired_act fits wired act⟩

/-- Nothing that is sent or about to be handled reaches the process. -/
structure Severed (id : SiteId) (r : Run) : Prop where
  outside : ∀ d, Outside (r.registry.direction d)
  known : ∃ site, r.site? id = some site
  unbound : ∀ {node name handler}, r.hub.bound node name = .ok handler → handler.owner? ≠ some id
  unsent : ∀ invocation ∈ r.hub.inbox, entered? invocation ≠ some id

theorem request_of_entered {invocation : Invocation Handler}
    (enters : entered? invocation = some id) : invocation.handler = .produceToken id ∧
      ∃ request, TokenRequest.ofJson? invocation.message.payload = some request := by
  unfold entered? at enters
  split at enters
  · rename_i owner same
    split at enters
    · rename_i read
      obtain rfl := Option.some.inj enters
      exact ⟨same, Option.isSome_iff_exists.mp read⟩
    · cases enters
  · cases enters

theorem severed_act (fits : r.Fits) (severed : r.Severed id) (act : Act) :
    (r.act act).Severed id := by
  have rewires := rewires_act fits severed.outside act
  obtain ⟨scope, -, grows⟩ := (turn_act fits act).grows
  obtain ⟨site, found⟩ := severed.known
  refine ⟨rewires.outside, ?_, fun here owned => ?_, fun invocation member enters => ?_⟩
  · obtain ⟨later, still, -⟩ := grows.kept found
    exact ⟨later, still⟩
  · rcases rewires.bound here with old | new
    · exact severed.unbound old owned
    · exact absurd (new id owned).1 (Nat.ne_of_lt (List.getElem?_eq_some_iff.mp found).1)
  · rcases rewires.inbox invocation member with old | ⟨target, name, bound⟩
    · exact severed.unsent invocation old enters
    · exact severed.unbound bound (by rw [(request_of_entered enters).1]; rfl)

/-- Its node has an empty table now, and nothing is on its way. -/
theorem severed_ended {log : List Event} (wired : r.Wired) (found : r.site? id = some site)
    (quiet : ∀ invocation ∈ r.hub.inbox, entered? invocation ≠ some id) :
    Severed id { r.setSite id site.ended with hub := r.hub.attach site.node ∅, log } where
  outside := wired.outside
  known := ⟨site.ended, site?_setSite found _⟩
  unbound {node name handler} here owned := by
    rw [Hub.bound_attach] at here
    split at here
    · cases here
    · rename_i apart
      obtain ⟨home, there, same⟩ := wired.homes here owned
      obtain rfl := Option.some.inj (found.symm.trans there)
      exact apart same.symm
  unsent := quiet

/-! ### Refreshes -/

/-- The distributor of the process has started so many refreshes, and none is running. -/
def Dormant (r : Run) (id : SiteId) (started : Nat) : Prop :=
  ∃ site issuer, r.site? id = some site ∧ site.issuer = some issuer ∧ issuer.started = started ∧
    ∀ identity, (issuer.slot identity).flight = none

/-- The act is a call to the distributor of the process itself, and not a message to it. -/
def Act.Calls (id : SiteId) : Act → Prop
  | .requestIssue site _ => site = id
  | _ => False

theorem Act.entered_of_calls {act : Act} (enters : act.entered? r = some id) :
    act.Calls id ∨ ∃ invocation ∈ r.hub.inbox, Run.entered? invocation = some id := by
  unfold Act.entered? at enters
  split at enters
  · exact .inl (Option.some.inj enters)
  · obtain ⟨invocation, here, enters⟩ := Option.bind_eq_some_iff.mp enters
    exact .inr ⟨invocation, List.mem_of_getElem? here, enters⟩
  · cases enters

theorem dormant_act {act : Act} (fits : r.Fits) (severed : r.Severed id) (apart : ¬act.Calls id)
    (dormant : r.Dormant id started) : (r.act act).Dormant id started := by
  obtain ⟨site, issuer, found, has, rfl, idle⟩ := dormant
  obtain ⟨scope, same, grows⟩ := (turn_act fits act).grows
  obtain ⟨later, still, steps⟩ := grows.kept found
  obtain ⟨next, kept, goes⟩ := Site.rel_some steps.issuer has
  have quiet : ¬scope.entered = some id := by
    rw [same]
    intro enters
    rcases Act.entered_of_calls enters with calls | ⟨invocation, member, enters⟩
    · exact apart calls
    · exact severed.unsent invocation member enters
  exact ⟨later, next, still, kept, goes.started quiet, fun identity =>
    goes.idle quiet identity (idle identity)⟩

theorem dormant_acts (fits : r.Fits) (severed : r.Severed id) (dormant : r.Dormant id started)
    {list : List Act} (apart : ∀ act ∈ list, ¬act.Calls id) :
    (r.acts list).Dormant id started := by
  induction list generalizing r with
  | nil => exact dormant
  | cons act rest ih =>
    obtain ⟨scope, -, grows⟩ := (turn_act fits act).grows
    exact ih grows.fits (severed_act fits severed act)
      (dormant_act fits severed (apart act List.mem_cons_self) dormant)
      fun later member => apart later (List.mem_cons_of_mem _ member)

theorem site?_deliverTo (r : Run) (id : SiteId) (target worker : NodeId) (request : TokenRequest)
    (result : TokenResult) (other : SiteId) :
    (r.deliverTo id target worker request result).site? other = r.site? other := by
  unfold deliverTo
  dsimp only
  split
  · rfl
  · split
    · rename_i sent
      obtain ⟨handler, -, rfl⟩ := send_cases sent
      rfl
    · rfl

/-- A token request that is handled starts a refresh, if none runs and no token is fresh. -/
theorem started_handle (fits : r.Fits) {index : Nat} {invocation : Invocation Handler}
    (waits : r.hub.inbox[index]? = some invocation) (enters : entered? invocation = some id)
    (found : r.site? id = some site) (has : site.issuer = some issuer)
    (idle : ∀ identity, (issuer.slot identity).flight = none)
    (stale : ∀ token : AccessToken,
      token.isFresh (site.now r.clock) issuer.policy.refreshMargin = false) :
    ∃ later next, (r.act (.move (.handle index))).site? id = some later ∧
      later.issuer = some next ∧ next.started = issuer.started + 1 := by
  obtain ⟨handler, target, message⟩ := invocation
  obtain ⟨rfl, request, read⟩ := request_of_entered enters
  obtain ⟨t, taken⟩ : ∃ t : Run,
    t = { r with hub := { r.hub with inbox := r.hub.inbox.eraseIdx index } } := ⟨_, rfl⟩
  have fitting : t.Fits := by
    rw [taken]
    exact ⟨fits.sites, fits.queued⟩
  have handled : r.act (.move (.handle index)) = t.invoke ⟨.produceToken id, target, message⟩ := by
    simp only [act, step, handle, Hub.take, waits, Option.map_some, Option.getD_some, taken]
  have present : t.site? id = some site := by
    rw [taken]
    exact found
  have now : site.now t.clock = site.now r.clock := by rw [taken]
  have starts := Issuer.started_enter (idle request.identity) stale
  obtain ⟨source, -, entered⟩ := enterIssuer_eq fitting present has request.identity
  rw [now] at entered
  have here := site?_setSite present
    { site with issuer := some (issuer.enter request.identity (site.now r.clock)).2 }
  refine ⟨{ site with issuer := some (issuer.enter request.identity (site.now r.clock)).2 }, _, ?_,
    rfl, starts⟩
  rw [handled]
  simp only [invoke, read, entered]
  split
  · rename_i same
    cases same
  · rename_i same
    obtain ⟨-, rfl⟩ := Prod.mk.inj (Option.some.inj same)
    exact (site?_deliverTo ..).trans here
  · rename_i same
    obtain ⟨-, rfl⟩ := Prod.mk.inj (Option.some.inj same)
    exact here

/-- Once a process has ended its distributor stays quiet whatever comes, as long as nobody calls it
directly, if no token request for it was on its way. If it has no clock of its own, that is the only
case in which it stays quiet. -/
theorem dormant_iff_no_straggler (reached : r.Reachable) (found : r.site? id = some site)
    (has : site.issuer = some issuer) {summary : Site.Teardown} {after : Run}
    (ends : r.teardown id = some (summary, after)) :
    let quiet := ∀ invocation ∈ r.hub.inbox, entered? invocation ≠ some id
    let dormant := ∀ list : List Act, (∀ act ∈ list, ¬act.Calls id) →
      (after.acts list).Dormant id issuer.started
    (quiet → dormant) ∧ (site.ownClock = none → (dormant ↔ quiet)) := by
  intro quiet dormant
  have sound := sound_of_reachable reached
  have steady := (sound.fits.sites found).issuer issuer has
  have fits := (sound_teardown sound ends).fits
  obtain ⟨log, same⟩ := teardown_eq sound.fits found
  have left := (Prod.mk.inj (Option.some.inj (ends.symm.trans same))).2
  have here : after.site? id = some site.ended := by
    rw [left]
    exact site?_setSite found site.ended
  have ended : site.ended.issuer = some issuer.cancelAll.2 := by
    rw [Site.ended, has]
    rfl
  have idle := Issuer.idle_cancelAll steady
  have steps : Issuer.Steps False issuer issuer.cancelAll.2 := Issuer.steps_cancelAll steady
  have counted := steps.started not_false
  have stays : quiet → dormant := by
    intro quiet list apart
    have severed : after.Severed id := by
      rw [left]
      exact severed_ended (wired_of_reachable reached) found quiet
    exact dormant_acts fits severed ⟨_, _, here, ended, counted, idle⟩ apart
  refine ⟨stays, fun clock => ⟨fun dormant invocation member enters => ?_, stays⟩⟩
  -- whatever is cached is stale at the last instant, so the request must start a refresh
  obtain ⟨index, waits⟩ := List.getElem?_of_mem member
  obtain ⟨_, last, there, has, same, -⟩ :=
    dormant [.setClock Millis.last, .move (.handle index)] (by simp [Act.Calls])
  have still : Fits (after.setClock Millis.last) := ⟨fits.sites, fits.queued⟩
  have now : site.ended.now Millis.last = Millis.last := by
    rw [Site.now, show site.ended.ownClock = none from clock]
    rfl
  obtain ⟨_, next, present, kept, more⟩ := started_handle still (by rw [left]; exact waits) enters
    here ended idle fun token =>
      (congrArg (token.isFresh · _) now).trans (token.not_isFresh_last _)
  obtain rfl := Option.some.inj (present.symm.trans there)
  obtain rfl := Option.some.inj (kept.symm.trans has)
  omega

/-- Both refreshes were asked for in time. -/
theorem dormant_iff_no_straggler_busy : busyShop.Reachable ∧ ∃ site issuer,
    busyShop.site? 0 = some site ∧ site.issuer = some issuer ∧ site.ownClock = none ∧
    ∃ summary after, busyShop.teardown 0 = some (summary, after) ∧
      ∀ list : List Act, (∀ act ∈ list, ¬act.Calls 0) → (after.acts list).Dormant 0 2 := by
  have reached : busyShop.Reachable := reachable_shop _
  obtain ⟨site, found⟩ := Option.isSome_iff_exists.mp
    (show (busyShop.site? 0).isSome = true by decide +kernel)
  have issues : (busyShop.site? 0).bind (fun site => site.issuer.map (·.started)) = some 2 := by
    decide +kernel
  have moving : (busyShop.site? 0).map (·.ownClock) = some none := by decide +kernel
  have handled : busyShop.hub.inbox = [] := by decide +kernel
  rw [found] at issues moving
  obtain ⟨issuer, has, two⟩ := Option.map_eq_some_iff.mp issues
  have clock := Option.some.inj moving
  obtain ⟨log, ends⟩ := teardown_eq (sound_of_reachable reached).fits found
  refine ⟨reached, site, issuer, found, has, clock, _, _, ends, ?_⟩
  rw [← two]
  refine ((dormant_iff_no_straggler reached found has ends).2 clock).mpr ?_
  rw [handled]
  exact nofun

/-- Somebody asks for a token over the hub, and nothing happens before the process ends. -/
def askedShop : Run := openShop.act (.requestToken 0 "alice")

/-- The request is handled after the end, and a refresh runs that nobody stops. -/
theorem straggler_refreshes : askedShop.Reachable ∧
    askedShop.hub.inbox.map entered? = [some 0] ∧
    (askedShop.act (.teardown 0)).Dormant 0 0 ∧
    ¬((askedShop.act (.teardown 0)).act (.move (.handle 0))).Dormant 0 0 ∧
    ((askedShop.act (.teardown 0)).act (.move (.handle 0))).tokenSource.waiting =
      [⟨0, 0, "alice"⟩] := by
  refine ⟨reachable_shop [.requestToken 0 "alice"], by decide +kernel, ?_, ?_, by decide +kernel⟩
  · have unused : ((askedShop.act (.teardown 0)).site? 0).bind (·.issuer) =
        some { policy := {} } := by decide +kernel
    obtain ⟨site, found, has⟩ := Option.bind_eq_some_iff.mp unused
    exact ⟨site, _, found, has, rfl, fun _ => rfl⟩
  · rintro ⟨site, issuer, found, has, none, -⟩
    have one : (((askedShop.act (.teardown 0)).act (.move (.handle 0))).site? 0).bind
        (fun site => site.issuer.map (·.started)) = some 1 := by decide +kernel
    simp [found, has, none] at one

end Run

end Muster
