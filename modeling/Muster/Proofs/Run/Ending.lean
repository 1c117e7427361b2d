import Muster.Proofs.Run.Turns

/-!
What the end of a process does to its parts: nobody waits any more, no refresh runs, the dispenser
has stopped, the barrier is open, and the node has an empty table. What was cancelled is counted.
-/

namespace Muster.Site

variable {s : Site} {scope : Scope} {id : SiteId}

/-! ### What waits and runs -/

def dataWaits (s : Site) : Nat := s.requester.elim 0 fun requester => requester.pending.size

def tokenWaits (s : Site) : Nat := s.client.elim 0 fun client => client.pending.size

def refreshing (s : Site) : Nat := s.issuer.elim 0 fun issuer => issuer.calling.length

def pools (s : Site) : List PoolSummary :=
  s.dispenser.elim [] fun dispenser => dispenser.stock.summary

/-! ### Parts -/

theorem cancelData_eq (s : Site) :
    s.cancelData = (s.dataWaits,
      { s with requester := s.requester.map fun requester => requester.cancelAll.2 }) := by
  obtain ⟨_, _, _, _, _, _, _, _, requester, _, _, _, _⟩ := s
  cases requester <;> rfl

theorem cancelTokens_eq (s : Site) :
    s.cancelTokens = (s.tokenWaits,
      { s with client := s.client.map fun client => client.cancelAll.2 }) := by
  obtain ⟨_, _, _, _, _, _, _, _, _, client, _, _, _⟩ := s
  cases client <;> rfl

theorem cancelRefreshes_eq (steady : ∀ issuer ∈ s.issuer, issuer.Steady) :
    s.cancelRefreshes = (s.refreshing,
      { s with issuer := s.issuer.map fun issuer => issuer.cancelAll.2 }) := by
  obtain ⟨_, _, _, _, _, _, _, _, _, _, issuer, _, _⟩ := s
  cases issuer with
  | none => rfl
  | some issuer =>
    have counts := (Issuer.cancelAll_counts (steady issuer rfl)).1
    simp only [cancelRefreshes, refreshing, Option.elim_some, Option.map_some, counts]

theorem stopDispenser_eq (s : Site) :
    s.stopDispenser = (s.pools, { s with dispenser := s.dispenser.map Dispenser.shutdown }) := by
  obtain ⟨_, _, _, _, _, _, _, dispenser, _, _, _, _, _⟩ := s
  cases dispenser <;> rfl

theorem steps_cancelData (fits : s.Fits) : s.Steps scope id s.cancelData.2 := by
  rw [cancelData_eq]
  exact { Steps.refl fits with
    requester := rel_map fun requester has =>
      Pending.steps_cancelAll (fits.requester requester has) }

theorem steps_cancelTokens (fits : s.Fits) : s.Steps scope id s.cancelTokens.2 := by
  rw [cancelTokens_eq]
  exact { Steps.refl fits with
    client := rel_map fun client has => Pending.steps_cancelAll (fits.client client has) }

theorem steps_cancelRefreshes (fits : s.Fits) : s.Steps scope id s.cancelRefreshes.2 := by
  rw [cancelRefreshes_eq fits.issuer]
  exact { Steps.refl fits with
    issuer := rel_map fun issuer has => Issuer.steps_cancelAll (fits.issuer issuer has) }

theorem steps_stopDispenser (fits : s.Fits) : s.Steps scope id s.stopDispenser.2 := by
  rw [stopDispenser_eq]
  exact { Steps.refl fits with
    dispenser := rel_map fun dispenser _ => dispenser.steps_shutdown }

/-! ### The end -/

/-- A process at its end. -/
def ended (s : Site) : Site :=
  { s with
    barrier := s.barrier.forceRelease.2
    dispenser := s.dispenser.map Dispenser.shutdown
    requester := s.requester.map fun requester => requester.cancelAll.2
    client := s.client.map fun client => client.cancelAll.2
    issuer := s.issuer.map fun issuer => issuer.cancelAll.2 }

theorem attach_eq (attaches : s.attachesLeft = none) (hub : Hub Handler Link)
    (table : HandlerTable Handler) : s.attach hub table = .ok (s, hub.attach s.node table) := by
  obtain ⟨_, _, _, _, _, _, _, _, _, _, _, _, _⟩ := s
  subst attaches
  rfl

theorem teardown_eq (fits : s.Fits) (hub : Hub Handler Link) :
    ∃ events, s.teardown hub =
      (⟨s.dataWaits + s.tokenWaits + s.refreshing, s.pools, !s.barrier.isOpen⟩, s.ended,
        hub.attach s.node ∅, events) := by
  have forced : s.barrier.forceRelease.1 = !s.barrier.isOpen := by
    unfold Barrier.forceRelease Barrier.openWith
    cases s.barrier.isOpen <;> rfl
  have first := s.cancelData_eq
  have second := cancelTokens_eq s.cancelData.2
  have third := cancelRefreshes_eq (s := s.cancelData.2.cancelTokens.2)
    (by rw [second, first]; exact fits.issuer)
  have fourth := stopDispenser_eq s.cancelData.2.cancelTokens.2.cancelRefreshes.2
  rw [first] at second third fourth
  rw [second] at third fourth
  rw [third] at fourth
  unfold teardown
  simp only [first, second, third, fourth]
  have attached := attach_eq (s := s.ended) fits.attaches hub ∅
  unfold ended at attached
  rw [attached, forced]
  exact ⟨_, rfl⟩

theorem steps_ended (fits : s.Fits) : s.Steps scope id s.ended where
  node := rfl
  attaches := fits.attaches
  requester := rel_map fun requester has =>
    Pending.steps_cancelAll (fits.requester requester has)
  client := rel_map fun client has => Pending.steps_cancelAll (fits.client client has)
  issuer := rel_map fun issuer has => Issuer.steps_cancelAll (fits.issuer issuer has)
  dispenser := rel_map fun dispenser _ => dispenser.steps_shutdown

/-- Nothing waits, runs or is served at the end. -/
structure AtRest (s : Site) : Prop where
  barrier : s.barrier.isOpen = true
  data : s.dataWaits = 0
  tokens : s.tokenWaits = 0
  refreshing : s.refreshing = 0
  finished : ∀ issuer ∈ s.issuer, ∀ {flight f}, issuer.flights.find? flight = some f → f.phase.Over
  idle : ∀ issuer ∈ s.issuer, ∀ identity, (issuer.slot identity).flight = none
  dispenser : ∀ dispenser ∈ s.dispenser, dispenser.Ended

theorem atRest_ended (fits : s.Fits) : s.ended.AtRest where
  barrier := by
    unfold ended Barrier.forceRelease Barrier.openWith
    dsimp only
    split
    · assumption
    · rfl
  data := by
    unfold dataWaits ended
    cases has : s.requester with
    | none => rfl
    | some requester =>
      exact congrArg List.length (Pending.waiting_cancelAll (fits.requester requester has))
  tokens := by
    unfold tokenWaits ended
    cases has : s.client with
    | none => rfl
    | some client =>
      exact congrArg List.length (Pending.waiting_cancelAll (fits.client client has))
  refreshing := by
    unfold refreshing ended
    cases has : s.issuer with
    | none => rfl
    | some issuer =>
      exact congrArg List.length (Issuer.cancelAll_counts (fits.issuer issuer has)).2
  finished issuer has flight f found := by
    obtain ⟨before, had, rfl⟩ := Option.map_eq_some_iff.mp has
    have steady := fits.issuer before had
    have steps : Issuer.Steps False before before.cancelAll.2 := Issuer.steps_cancelAll steady
    refine (steps.steady.landed found).resolve_left fun calling => ?_
    obtain ⟨identity, phase⟩ := f
    obtain rfl : phase = .calling := calling
    have recorded := steps.steady.single flight identity found
    cases (Issuer.idle_cancelAll steady identity).symm.trans recorded
  idle issuer has identity := by
    obtain ⟨before, had, rfl⟩ := Option.map_eq_some_iff.mp has
    exact Issuer.idle_cancelAll (fits.issuer before had) identity
  dispenser dispenser has := by
    obtain ⟨before, -, rfl⟩ := Option.map_eq_some_iff.mp has
    exact before.ended_shutdown

theorem pools_ended (s : Site) : s.ended.pools = s.pools := by
  unfold pools ended
  cases s.dispenser <;> rfl

/-- Whoever still waits is cancelled. -/
theorem cancelled_ended (fits : s.Fits) {call : Call} (waits : s.standing? call = some .waits) :
    s.ended.standing? call = some .cancelled := by
  cases call with
  | data id request =>
    obtain ⟨requester, has, waits⟩ := Option.bind_eq_some_iff.mp waits
    have standing := (Pending.cancelAll_spec (fits.requester requester has)).2 request
    rw [if_pos waits] at standing
    simp only [standing?, ended, has, Option.map_some, Option.bind_some]
    exact standing
  | token id identity request =>
    obtain ⟨client, has, waits⟩ := Option.bind_eq_some_iff.mp waits
    have standing := (Pending.cancelAll_spec (fits.client client has)).2 request
    rw [if_pos waits] at standing
    simp only [standing?, ended, has, Option.map_some, Option.bind_some]
    exact standing
  | issue id flight =>
    obtain ⟨issuer, has, waits⟩ := Option.bind_eq_some_iff.mp waits
    obtain ⟨⟨identity, phase⟩, found, waiting⟩ := Option.map_eq_some_iff.mp waits
    have steady := fits.issuer issuer has
    -- a flight lands in one piece, so one that is waited for has no answer yet
    obtain rfl : phase = .calling := by
      rcases steady.landed found with calling | finished
      · exact calling
      · cases phase with
        | calling => rfl
        | decided | settled | reported => exact finished.elim
        | published | aborted => cases waiting
    have aborted := Issuer.aborted_of_cancelAll steady.formed
      (steady.single flight identity found) found
    simp only [standing?, ended, has, Option.map_some, Option.bind_some, Issuer.standing?, aborted]
    rfl

end Muster.Site
