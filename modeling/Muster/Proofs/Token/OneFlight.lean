import Muster.Proofs.Token.Flights

/-!
Flights on their own. While the slot of an identity records a flight, its calls join that one or are
served the cached token, and none of them starts another. The record is lost before the flight
settles only to a cancellation, or to another flight of the identity that settles. Whoever waits for
a flight gets what it came to.
-/

namespace Muster

/-- The largest instant there is; no token is fresh then. -/
def Millis.last : Millis := UInt64.ofNat (UInt64.size - 1)

theorem AccessToken.not_isFresh_last (token : AccessToken) (margin : Millis) :
    token.isFresh Millis.last margin = false := by
  have last : (Millis.saturatingAdd Millis.last margin).toNat = UInt64.size - 1 := by
    rw [Millis.toNat_saturatingAdd]
    exact Nat.min_eq_right (Nat.le_add_right _ _)
  have below : token.expiresAt.toNat < UInt64.size := token.expiresAt.toNat_lt
  rw [AccessToken.isFresh, decide_eq_false_iff_not, UInt64.lt_iff_toNat_lt, last]
  omega

namespace Issuer

variable {d e : Issuer} {action : Action} {identity : Identity} {flight : Nat}

/-! ### Records -/

/-- A call without a fresh token starts a refresh where none is recorded. -/
theorem started_enter {now : Millis} (idle : (d.slot identity).flight = none)
    (stale : ∀ token : AccessToken, token.isFresh now d.policy.refreshMargin = false) :
    (d.enter identity now).2.started = d.started + 1 := by
  unfold enter join
  split
  · rw [stale, idle]
    rfl
  · rw [idle]

/-- The action settles another flight of the identity. -/
def Strays (d : Issuer) (identity : Identity) (flight : Nat) : Action → Prop
  | .settle other => other ≠ flight ∧ ∃ result,
      d.flights.find? other = some ⟨identity, .decided result⟩
  | _ => False

theorem idle_of_strays (strays : d.Strays identity flight action) :
    ((d.step action).slot identity).flight = none := by
  cases action with
  | settle other =>
    obtain ⟨-, result, found⟩ := strays
    show ((d.settle other).slot identity).flight = none
    rw [slot_settle found, if_pos rfl]
  | _ => exact strays.elim

theorem slot_of_recorded (recorded : (d.slot identity).flight = some flight)
    (moves : d.Moves e action) (uncancelled : action ≠ .cancel identity)
    (straight : ¬d.Strays identity flight action) (flying : e.InFlight identity flight) :
    e.slot identity = d.slot identity := by
  cases moves with
  | rests _ same => rw [same]
  | takesOff owner now idle slots =>
    rw [slots, if_neg]
    rintro rfl
    cases idle.symm.trans recorded
  | goesOn _ number owner before after found next slots => exact slots identity
  | settles number owner result found slots flights =>
    rw [slots, if_neg]
    rintro rfl
    -- the flight that settles is this one, and then it is in flight no more
    obtain rfl : number = flight :=
      Decidable.byContradiction fun other => straight ⟨other, result, found⟩
    obtain ⟨phase, here, unsettled⟩ := flying
    rw [flights, if_pos rfl] at here
    obtain ⟨-, rfl⟩ := Flight.mk.inj (Option.some.inj here)
    exact unsettled
  | cancels owner number recorded landed slots flights =>
    rw [slots, if_neg]
    rintro rfl
    exact uncancelled rfl
  | aborts owner other number recorded found slots flights =>
    rw [slots, if_neg]
    rintro rfl
    exact uncancelled rfl

theorem refreshes_iff_of_recorded (recorded : (d.slot identity).flight = some flight)
    (formed : d.Formed) (moves : d.Moves e action) (other : Nat) :
    e.Refreshes identity other ↔ d.Refreshes identity other := by
  have flies := flies_of_moves formed moves other
  exact ⟨flies.refreshed recorded, flies.refreshes⟩

theorem started_of_recorded (recorded : (d.slot identity).flight = some flight)
    (moves : d.Moves e action)
    (own : ∀ wanted now, action = .enter wanted now → wanted = identity) :
    e.started = d.started := by
  cases moves with
  | rests _ same => rw [same]
  | takesOff owner now idle =>
    rw [own owner now rfl, recorded] at idle
    cases idle
  | goesOn _ _ _ _ _ _ _ _ _ started => exact started
  | settles _ _ _ _ _ _ started => exact started
  | cancels _ _ _ _ _ _ started => exact started
  | aborts _ _ _ _ _ _ _ started => exact started

theorem enter_of_recorded (recorded : (d.slot identity).flight = some flight) (now : Millis) :
    (d.enter identity now).2 = d := by
  cases d.moves_enter identity now with
  | rests _ same => exact same
  | takesOff _ _ idle => cases idle.symm.trans recorded
  | goesOn _ _ _ _ _ _ next => cases next

theorem entry_of_recorded (recorded : (d.slot identity).flight = some flight) (now : Millis) :
    (d.enter identity now).1 = .waits flight ∨ ∃ token, (d.enter identity now).1 = .served token ∧
      (d.slot identity).cached = some token ∧ token.isValid now = true := by
  cases entry : (d.enter identity now).1 with
  | served token => exact .inr ⟨token, rfl, served_of_enter entry⟩
  | waits other =>
    have joined := recorded_of_enter entry
    rw [enter_of_recorded recorded, recorded] at joined
    exact .inl (congrArg Entry.waits (Option.some.inj joined).symm)

theorem waits_of_unserved {now : Millis}
    (unserved : ∀ token, (d.slot identity).cached = some token → token.isValid now = false) :
    ∃ flight, (d.enter identity now).1 = .waits flight := by
  cases entry : (d.enter identity now).1 with
  | waits flight => exact ⟨flight, rfl⟩
  | served token =>
    obtain ⟨cached, valid⟩ := served_of_enter entry
    rw [unserved token cached] at valid
    cases valid

/-- A call that finds no valid token and no record starts a flight, which is recorded. -/
theorem takesOff_of_unserved {now : Millis}
    (unserved : ∀ token, (d.slot identity).cached = some token → token.isValid now = false)
    (idle : (d.slot identity).flight = none) :
    (d.enter identity now).1 = .waits d.started ∧
      (d.enter identity now).2.slot identity = ⟨(d.slot identity).cached, some d.started⟩ ∧
      (d.enter identity now).2.started = d.started + 1 ∧
      ∀ flight, (d.enter identity now).2.Refreshes identity flight ↔
        d.Refreshes identity flight ∨ flight = d.started := by
  obtain ⟨flight, entry⟩ := waits_of_unserved unserved
  have recorded := recorded_of_enter entry
  have moves := d.moves_enter identity now
  cases moves with
  | rests _ same =>
    rw [same, idle] at recorded
    cases recorded
  | goesOn _ _ _ _ _ _ next => cases next
  | takesOff _ _ _ slots flights started =>
    have slot := (slots identity).trans (if_pos rfl)
    rw [slot] at recorded
    obtain rfl := Option.some.inj recorded
    refine ⟨entry, slot, started, fun other => ?_⟩
    unfold Refreshes
    rw [flights]
    split
    · rename_i same
      exact ⟨fun _ => .inr same, fun _ => ⟨_, rfl⟩⟩
    · rename_i apart
      exact ⟨.inl, fun known => known.resolve_right apart⟩

/-! ### Results -/

/-- What flights come to: a token, or that the refresh of the identity failed. -/
inductive Comes (identity : Identity) : TokenResult → Prop
  | token (token : AccessToken) : Comes identity (.ok token)
  | failed (reason : String) : Comes identity (.error (.refreshFailed identity reason))

theorem comes_decide (identity : Identity) (policy : TokenPolicy) (now : Millis)
    (answer : SourceAnswer) : Comes identity (decide identity policy now answer) := by
  unfold decide
  split
  · dsimp only
    split
    · exact .token _
    · exact .failed _
  · exact .failed _

theorem Follows.comes {before after : Phase} {result : TokenResult}
    (follows : Phase.Follows identity before after) (reached : after.result? = some result)
    (held : ∀ result, before.result? = some result → Comes identity result) :
    Comes identity result := by
  cases follows with
  | decided policy now answer =>
    obtain rfl := Option.some.inj reached
    exact comes_decide identity policy now answer
  | settled | reported | published => exact held _ reached
  | aborted => cases reached

inductive Gives (d : Issuer) (identity : Identity) : Entry → TokenResult → Prop
  | served (token : AccessToken) : Gives d identity (.served token) (.ok token)
  | published (flight : Nat) (result : TokenResult)
      (found : d.flights.find? flight = some ⟨identity, .published result⟩) :
      Gives d identity (.waits flight) result
  | aborted (flight : Nat) (found : d.flights.find? flight = some ⟨identity, .aborted⟩) :
      Gives d identity (.waits flight) (.error .cancelled)

theorem Gives.keep {entry : Entry} {result : TokenResult} (gives : d.Gives identity entry result)
    (flies : ∀ flight, d.Flies e action flight) : e.Gives identity entry result := by
  cases gives with
  | served token => exact .served token
  | published flight result found =>
    exact .published flight result ((flies flight).final found trivial)
  | aborted flight found => exact .aborted flight ((flies flight).final found trivial)

/-- Calls that wait for one flight are for one identity and return with one result. -/
theorem Gives.agree {other : Identity} {result second : TokenResult}
    (gives : d.Gives identity (.waits flight) result)
    (again : d.Gives other (.waits flight) second) : identity = other ∧ result = second := by
  cases gives with
  | published _ _ found =>
    cases again with
    | published _ _ here =>
      cases found.symm.trans here
      exact ⟨rfl, rfl⟩
    | aborted _ here => cases found.symm.trans here
  | aborted _ found =>
    cases again with
    | published _ _ here => cases found.symm.trans here
    | aborted _ here =>
      cases found.symm.trans here
      exact ⟨rfl, rfl⟩

theorem gives_of_outcome? {result : TokenResult} (refreshes : d.Refreshes identity flight)
    (outcome : d.outcome? flight = some result) : d.Gives identity (.waits flight) result := by
  obtain ⟨phase, found⟩ := refreshes
  unfold outcome? at outcome
  rw [found] at outcome
  cases phase with
  | published given =>
    obtain rfl := Option.some.inj outcome
    exact .published flight given found
  | aborted =>
    obtain rfl := Option.some.inj outcome
    exact .aborted flight found
  | calling | decided | settled | reported => cases outcome

theorem outcome?_of_over {phase : Phase} (found : d.flights.find? flight = some ⟨identity, phase⟩)
    (ended : phase.Over) : d.outcome? flight = some phase.outcome := by
  unfold outcome?
  rw [found]
  cases phase with
  | published | aborted => rfl
  | calling | decided | settled | reported => exact ended.elim

/-! ### Landing -/

/-- The flight has come to the result and to this stage at least. -/
def Lands (d : Issuer) (identity : Identity) (flight : Nat) (result : TokenResult) (stage : Nat) :
    Prop :=
  ∃ phase, d.flights.find? flight = some ⟨identity, phase⟩ ∧ phase.result? = some result ∧
    stage ≤ phase.stage

variable {result : TokenResult} {stage : Nat}

theorem Lands.keep (lands : d.Lands identity flight result stage)
    (flies : d.Flies e action flight) : e.Lands identity flight result stage := by
  obtain ⟨phase, found, reached, late⟩ := lands
  cases flies with
  | stays same => exact ⟨phase, same.trans found, reached, late⟩
  | follows owner before after here moved next =>
    obtain ⟨rfl, rfl⟩ := Flight.mk.inj (Option.some.inj (here.symm.trans found))
    exact ⟨after, moved, next.result? reached, Nat.le_trans late next.stage_le⟩
  | begins owner now entered idle first begun => cases first.symm.trans found

theorem Lands.settle (lands : d.Lands identity flight result 1) :
    (d.settle flight).Lands identity flight result 2 := by
  obtain ⟨phase, found, reached, -⟩ := lands
  cases phase with
  | calling | aborted => cases reached
  | decided given =>
    exact ⟨.settled given, (find?_settle found flight).trans (if_pos rfl), reached, Nat.le_refl 2⟩
  | settled | reported | published =>
    have same : d.settle flight = d := by simp only [Issuer.settle, found]
    rw [same]
    exact ⟨_, found, reached, by simp only [Phase.stage]; omega⟩

theorem Lands.report (lands : d.Lands identity flight result 2) :
    (d.report flight).2.Lands identity flight result 3 := by
  obtain ⟨phase, found, reached, late⟩ := lands
  cases phase with
  | calling | aborted => cases reached
  | decided => exact absurd late (Nat.lt_irrefl 1)
  | settled given =>
    have set := (find?_setPhase found (.reported given) flight).trans (if_pos rfl)
    refine ⟨.reported given, ?_, reached, Nat.le_refl 3⟩
    simpa only [Issuer.report, found] using set
  | reported | published =>
    have same : (d.report flight).2 = d := by simp only [Issuer.report, found]
    rw [same]
    exact ⟨_, found, reached, by simp only [Phase.stage]; omega⟩

theorem Lands.publish (lands : d.Lands identity flight result 3) :
    (d.publish flight).flights.find? flight = some ⟨identity, .published result⟩ := by
  obtain ⟨phase, found, reached, late⟩ := lands
  cases phase with
  | calling | aborted => cases reached
  | decided | settled =>
    simp only [Phase.stage] at late
    omega
  | reported given =>
    obtain rfl := Option.some.inj reached
    simp only [Issuer.publish, found]
    exact (find?_setPhase found _ flight).trans (if_pos rfl)
  | published given =>
    obtain rfl := Option.some.inj reached
    have same : d.publish flight = d := by simp only [Issuer.publish, found]
    rw [same, found]

theorem Gives.eq_of_lands {owner : Identity} {given : TokenResult}
    (gives : d.Gives identity (.waits flight) given)
    (lands : d.Lands owner flight result stage) : given = result := by
  obtain ⟨phase, found, reached, -⟩ := lands
  cases gives with
  | published _ _ here =>
    obtain ⟨-, rfl⟩ := Flight.mk.inj (Option.some.inj (here.symm.trans found))
    exact Option.some.inj reached
  | aborted _ here =>
    obtain ⟨-, rfl⟩ := Flight.mk.inj (Option.some.inj (here.symm.trans found))
    cases reached

end Issuer

end Muster
