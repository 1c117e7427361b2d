import Muster.Proofs.Token.Renewal

/-!
Refreshes that fail. A failure takes the record of the flight off the slot of its identity and
changes nothing else there: the token that was cached stays, and is handed out until its expiry or
until a later refresh brings another one. The failure is reported once, and no later call waits for
the flight that failed.
-/

namespace Muster

namespace Issuer

variable {d e : Issuer} {action : Action} {now : Millis} {identity : Identity} {flight : Nat}
  {token : AccessToken} {result : TokenResult}

/-- What makes a refresh fail, and with which error: the token source refuses, or it issues a token
that has expired. -/
inductive Refused (identity : Identity) (lifetime now : Millis) : SourceAnswer → TokenError → Prop
  | failed (reason : String) :
      Refused identity lifetime now (.error reason) (.refreshFailed identity reason)
  | expired (issued : IssuedToken) (past : (issued.toAccess now lifetime).expiresAt ≤ now) :
      Refused identity lifetime now (.ok issued)
        (.refreshFailed identity "token issued already expired")

theorem decide_eq_error_iff {policy : TokenPolicy} {answer : SourceAnswer} {error : TokenError} :
    decide identity policy now answer = .error error ↔
      Refused identity policy.defaultLifetime now answer error := by
  constructor
  · intro decided
    unfold decide at decided
    split at decided
    · rename_i issued
      dsimp only at decided
      split at decided
      · cases decided
      · rename_i invalid
        cases decided
        apply Refused.expired
        simpa [AccessToken.isValid] using invalid
    · cases decided
      exact .failed _
  · intro refused
    cases refused with
    | failed reason => rfl
    | expired issued past =>
      have invalid : ¬(issued.toAccess now policy.defaultLifetime).isValid now = true := by
        simpa [AccessToken.isValid] using past
      simp only [decide, if_neg invalid]

/-! ### Calls -/

/-- A call finds a valid token, and is served that. -/
theorem entry_of_valid (cached : (d.slot identity).cached = some token)
    (valid : token.isValid now = true) : (d.enter identity now).1 = .served token := by
  simp only [enter, cached, valid, if_true]
  split <;> rfl

/-- A new flight of the identity has begun, and its slot records that. -/
structure Begins (d e : Issuer) (identity : Identity) : Prop where
  started : e.started = d.started + 1
  recorded : (e.slot identity).flight = some d.started
  calling : e.flights.find? d.started = some ⟨identity, .calling⟩

theorem begins_join (idle : (d.slot identity).flight = none) :
    d.Begins (d.join identity).2 identity := by
  have recorded := d.recorded_join identity
  simp only [join, idle] at recorded ⊢
  refine ⟨rfl, recorded, ?_⟩
  rw [Table.find?_insert, if_pos rfl]

theorem begins_enter (stale : ∀ token, (d.slot identity).cached = some token →
      token.isFresh now d.policy.refreshMargin = false)
    (idle : (d.slot identity).flight = none) : d.Begins (d.enter identity now).2 identity := by
  unfold enter
  split
  · rename_i token cached
    rw [stale token cached]
    exact begins_join idle
  · exact begins_join idle

/-! ### What is cached -/

/-- The action settles a refresh of the identity that brought a token. -/
def Renews (identity : Identity) (d : Issuer) (action : Action) : Prop :=
  ∃ flight token, action = .settle flight ∧
    d.flights.find? flight = some ⟨identity, .decided (.ok token)⟩

theorem cached_of_moves (moves : d.Moves e action) (old : ¬d.Renews identity action) :
    (e.slot identity).cached = (d.slot identity).cached := by
  have kept : ∀ {owner record}, (∀ other, e.slot other =
        if other = owner then { d.slot owner with flight := record } else d.slot other) →
      (e.slot identity).cached = (d.slot identity).cached := by
    intro owner record slots
    rw [slots]
    split
    · rename_i same
      rw [same]
    · rfl
  cases moves with
  | rests _ same => rw [same]
  | takesOff owner time idle slots => exact kept slots
  | goesOn _ number owner before after found next slots => rw [slots]
  | settles number owner result found slots =>
    rw [slots]
    split
    · rename_i same
      subst same
      cases result with
      | ok token => exact absurd ⟨number, token, rfl, found⟩ old
      | error error => rfl
    · rfl
  | cancels owner number recorded landed slots => exact kept slots
  | aborts owner other number recorded found slots => exact kept slots

theorem cached_run {actions : List Action} (old : Avoids step (Renews identity) d actions) :
    ((d.run actions).slot identity).cached = (d.slot identity).cached := by
  induction actions generalizing d with
  | nil => rfl
  | cons action rest ih => exact (ih old.2).trans (cached_of_moves (d.step_moves action) old.1)

/-! ### After settling -/

/-- A flight with a result in the slot only waits to be reported. -/
theorem find?_of_settled (formed : d.Formed)
    (settled : d.flights.find? flight = some ⟨identity, .settled result⟩)
    (other : action ≠ .report flight) :
    (d.step action).flights.find? flight = some ⟨identity, .settled result⟩ := by
  have moves := d.step_moves action
  have apart : ∀ {number f}, (∀ other, (d.step action).flights.find? other =
        if other = number then some f else d.flights.find? other) → flight ≠ number →
      (d.step action).flights.find? flight = some ⟨identity, .settled result⟩ := by
    intro number f flights different
    rw [flights, if_neg different, settled]
  generalize d.step action = e at *
  cases moves with
  | rests _ same => rw [same, settled]
  | takesOff owner time idle slots flights started =>
    exact apart flights (Nat.ne_of_lt (formed.below settled))
  | goesOn _ number owner before after found next slots flights =>
    apply apart flights
    rintro rfl
    cases settled.symm.trans found
    cases next
    exact other rfl
  | settles number owner result found slots flights =>
    apply apart flights
    rintro rfl
    cases settled.symm.trans found
  | cancels owner number recorded landed slots flights => rw [flights, settled]
  | aborts owner other number recorded found slots flights =>
    apply apart flights
    rintro rfl
    cases settled.symm.trans found

/-- The result was reported, and whoever waits may have read it. -/
def Told (d : Issuer) (identity : Identity) (flight : Nat) (result : TokenResult) : Prop :=
  d.flights.find? flight = some ⟨identity, .reported result⟩ ∨
    d.flights.find? flight = some ⟨identity, .published result⟩

theorem told_report (settled : d.flights.find? flight = some ⟨identity, .settled result⟩) :
    (d.report flight).2.Told identity flight result := by
  left
  simp only [report, settled]
  rw [find?_setPhase settled, if_pos rfl]

theorem Told.step (told : d.Told identity flight result) (formed : d.Formed) (action : Action) :
    (d.step action).Told identity flight result := by
  have flies := flies_of_moves formed (d.step_moves action) flight
  rcases told with reported | published
  · cases flies with
    | stays same => exact .inl (same.trans reported)
    | follows owner before after found moved next =>
      cases reported.symm.trans found
      cases next
      exact .inr moved
    | begins owner time entered idle first => cases first.symm.trans reported
  · exact .inr (flies.final published trivial)

theorem Told.run (told : d.Told identity flight result) (formed : d.Formed)
    (actions : List Action) : (d.run actions).Told identity flight result := by
  induction actions generalizing d with
  | nil => exact told
  | cons action rest ih =>
    exact ih (told.step formed action) (formed_step formed (d.step_moves action))

theorem landed_run (formed : d.Formed)
    (settled : d.flights.find? flight = some ⟨identity, .settled result⟩)
    (actions : List Action) :
    (.report flight ∉ actions →
      (d.run actions).flights.find? flight = some ⟨identity, .settled result⟩) ∧
    (.report flight ∈ actions → (d.run actions).Told identity flight result) := by
  induction actions generalizing d with
  | nil => exact ⟨fun _ => settled, nofun⟩
  | cons action rest ih =>
    have next := formed_step formed (d.step_moves action)
    by_cases reports : action = .report flight
    · subst reports
      refine ⟨fun absent => absurd List.mem_cons_self absent, fun _ => ?_⟩
      exact (told_report settled).run next rest
    · obtain ⟨before, after⟩ := ih next (find?_of_settled formed settled reports)
      constructor
      · intro absent
        exact before (mt (List.mem_cons_of_mem action) absent)
      · intro member
        exact after ((List.mem_cons.mp member).resolve_left (Ne.symm reports))

/-- A call never waits for a flight whose result is in the slot. -/
theorem entry_ne_waits (formed : d.Formed)
    (settled : d.flights.find? flight = some ⟨identity, .settled result⟩)
    (actions : List Action) (wanted : Identity) :
    ((d.run actions).enter wanted now).1 ≠ .waits flight := by
  intro waits
  have last : d.run (actions ++ [.enter wanted now]) = ((d.run actions).enter wanted now).2 :=
    List.foldl_append ..
  have next := formed_run formed (actions ++ [.enter wanted now])
  obtain ⟨before, after⟩ := landed_run formed settled (actions ++ [.enter wanted now])
  rw [last] at next before after
  -- the flight that the call waits for has no result in the slot yet
  obtain ⟨phase, found, unsettled⟩ := next.inFlight (recorded_of_enter waits)
  by_cases member : .report flight ∈ actions ++ [.enter wanted now]
  · rcases after member with reported | published
    · cases found.symm.trans reported
      exact unsettled
    · cases found.symm.trans published
      exact unsettled
  · cases found.symm.trans (before member)
    exact unsettled

end Issuer

/-! ### Reports -/

/-- An issuer and what its flights reported, each event with the number of its flight. -/
structure Journal where
  issuer : Issuer
  log : List (Nat × Event) := []
deriving DecidableEq

namespace Journal

def reports (d : Issuer) : Issuer.Action → List (Nat × Event)
  | .report flight => (d.report flight).1.map fun event => (flight, event)
  | _ => []

def step (s : Journal) (action : Issuer.Action) : Journal :=
  ⟨s.issuer.step action, s.log ++ reports s.issuer action⟩

def run (s : Journal) (actions : List Issuer.Action) : Journal := actions.foldl step s

variable {s : Journal} {identity : Identity} {flight : Nat} {error : TokenError}

def reportsOf (s : Journal) (flight : Nat) : List Event :=
  (s.log.filter (·.1 = flight)).map (·.2)

/-- What a flight has reported when it has come so far. -/
def told : Phase → List Event
  | .reported (.error error) | .published (.error error) => [Issuer.failureEvent error]
  | _ => []

def due (d : Issuer) (flight : Nat) : List Event :=
  ((d.flights.find? flight).map fun f => told f.phase).getD []

theorem due_of_find? {d : Issuer} {phase : Phase}
    (found : d.flights.find? flight = some ⟨identity, phase⟩) : due d flight = told phase := by
  rw [due, found]
  rfl

theorem due_step {d : Issuer} (formed : d.Formed) {action : Issuer.Action}
    (other : action ≠ .report flight) : due (d.step action) flight = due d flight := by
  cases Issuer.flies_of_moves formed (d.step_moves action) flight with
  | stays same => rw [due, due, same]
  | follows owner before after found moved next =>
    rw [due_of_find? found, due_of_find? moved]
    cases next with
    | reported result =>
      cases moved.symm.trans (Issuer.find?_of_settled formed found other)
    | published result => cases result <;> rfl
    | decided | settled | aborted => rfl
  | begins owner time entered idle first begun =>
    rw [due_of_find? begun, due, first]
    rfl

theorem due_report (d : Issuer) (flight : Nat) :
    due (d.report flight).2 flight = due d flight ++ (d.report flight).1 := by
  unfold Issuer.report
  split
  · rename_i owner result settled
    rw [due_of_find? settled, due, Issuer.find?_setPhase settled, if_pos rfl]
    cases result <;> rfl
  · exact (List.append_nil _).symm

theorem reportsOf_step (s : Journal) (action : Issuer.Action) (flight : Nat) :
    (s.step action).reportsOf flight =
      s.reportsOf flight ++ ((reports s.issuer action).filter (·.1 = flight)).map (·.2) := by
  simp only [reportsOf, step, List.filter_append, List.map_append]

/-- Every flight has reported what is due, and nothing else. -/
structure Sound (s : Journal) : Prop where
  formed : s.issuer.Formed
  reported : ∀ flight, s.reportsOf flight = due s.issuer flight

theorem sound_opened (policy : TokenPolicy) : Sound { issuer := { policy } } :=
  ⟨Issuer.formed_empty policy, fun _ => rfl⟩

theorem Sound.step (sound : s.Sound) (action : Issuer.Action) : (s.step action).Sound := by
  refine ⟨Issuer.formed_step sound.formed (s.issuer.step_moves action), fun flight => ?_⟩
  rw [reportsOf_step, sound.reported flight]
  by_cases own : action = .report flight
  · subst own
    have all : ((reports s.issuer (.report flight)).filter (·.1 = flight)).map (·.2) =
        (s.issuer.report flight).1 := by
      simp [reports, List.filter_map, Function.comp_def]
    rw [all]
    exact (due_report s.issuer flight).symm
  · have none : (reports s.issuer action).filter (·.1 = flight) = [] := by
      cases action with
      | report number =>
        have apart : number ≠ flight := fun same => own (congrArg _ same)
        simp [reports, apart]
      | enter | answer | settle | publish | cancel => rfl
    rw [none, List.map_nil, List.append_nil]
    exact (due_step sound.formed own).symm

theorem Sound.run (sound : s.Sound) (actions : List Issuer.Action) : (s.run actions).Sound := by
  induction actions generalizing s with
  | nil => exact sound
  | cons action rest ih => exact ih (sound.step action)

theorem issuer_run (s : Journal) (actions : List Issuer.Action) :
    (s.run actions).issuer = s.issuer.run actions := by
  induction actions generalizing s with
  | nil => rfl
  | cons action rest ih => exact ih (s.step action)

/-! ### Failures -/

/-- What a failed refresh of the identity leaves when it settles, and what comes of later calls. -/
structure Spared (s : Journal) (identity : Identity) (flight : Nat) (error : TokenError) :
    Prop where
  cached : ((s.step (.settle flight)).issuer.slot identity).cached =
    (s.issuer.slot identity).cached
  others : ∀ other, other ≠ identity →
    (s.step (.settle flight)).issuer.slot other = s.issuer.slot other
  reported : ∀ later,
    (.report flight ∉ later → (s.run (.settle flight :: later)).reportsOf flight = []) ∧
    (.report flight ∈ later →
      (s.run (.settle flight :: later)).reportsOf flight = [Issuer.failureEvent error])
  /-- no call comes to know of the failure any more -/
  forgotten : ∀ later wanted now,
    ((s.run (.settle flight :: later)).issuer.enter wanted now).1 ≠ .waits flight
  kept : ∀ later token now, (s.issuer.slot identity).cached = some token →
    token.isValid now = true →
    Avoids Issuer.step (Issuer.Renews identity) (s.step (.settle flight)).issuer later →
      ((s.run (.settle flight :: later)).issuer.enter identity now).1 = .served token
  restarts : ∀ later now, let d := (s.run (.settle flight :: later)).issuer
    (∀ token, (d.slot identity).cached = some token →
      token.isFresh now d.policy.refreshMargin = false) →
    (d.slot identity).flight = none → d.Begins (d.enter identity now).2 identity
  /-- a later refresh that settles with a token -/
  renewed : ∀ later renewal token rest now, let d := (s.run (.settle flight :: later)).issuer
    d.flights.find? renewal = some ⟨identity, .decided (.ok token)⟩ → token.isValid now = true →
    Avoids Issuer.step (Issuer.Renews identity) (d.settle renewal) rest →
      (((d.settle renewal).run rest).enter identity now).1 = .served token

theorem Sound.reported_of_settled (sound : s.Sound)
    (settled : s.issuer.flights.find? flight = some ⟨identity, .settled (.error error)⟩)
    (later : List Issuer.Action) :
    (.report flight ∉ later → (s.run later).reportsOf flight = []) ∧
    (.report flight ∈ later → (s.run later).reportsOf flight = [Issuer.failureEvent error]) := by
  obtain ⟨before, after⟩ := Issuer.landed_run sound.formed settled later
  rw [← issuer_run] at before after
  rw [(sound.run later).reported flight]
  constructor
  · intro absent
    exact due_of_find? (before absent)
  · intro member
    rcases after member with reported | published
    · exact due_of_find? reported
    · exact due_of_find? published

theorem Sound.spared (sound : s.Sound)
    (failed : s.issuer.flights.find? flight = some ⟨identity, .decided (.error error)⟩) :
    s.Spared identity flight error := by
  have slot := Issuer.slot_settle failed
  have next := sound.step (.settle flight)
  have settled : (s.step (.settle flight)).issuer.flights.find? flight =
      some ⟨identity, .settled (.error error)⟩ := by
    show (s.issuer.settle flight).flights.find? flight = _
    rw [Issuer.find?_settle failed, if_pos rfl]
  have cached : ((s.step (.settle flight)).issuer.slot identity).cached =
      (s.issuer.slot identity).cached := by
    show ((s.issuer.settle flight).slot identity).cached = _
    rw [slot, if_pos rfl]
    rfl
  refine ⟨cached, fun other apart => (slot other).trans (if_neg apart),
    fun later => next.reported_of_settled settled later, ?_, ?_, ?_, ?_⟩
  · intro later wanted now
    rw [issuer_run]
    exact Issuer.entry_ne_waits next.formed settled later wanted
  · intro later token now held valid old
    apply Issuer.entry_of_valid _ valid
    rw [issuer_run]
    exact (Issuer.cached_run old).trans (cached.trans held)
  · intro later now d stale idle
    exact Issuer.begins_enter stale idle
  · intro later renewal token rest now d decided valid old
    apply Issuer.entry_of_valid _ valid
    rw [Issuer.cached_run old, Issuer.slot_settle decided, if_pos rfl]
    rfl

/-- A refresh fails exactly if the token source refuses or issues a token that has expired. When it
settles, the cached token and every other slot stay as they are, the failure is reported once, and
later calls are served the old token as long as it is valid, start a refresh where it is not fresh
and none is recorded, and are served what a later refresh brings. -/
theorem failures_spare_cache (policy : TokenPolicy) (before : List Issuer.Action) :
    let s := run { issuer := { policy } } before
    (∀ flight identity answer now error,
      s.issuer.flights.find? flight = some ⟨identity, .calling⟩ →
        ((s.step (.answer flight answer now)).issuer.flights.find? flight =
          some ⟨identity, .decided (.error error)⟩ ↔
        Issuer.Refused identity policy.defaultLifetime now answer error)) ∧
    ∀ flight identity error,
      s.issuer.flights.find? flight = some ⟨identity, .decided (.error error)⟩ →
        s.Spared identity flight error := by
  intro s
  have sound : s.Sound := (sound_opened policy).run before
  refine ⟨?_, fun flight identity error failed => sound.spared failed⟩
  intro flight identity answer now error calling
  have same : s.issuer.policy = policy := by
    rw [issuer_run]
    exact Issuer.policy_run { policy } before
  have decided := Issuer.find?_answer calling answer now
  rw [← same, ← Issuer.decide_eq_error_iff]
  show (s.issuer.answer flight answer now).flights.find? flight = _ ↔ _
  rw [decided]
  simp

/-- The token of alice is stale when its refresh fails, and bob is being refreshed besides. -/
def staleAlice : List Issuer.Action :=
  [.enter "alice" 0, .answer 0 (.ok ⟨"first", some 1000⟩) 0, .settle 0, .enter "alice" 950,
    .enter "bob" 950, .answer 1 (.error "down") 955]

/-- She is refreshed again, and the source issues a token this time. -/
def nextRefresh : List Issuer.Action :=
  [.report 1, .enter "alice" 960, .answer 3 (.ok ⟨"second", some 2000⟩) 970]

theorem failures_spare_cache_stale :
    let s := run { issuer := { policy := { refreshMargin := 100 } } } staleAlice
    let t := s.run (.settle 1 :: nextRefresh)
    s.issuer.flights.find? 1 =
        some ⟨"alice", .decided (.error (.refreshFailed "alice" "down"))⟩ ∧
      t.reportsOf 1 = [Issuer.failureEvent (.refreshFailed "alice" "down")] ∧
      (t.issuer.enter "alice" 980).1 = .served ⟨"first", 1000⟩ ∧
      t.issuer.started = 4 ∧
      (((t.issuer.settle 3).run [.report 3, .publish 3]).enter "alice" 1500).1 =
        .served ⟨"second", 2000⟩ ∧
      ∀ error, (s.step (.answer 2 (.ok ⟨"third", some 900⟩) 960)).issuer.flights.find? 2 =
        some ⟨"bob", .decided (.error error)⟩ ↔
        Issuer.Refused "bob" 300000 960 (.ok ⟨"third", some 900⟩) error := by
  intro s t
  have failed : s.issuer.flights.find? 1 =
      some ⟨"alice", .decided (.error (.refreshFailed "alice" "down"))⟩ := by decide
  have old : Avoids Issuer.step (Issuer.Renews "alice") (s.step (.settle 1)).issuer nextRefresh :=
    ⟨nofun, nofun, nofun, trivial⟩
  obtain ⟨refused, spared⟩ := failures_spare_cache { refreshMargin := 100 } staleAlice
  have spared := spared 1 "alice" _ failed
  refine ⟨failed, (spared.reported nextRefresh).2 (by simp [nextRefresh]),
    spared.kept nextRefresh ⟨"first", 1000⟩ 980 (by decide) (by decide) old, by decide, ?_, ?_⟩
  · exact spared.renewed nextRefresh 3 ⟨"second", 2000⟩ [.report 3, .publish 3] 1500 (by decide)
      (by decide) ⟨nofun, nofun, trivial⟩
  · intro error
    exact refused 2 "bob" _ 960 error (by decide)

end Journal

end Muster
