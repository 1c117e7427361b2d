import Muster.Proofs.Rows
import Muster.Proofs.Token.OneFlight
import Muster.Proofs.Token.SingleFlight

/-!
Callers who share refreshes. A lobby keeps every call to an issuer, how it began, and what it
returned with. The calls that wait for one flight return with one result, which a cancellation makes
only of a flight that has none yet. While the slot of an identity records a flight, the calls of the
identity start no other. A flight that was cancelled after its answer had come settles later, and
then clears the record of whichever flight began after it.
-/

namespace Muster

structure Visit where
  identity : Identity
  now : Millis
  entry : Entry
deriving DecidableEq

structure Lobby where
  issuer : Issuer
  visits : List Visit := []
  /-- the visits that ended, by number -/
  returned : List (Nat × TokenResult) := []
deriving DecidableEq

namespace Lobby

inductive Action
  | act (action : Issuer.Action)
  | resume (number : Nat)

variable (s : Lobby)

def enter (identity : Identity) (now : Millis) : Lobby :=
  match s.issuer.enter identity now with
  | (.served token, issuer) =>
    { issuer
      visits := s.visits ++ [⟨identity, now, .served token⟩]
      returned := s.returned ++ [(s.visits.length, .ok token)] }
  | (.waits flight, issuer) =>
    { s with issuer, visits := s.visits ++ [⟨identity, now, .waits flight⟩] }

def resume (number : Nat) : Lobby :=
  match s.visits[number]? with
  | some ⟨_, _, .waits flight⟩ =>
    match s.issuer.outcome? flight with
    | some result =>
      if number ∈ s.returned.map Prod.fst then s
      else { s with returned := s.returned ++ [(number, result)] }
    | none => s
  | _ => s

def step : Action → Lobby
  | .act (.enter identity now) => s.enter identity now
  | .act action => { s with issuer := s.issuer.step action }
  | .resume number => s.resume number

def run (s : Lobby) (actions : List Action) : Lobby := actions.foldl step s

def Concerns (identity : Identity) : Action → Prop
  | .act action => s.issuer.Concerns identity action
  | .resume _ => False

variable {s} {t : Lobby}

/-! ### Steps -/

inductive Moves (s : Lobby) : Lobby → Action → Prop
  | rests (number : Nat) : Moves s s (.resume number)
  | acts (action : Issuer.Action) (uncalled : ∀ identity now, action ≠ .enter identity now) :
      Moves s { s with issuer := s.issuer.step action } (.act action)
  | serves (identity : Identity) (now : Millis) (token : AccessToken)
      (entry : (s.issuer.enter identity now).1 = .served token) :
      Moves s
        { issuer := s.issuer.step (.enter identity now)
          visits := s.visits ++ [⟨identity, now, .served token⟩]
          returned := s.returned ++ [(s.visits.length, .ok token)] } (.act (.enter identity now))
  | waits (identity : Identity) (now : Millis) (flight : Nat)
      (entry : (s.issuer.enter identity now).1 = .waits flight) :
      Moves s
        { s with
          issuer := s.issuer.step (.enter identity now)
          visits := s.visits ++ [⟨identity, now, .waits flight⟩] } (.act (.enter identity now))
  | returns (number : Nat) (visit : Visit) (flight : Nat) (result : TokenResult)
      (made : s.visits[number]? = some visit) (entry : visit.entry = .waits flight)
      (outcome : s.issuer.outcome? flight = some result) :
      Moves s { s with returned := s.returned ++ [(number, result)] } (.resume number)

theorem moves_enter (s : Lobby) (identity : Identity) (now : Millis) :
    s.Moves (s.enter identity now) (.act (.enter identity now)) := by
  unfold enter
  split
  · rename_i token issuer entry
    obtain rfl : issuer = s.issuer.step (.enter identity now) := by rw [Issuer.step, entry]
    exact .serves identity now token (by rw [entry])
  · rename_i flight issuer entry
    obtain rfl : issuer = s.issuer.step (.enter identity now) := by rw [Issuer.step, entry]
    exact .waits identity now flight (by rw [entry])

theorem moves_resume (s : Lobby) (number : Nat) : s.Moves (s.resume number) (.resume number) := by
  unfold resume
  split
  · rename_i identity now flight made
    split
    · rename_i result outcome
      split
      · exact .rests _
      · exact .returns number _ flight result made rfl outcome
    · exact .rests _
  · exact .rests _

theorem step_moves (s : Lobby) (action : Action) : s.Moves (s.step action) action := by
  cases action with
  | resume number => exact s.moves_resume number
  | act action =>
    cases action with
    | enter identity now => exact s.moves_enter identity now
    | answer | settle | report | publish | cancel => exact .acts _ nofun

theorem issuer_act (s : Lobby) (action : Issuer.Action) :
    (s.step (.act action)).issuer = s.issuer.step action := by
  have moves := s.step_moves (.act action)
  generalize s.step (.act action) = t at moves
  cases moves with
  | acts | serves | waits => rfl

theorem issuer_resume (s : Lobby) (number : Nat) :
    (s.step (.resume number)).issuer = s.issuer := by
  have moves := s.step_moves (.resume number)
  generalize s.step (.resume number) = t at moves
  cases moves with
  | rests | returns => rfl

/-! ### Results that are shared -/

/-- Every visit that waits knows its flight, and whoever returned has what the flight came to. -/
structure Sound (s : Lobby) : Prop where
  formed : s.issuer.Formed
  waits : ∀ {number : Nat} {visit : Visit} {flight : Nat}, s.visits[number]? = some visit →
    visit.entry = .waits flight → s.issuer.Refreshes visit.identity flight
  comes : ∀ {flight identity phase result},
    s.issuer.flights.find? flight = some ⟨identity, phase⟩ → phase.result? = some result →
    Issuer.Comes identity result
  returned : ∀ {number result}, (number, result) ∈ s.returned →
    ∃ visit, s.visits[number]? = some visit ∧ s.issuer.Gives visit.identity visit.entry result

theorem sound_opened (policy : TokenPolicy) : Sound { issuer := { policy } } :=
  ⟨Issuer.formed_empty policy, nofun, nofun, nofun⟩

theorem Sound.act (sound : s.Sound) (action : Issuer.Action) :
    Sound { s with issuer := s.issuer.step action } := by
  have moves := s.issuer.step_moves action
  have flies := Issuer.flies_of_moves sound.formed moves
  refine ⟨Issuer.formed_step sound.formed moves, fun {number visit flight} made entry => ?_,
    fun {flight identity phase result} found reached => ?_, fun {number result} ended => ?_⟩
  · exact (flies flight).refreshes (sound.waits made entry)
  · cases flies flight with
    | stays same => exact sound.comes (same.symm.trans found) reached
    | follows owner before after here moved next =>
      obtain ⟨rfl, rfl⟩ := Flight.mk.inj (Option.some.inj (moved.symm.trans found))
      exact Issuer.Follows.comes next reached fun _ held => sound.comes here held
    | begins owner now entered idle first begun =>
      obtain ⟨-, rfl⟩ := Flight.mk.inj (Option.some.inj (begun.symm.trans found))
      cases reached
  · obtain ⟨visit, made, gives⟩ := sound.returned ended
    exact ⟨visit, made, gives.keep flies⟩

theorem Sound.visit (sound : s.Sound) (visit : Visit)
    (known : ∀ flight, visit.entry = .waits flight → s.issuer.Refreshes visit.identity flight) :
    Sound { s with visits := s.visits ++ [visit] } := by
  refine { sound with waits := fun {number other flight} made entry => ?_,
                      returned := fun {number result} ended => ?_ }
  · rcases getElem?_append_cases made with old | ⟨-, rfl⟩
    · exact sound.waits old entry
    · exact known flight entry
  · obtain ⟨other, made, gives⟩ := sound.returned ended
    exact ⟨other, getElem?_append_old made, gives⟩

theorem Sound.leave (sound : s.Sound) {number : Nat} {visit : Visit} {result : TokenResult}
    (made : s.visits[number]? = some visit)
    (gives : s.issuer.Gives visit.identity visit.entry result) :
    Sound { s with returned := s.returned ++ [(number, result)] } := by
  refine { sound with returned := fun {other result} ended => ?_ }
  rcases List.mem_append.mp ended with old | new
  · exact sound.returned old
  · obtain ⟨rfl, rfl⟩ := Prod.mk.inj (List.mem_singleton.mp new)
    exact ⟨visit, made, gives⟩

theorem Sound.moves (sound : s.Sound) {action : Action} (moves : s.Moves t action) : t.Sound := by
  cases moves with
  | rests => exact sound
  | acts action => exact sound.act action
  | serves identity now token =>
    have entered := (sound.act (.enter identity now)).visit
      ⟨identity, now, .served token⟩ nofun
    exact entered.leave List.getElem?_concat_length (.served token)
  | waits identity now flight entry =>
    have entered := sound.act (.enter identity now)
    have recorded := Issuer.recorded_of_enter entry
    refine entered.visit _ fun other same => ?_
    obtain rfl := Entry.waits.inj same
    exact (entered.formed.inFlight recorded).refreshes
  | returns number visit flight result made entry outcome =>
    have gives := Issuer.gives_of_outcome? (sound.waits made entry) outcome
    exact sound.leave made (entry ▸ gives)

theorem sound_run (sound : s.Sound) (actions : List Action) : (s.run actions).Sound := by
  induction actions generalizing s with
  | nil => exact sound
  | cons action rest ih => exact ih (sound.moves (s.step_moves action))

theorem Sound.flies (sound : s.Sound) (action : Action) (flight : Nat) :
    ∃ own, s.issuer.Flies (s.step action).issuer own flight := by
  cases action with
  | act own =>
    rw [issuer_act]
    exact ⟨own, Issuer.flies_of_moves sound.formed (s.issuer.step_moves own) flight⟩
  | resume number =>
    rw [issuer_resume]
    exact ⟨.settle flight, .stays rfl⟩

theorem Sound.gives (sound : s.Sound) {number flight : Nat} {visit : Visit} {result : TokenResult}
    (made : s.visits[number]? = some visit) (entry : visit.entry = .waits flight)
    (returned : (number, result) ∈ s.returned) :
    s.issuer.Gives visit.identity (.waits flight) result := by
  obtain ⟨other, same, gives⟩ := sound.returned returned
  obtain rfl := Option.some.inj (made.symm.trans same)
  exact entry ▸ gives

theorem Sound.lands_run (sound : s.Sound) {identity : Identity} {flight stage : Nat}
    {result : TokenResult} (lands : s.issuer.Lands identity flight result stage)
    (actions : List Action) : (s.run actions).issuer.Lands identity flight result stage := by
  induction actions generalizing s with
  | nil => exact lands
  | cons action rest ih =>
    obtain ⟨own, flies⟩ := sound.flies action flight
    exact ih (sound.moves (s.step_moves action)) (lands.keep flies)

/-- A flight that has a result publishes it by its own three steps, whatever happens between
them. -/
theorem Sound.publishes (sound : s.Sound) {identity : Identity} {flight : Nat} {phase : Phase}
    {result : TokenResult} (found : s.issuer.flights.find? flight = some ⟨identity, phase⟩)
    (reached : phase.result? = some result) (first second : List Action) :
    let t := (s.step (.act (.settle flight))).run first
    let u := (t.step (.act (.report flight))).run second
    (u.step (.act (.publish flight))).issuer.flights.find? flight =
      some ⟨identity, .published result⟩ := by
  intro t u
  have decided : s.issuer.Lands identity flight result 1 :=
    ⟨phase, found, reached, Phase.stage_of_result? reached⟩
  have sound := sound.act (.settle flight)
  have settled : t.issuer.Lands identity flight result 2 := sound.lands_run decided.settle first
  have sound := (sound_run sound first).act (.report flight)
  have reported : u.issuer.Lands identity flight result 3 := sound.lands_run settled.report second
  exact reported.publish

theorem aborted_run (sound : s.Sound) {identity : Identity} {flight : Nat}
    (aborted : s.issuer.flights.find? flight = some ⟨identity, .aborted⟩) (actions : List Action) :
    (s.run actions).issuer.flights.find? flight = some ⟨identity, .aborted⟩ := by
  induction actions generalizing s with
  | nil => exact aborted
  | cons action rest ih =>
    obtain ⟨own, flies⟩ := sound.flies action flight
    exact ih (sound.moves (s.step_moves action)) (flies.final aborted trivial)

/-- How the calls that wait for a flight return, at a state that a lobby reaches. -/
structure Shared (s : Lobby) : Prop where
  alike : ∀ (m n flight : Nat) (one other : Visit) (result second : TokenResult),
    s.visits[m]? = some one → s.visits[n]? = some other →
    one.entry = .waits flight → other.entry = .waits flight →
    (m, result) ∈ s.returned → (n, second) ∈ s.returned →
      one.identity = other.identity ∧ result = second
  kind : ∀ (n flight : Nat) (visit : Visit) (result : TokenResult), s.visits[n]? = some visit →
    visit.entry = .waits flight → (n, result) ∈ s.returned →
      if s.issuer.flights.find? flight = some ⟨visit.identity, .aborted⟩
        then result = .error .cancelled else Issuer.Comes visit.identity result
  resumes : ∀ (n flight : Nat) (visit : Visit) (phase : Phase), s.visits[n]? = some visit →
    visit.entry = .waits flight → n ∉ s.returned.map Prod.fst →
    s.issuer.flights.find? flight = some ⟨visit.identity, phase⟩ → phase.Over →
      (s.step (.resume n)).returned = s.returned ++ [(n, phase.outcome)]
  publishes : ∀ (identity : Identity) (flight : Nat) (phase : Phase) (result : TokenResult),
    s.issuer.flights.find? flight = some ⟨identity, phase⟩ → phase.result? = some result →
    ∀ first second : List Action,
      let t := (s.step (.act (.settle flight))).run first
      let u := (t.step (.act (.report flight))).run second
      (u.step (.act (.publish flight))).issuer.flights.find? flight =
        some ⟨identity, .published result⟩
  cancels : ∀ (identity : Identity) (flight : Nat) (phase : Phase),
    (s.issuer.slot identity).flight = some flight →
    s.issuer.flights.find? flight = some ⟨identity, phase⟩ → ∀ (later : List Action) (n : Nat)
      (visit : Visit) (result : TokenResult),
      (s.run (.act (.cancel identity) :: later)).visits[n]? = some visit →
      visit.entry = .waits flight →
      (n, result) ∈ (s.run (.act (.cancel identity) :: later)).returned →
        result = phase.outcome ∧ (result = .error .cancelled ↔ phase = .calling)
  own : ∀ (identity other : Identity) (action : Action), s.Concerns identity action →
    s.Concerns other action → identity = other
  apart : ∀ (identity : Identity) (actions : List Action),
    Avoids step (fun s action => s.Concerns identity action) s actions →
      (s.run actions).issuer.slot identity = s.issuer.slot identity ∧
      ∀ flight phase, (s.run actions).issuer.flights.find? flight = some ⟨identity, phase⟩ ↔
        s.issuer.flights.find? flight = some ⟨identity, phase⟩

theorem Sound.kind (sound : s.Sound) {number flight : Nat} {visit : Visit} {result : TokenResult}
    (made : s.visits[number]? = some visit) (entry : visit.entry = .waits flight)
    (returned : (number, result) ∈ s.returned) :
    if s.issuer.flights.find? flight = some ⟨visit.identity, .aborted⟩
      then result = .error .cancelled else Issuer.Comes visit.identity result := by
  have gives := sound.gives made entry returned
  split
  · rename_i aborted
    exact (gives.agree (.aborted flight aborted)).2
  · rename_i whole
    cases gives with
    | published _ _ found => exact sound.comes found rfl
    | aborted _ found => exact absurd found whole

theorem resumes_of_over {number flight : Nat} {visit : Visit} {phase : Phase}
    (made : s.visits[number]? = some visit) (entry : visit.entry = .waits flight)
    (waiting : number ∉ s.returned.map Prod.fst)
    (found : s.issuer.flights.find? flight = some ⟨visit.identity, phase⟩) (ended : phase.Over) :
    (s.step (.resume number)).returned = s.returned ++ [(number, phase.outcome)] := by
  have outcome := Issuer.outcome?_of_over found ended
  obtain ⟨identity, now, begun⟩ := visit
  obtain rfl : begun = .waits flight := entry
  simp only [step, resume, made, outcome, if_neg waiting]

/-- A cancellation before the answer is what everyone who waits returns with. One that comes when
the answer is there changes nothing for them. -/
theorem Sound.cancels (sound : s.Sound) {identity : Identity} {flight : Nat} {phase : Phase}
    (recorded : (s.issuer.slot identity).flight = some flight)
    (found : s.issuer.flights.find? flight = some ⟨identity, phase⟩) {later : List Action}
    {number : Nat} {visit : Visit} {result : TokenResult}
    (made : (s.run (.act (.cancel identity) :: later)).visits[number]? = some visit)
    (entry : visit.entry = .waits flight)
    (returned : (number, result) ∈ (s.run (.act (.cancel identity) :: later)).returned) :
    result = phase.outcome ∧ (result = .error .cancelled ↔ phase = .calling) := by
  have next := sound.moves (s.step_moves (.act (.cancel identity)))
  have gives := (sound_run next later).gives made entry returned
  rcases sound.formed.recorded recorded with calling | ⟨given, decided⟩
  · obtain ⟨-, rfl⟩ := Flight.mk.inj (Option.some.inj (found.symm.trans calling))
    have aborted := Issuer.cancel_of_running recorded calling
    have still := aborted_run next (by rwa [issuer_act]) later
    have cancelled := (gives.agree (.aborted flight still)).2
    exact ⟨cancelled, fun _ => rfl, fun _ => cancelled⟩
  · obtain ⟨-, rfl⟩ := Flight.mk.inj (Option.some.inj (found.symm.trans decided))
    have lands : s.issuer.Lands identity flight given 1 :=
      ⟨_, found, rfl, Nat.le_refl 1⟩
    obtain ⟨own, flies⟩ := sound.flies (.act (.cancel identity)) flight
    have same := gives.eq_of_lands (next.lands_run (lands.keep flies) later)
    refine ⟨same, fun cancelled => ?_, nofun⟩
    -- no answer of the token source is the error of a cancellation
    cases same.symm.trans cancelled ▸ sound.comes found rfl

theorem own_of_concerns {identity other : Identity} {action : Action}
    (concerns : s.Concerns identity action) (also : s.Concerns other action) :
    identity = other := by
  have owned : ∀ {flight}, s.issuer.Refreshes identity flight →
      s.issuer.Refreshes other flight → identity = other := by
    rintro flight ⟨phase, found⟩ ⟨later, here⟩
    exact (Flight.mk.inj (Option.some.inj (found.symm.trans here))).1
  cases action with
  | resume number => exact concerns.elim
  | act action =>
    cases action with
    | enter | cancel => exact Eq.trans (Eq.symm concerns) also
    | answer | settle | report | publish => exact owned concerns also

theorem Sound.apart (sound : s.Sound) {identity : Identity} {actions : List Action}
    (aside : Avoids step (fun s action => s.Concerns identity action) s actions) :
    (s.run actions).issuer.slot identity = s.issuer.slot identity ∧
      ∀ flight phase, (s.run actions).issuer.flights.find? flight = some ⟨identity, phase⟩ ↔
        s.issuer.flights.find? flight = some ⟨identity, phase⟩ := by
  induction actions generalizing s with
  | nil => exact ⟨rfl, fun _ _ => Iff.rfl⟩
  | cons action rest ih =>
    obtain ⟨elsewhere, aside⟩ := aside
    obtain ⟨slot, flights⟩ := ih (sound.moves (s.step_moves action)) aside
    cases action with
    | resume number =>
      rw [issuer_resume] at slot flights
      exact ⟨slot, flights⟩
    | act own =>
      have moves := s.issuer.step_moves own
      rw [issuer_act] at slot flights
      refine ⟨slot.trans (Issuer.slot_of_moves moves elsewhere), fun flight phase => ?_⟩
      have flies := Issuer.flies_of_moves sound.formed moves flight
      exact (flights flight phase).trans (flies.apart elsewhere phase)

theorem Sound.shared (sound : s.Sound) : s.Shared where
  alike _ _ _ _ _ _ _ made there entry again returned back :=
    (sound.gives made entry returned).agree (sound.gives there again back)
  kind _ _ _ _ := sound.kind
  resumes _ _ _ _ := resumes_of_over
  publishes _ _ _ _ := sound.publishes
  cancels _ _ _ recorded found _ _ _ _ := sound.cancels recorded found
  own _ _ _ := own_of_concerns
  apart _ _ := sound.apart

/-! ### One refresh for all calls -/

/-- The visit waits for the flight, or was served the token while that was valid. -/
def Shares (visit : Visit) (flight : Nat) (cached : Option AccessToken) : Prop :=
  visit.entry = .waits flight ∨ ∃ token, visit.entry = .served token ∧ cached = some token ∧
    token.isValid visit.now = true

/-- From one state to a later one the calls of an identity have shared one refresh. -/
structure OneRefresh (s t : Lobby) (identity : Identity) : Prop where
  slot : t.issuer.slot identity = ⟨(s.issuer.slot identity).cached, some s.issuer.started⟩
  refreshes : ∀ flight, t.issuer.Refreshes identity flight ↔
    s.issuer.Refreshes identity flight ∨ flight = s.issuer.started
  shares : ∀ number visit, s.visits.length ≤ number → t.visits[number]? = some visit →
    visit.identity = identity → Shares visit s.issuer.started (s.issuer.slot identity).cached

def Strays (identity : Identity) (flight : Nat) (s : Lobby) : Action → Prop
  | .act action => s.issuer.Strays identity flight action
  | .resume _ => False

/-- Wherever on the way one more call of the identity came, at whatever time, it would start no
refresh. -/
def Joins (s : Lobby) (identity : Identity) (actions : List Action) : Prop :=
  ∀ n time, ((s.run (actions.take n)).issuer.enter identity time).2.started =
    (s.run (actions.take n)).issuer.started

variable {identity : Identity} {u : Lobby}

theorem OneRefresh.recorded (one : s.OneRefresh t identity) :
    (t.issuer.slot identity).flight = some s.issuer.started := by
  rw [one.slot]

theorem OneRefresh.act (one : s.OneRefresh t identity) (sound : t.Sound) (own : Issuer.Action)
    (uncancelled : own ≠ .cancel identity)
    (straight : ¬t.issuer.Strays identity s.issuer.started own)
    (flying : (t.issuer.step own).InFlight identity s.issuer.started) :
    s.OneRefresh { t with issuer := t.issuer.step own } identity := by
  have moves := t.issuer.step_moves own
  have same := Issuer.slot_of_recorded one.recorded moves uncancelled straight flying
  have known := Issuer.refreshes_iff_of_recorded one.recorded sound.formed moves
  exact ⟨same.trans one.slot, fun flight => (known flight).trans (one.refreshes flight), one.shares⟩

theorem OneRefresh.visit (one : s.OneRefresh t identity) (visit : Visit)
    (shares : visit.identity = identity →
      Shares visit s.issuer.started (s.issuer.slot identity).cached) :
    s.OneRefresh { t with visits := t.visits ++ [visit] } identity := by
  refine { one with shares := fun number other late made own => ?_ }
  rcases getElem?_append_cases made with old | ⟨-, rfl⟩
  · exact one.shares number other late old own
  · exact shares own

/-- A call in between joins the flight or is served what was cached. -/
theorem OneRefresh.shares_entry (one : s.OneRefresh t identity) (visit : Visit)
    (entered : (t.issuer.enter visit.identity visit.now).1 = visit.entry)
    (own : visit.identity = identity) :
    Shares visit s.issuer.started (s.issuer.slot identity).cached := by
  subst own
  rcases Issuer.entry_of_recorded one.recorded visit.now with waits | ⟨token, served, held, valid⟩
  · exact .inl (entered.symm.trans waits)
  · rw [one.slot] at held
    exact .inr ⟨token, entered.symm.trans served, held, valid⟩

theorem OneRefresh.moves (one : s.OneRefresh t identity) (sound : t.Sound) {action : Action}
    (moves : t.Moves u action) (uncancelled : action ≠ .act (.cancel identity))
    (straight : ¬t.Strays identity s.issuer.started action)
    (flying : u.issuer.InFlight identity s.issuer.started) : s.OneRefresh u identity := by
  cases moves with
  | rests => exact one
  | acts own => exact one.act sound own (fun same => uncancelled (congrArg _ same)) straight flying
  | serves wanted now token entry =>
    have shares := one.shares_entry ⟨wanted, now, .served token⟩ entry
    have entered := (one.act sound (.enter wanted now) nofun straight flying).visit _ shares
    exact { entered with }
  | waits wanted now flight entry =>
    have shares := one.shares_entry ⟨wanted, now, .waits flight⟩ entry
    exact (one.act sound (.enter wanted now) nofun straight flying).visit _ shares
  | returns => exact { one with }

theorem refreshes_step (sound : s.Sound) (action : Action) {flight : Nat}
    (known : s.issuer.Refreshes identity flight) :
    (s.step action).issuer.Refreshes identity flight := by
  obtain ⟨own, flies⟩ := sound.flies action flight
  exact flies.refreshes known

theorem refreshes_run (sound : s.Sound) {flight : Nat} (actions : List Action)
    (known : s.issuer.Refreshes identity flight) :
    (s.run actions).issuer.Refreshes identity flight := by
  induction actions generalizing s with
  | nil => exact known
  | cons action rest ih =>
    exact ih (sound.moves (s.step_moves action)) (refreshes_step sound action known)

theorem inFlight_of_run (sound : s.Sound) {flight : Nat} {actions : List Action}
    (known : s.issuer.Refreshes identity flight)
    (flying : (s.run actions).issuer.InFlight identity flight) :
    s.issuer.InFlight identity flight := by
  induction actions generalizing s with
  | nil => exact flying
  | cons action rest ih =>
    have next := ih (sound.moves (s.step_moves action)) (refreshes_step sound action known) flying
    obtain ⟨own, flies⟩ := sound.flies action flight
    exact flies.inFlight next known

theorem started_step (one : s.OneRefresh t identity) (action : Action)
    (own : ∀ wanted now, action = .act (.enter wanted now) → wanted = identity) :
    (t.step action).issuer.started = t.issuer.started := by
  cases action with
  | resume number => rw [issuer_resume]
  | act acted =>
    rw [issuer_act]
    exact Issuer.started_of_recorded one.recorded (t.issuer.step_moves acted)
      fun wanted now same => own wanted now (congrArg _ same)

theorem OneRefresh.run (one : s.OneRefresh t identity) (sound : t.Sound) {actions : List Action}
    (uncancelled : .act (.cancel identity) ∉ actions)
    (straight : Avoids step (Strays identity s.issuer.started) t actions)
    (flying : (t.run actions).issuer.InFlight identity s.issuer.started) :
    s.OneRefresh (t.run actions) identity ∧
      ((∀ wanted now, .act (.enter wanted now) ∈ actions → wanted = identity) →
        (t.run actions).issuer.started = t.issuer.started) := by
  induction actions generalizing t with
  | nil => exact ⟨one, fun _ => rfl⟩
  | cons action rest ih =>
    obtain ⟨first, later⟩ := not_or.mp (mt List.mem_cons.mpr uncancelled)
    obtain ⟨here, straight⟩ := straight
    have moves := t.step_moves action
    have next := sound.moves moves
    -- the flight is in flight at the end, so it is at every state on the way there
    have known := refreshes_step sound action ((one.refreshes s.issuer.started).mpr (.inr rfl))
    have between := inFlight_of_run next known flying
    have kept := one.moves sound moves (Ne.symm first) here between
    obtain ⟨still, counted⟩ := ih kept next later straight flying
    refine ⟨still, fun own => ?_⟩
    have first := started_step one action fun wanted now same =>
      own wanted now (same ▸ List.mem_cons_self)
    have others := counted fun wanted now member =>
      own wanted now (List.mem_cons_of_mem _ member)
    exact others.trans first

theorem oneRefresh_enter {now : Millis}
    (unserved : ∀ token, (s.issuer.slot identity).cached = some token → token.isValid now = false)
    (idle : (s.issuer.slot identity).flight = none) :
    s.OneRefresh (s.step (.act (.enter identity now))) identity ∧
      (s.step (.act (.enter identity now))).issuer.started = s.issuer.started + 1 := by
  obtain ⟨entry, slot, started, refreshes⟩ := Issuer.takesOff_of_unserved unserved idle
  have moves := s.step_moves (.act (.enter identity now))
  generalize s.step (.act (.enter identity now)) = t at moves
  cases moves with
  | acts _ uncalled => exact absurd rfl (uncalled identity now)
  | serves _ _ token served => cases entry.symm.trans served
  | waits _ _ flight waits =>
    refine ⟨⟨slot, refreshes, fun number visit late made own => ?_⟩, started⟩
    rcases getElem?_append_cases made with old | ⟨-, rfl⟩
    · have below := (List.getElem?_eq_some_iff.mp old).1
      exact absurd late (Nat.not_le_of_lt below)
    · exact .inl (waits.symm.trans entry)

/-! ### Where calls would not join -/

theorem OneRefresh.joins (one : s.OneRefresh t identity) (sound : t.Sound) {actions : List Action}
    (uncancelled : .act (.cancel identity) ∉ actions)
    (straight : Avoids step (Strays identity s.issuer.started) t actions)
    (flying : (t.run actions).issuer.InFlight identity s.issuer.started) :
    t.Joins identity actions := by
  intro n time
  have split : t.run actions = (t.run (actions.take n)).run (actions.drop n) := by
    simp only [Lobby.run, ← List.foldl_append, List.take_append_drop]
  rw [split] at flying
  have begun := (one.refreshes s.issuer.started).mpr (.inr rfl)
  have known := refreshes_run sound (actions.take n) begun
  have between := inFlight_of_run (sound_run sound _) known flying
  have early : .act (.cancel identity) ∉ actions.take n := mt List.mem_of_mem_take uncancelled
  obtain ⟨still, -⟩ := one.run sound early (straight.take n) between
  rw [Issuer.enter_of_recorded still.recorded]

theorem idle_of_strays {flight : Nat} {action : Action} (strays : s.Strays identity flight action) :
    ((s.step action).issuer.slot identity).flight = none := by
  cases action with
  | resume number => exact strays.elim
  | act own =>
    rw [issuer_act]
    exact Issuer.idle_of_strays strays

/-- Where nothing is recorded, a call that comes late enough starts a refresh. -/
theorem avoids_of_joins {flight : Nat} {actions : List Action} (joins : s.Joins identity actions) :
    Avoids step (Strays identity flight) s actions := by
  induction actions generalizing s with
  | nil => trivial
  | cons action rest ih =>
    refine ⟨fun strays => ?_, ih fun n => joins (n + 1)⟩
    have none : ((s.step action).issuer.enter identity Millis.last).2.started =
        (s.step action).issuer.started := joins 1 Millis.last
    have one := Issuer.started_enter (idle_of_strays strays) fun token =>
      token.not_isFresh_last _
    omega

/-- Calls that wait for one refresh return alike, and a cancellation before its answer is what they
return with. From a state without a valid token and with no refresh on record, the calls of the
identity until that refresh has settled share it, exactly if no refresh that was cancelled earlier
settles meanwhile. -/
theorem calls_share_refresh_iff (policy : TokenPolicy) (before : List Action) :
    let s := run { issuer := { policy } } before
    s.Shared ∧ ∀ identity now calls,
      (∀ token, (s.issuer.slot identity).cached = some token → token.isValid now = false) →
      (s.issuer.slot identity).flight = none →
      .act (.cancel identity) ∉ calls →
      let t := s.step (.act (.enter identity now))
      (t.run calls).issuer.InFlight identity s.issuer.started →
        t.issuer.started = s.issuer.started + 1 ∧
        (t.Joins identity calls ↔ Avoids step (Strays identity s.issuer.started) t calls) ∧
        (t.Joins identity calls → s.OneRefresh (t.run calls) identity ∧
          ((∀ wanted time, .act (.enter wanted time) ∈ calls → wanted = identity) →
            (t.run calls).issuer.started = s.issuer.started + 1)) := by
  intro s
  have sound : s.Sound := sound_run (sound_opened policy) before
  refine ⟨sound.shared, ?_⟩
  intro identity now calls unserved idle uncancelled t flying
  obtain ⟨one, started⟩ := oneRefresh_enter unserved idle
  have next : t.Sound := sound.moves (s.step_moves (.act (.enter identity now)))
  refine ⟨started, ⟨avoids_of_joins, fun straight => one.joins next uncancelled straight flying⟩,
    fun joins => ?_⟩
  obtain ⟨still, counted⟩ := one.run next uncancelled (avoids_of_joins joins) flying
  exact ⟨still, fun own => (counted own).trans started⟩

/-- The refresh has its answer when it is cancelled. -/
def cancelledLate : List Action :=
  [.act (.enter "alice" 0), .act (.answer 0 (.ok ⟨"first", some 100⟩) 0), .act (.cancel "alice")]

/-- The second caller comes while the source is called, the third when its answer is there. -/
def threeCallers : List Action :=
  [.act (.enter "alice" 5), .act (.answer 1 (.ok ⟨"second", some 200⟩) 7), .act (.enter "alice" 8)]

/-- Both refreshes land, and everyone who waits returns. -/
def landing : List Action :=
  [.act (.settle 1), .act (.report 1), .act (.publish 1), .act (.settle 0), .act (.report 0),
    .act (.publish 0), .resume 3, .resume 0, .resume 1, .resume 2]

theorem calls_share_refresh_iff_thrice :
    let s := run { issuer := {} } cancelledLate
    let t := s.run (.act (.enter "alice" 1) :: threeCallers)
    let u := t.run landing
    (∃ flight, s.issuer.InFlight "alice" flight) ∧ s.OneRefresh t "alice" ∧
      t.issuer.started = s.issuer.started + 1 ∧
      u.returned = [(3, .ok ⟨"second", 200⟩), (0, .ok ⟨"first", 100⟩), (1, .ok ⟨"second", 200⟩),
        (2, .ok ⟨"second", 200⟩)] ∧
      ∀ n visit result, u.visits[n]? = some visit → visit.entry = .waits 1 →
        (n, result) ∈ u.returned → result = .ok ⟨"second", 200⟩ := by
  intro s t u
  have late : s.issuer.flights.find? 0 =
      some ⟨"alice", .decided (.ok ⟨"first", 100⟩)⟩ := by decide
  have decided : t.issuer.flights.find? 1 =
      some ⟨"alice", .decided (.ok ⟨"second", 200⟩)⟩ := by decide
  have empty : (s.issuer.slot "alice").cached = none := by decide
  have unserved : ∀ token, (s.issuer.slot "alice").cached = some token →
      token.isValid 1 = false := by
    intro token cached
    cases empty.symm.trans cached
  have uncancelled : Action.act (.cancel "alice") ∉ threeCallers := by simp [threeCallers]
  have own : ∀ wanted time, Action.act (.enter wanted time) ∈ threeCallers → wanted = "alice" := by
    intro wanted time member
    simp only [threeCallers, List.mem_cons, List.not_mem_nil, Action.act.injEq,
      Issuer.Action.enter.injEq, reduceCtorEq, or_false, false_or] at member
    rcases member with ⟨rfl, -⟩ | ⟨rfl, -⟩ <;> rfl
  obtain ⟨-, joins, shares⟩ := (calls_share_refresh_iff {} cancelledLate).2 "alice" 1
    threeCallers unserved (by decide) uncancelled ⟨_, decided, trivial⟩
  obtain ⟨one, counted⟩ := shares (joins.mpr ⟨id, id, id, trivial⟩)
  have ended : u.returned = [(3, .ok ⟨"second", 200⟩), (0, .ok ⟨"first", 100⟩),
      (1, .ok ⟨"second", 200⟩), (2, .ok ⟨"second", 200⟩)] := by decide
  have first : (1, .ok ⟨"second", 200⟩) ∈ u.returned := by
    rw [ended]
    simp
  have joined : u.visits[1]? = some ⟨"alice", 1, .waits 1⟩ := by decide
  have whole : u = run { issuer := {} }
      (cancelledLate ++ .act (.enter "alice" 1) :: threeCallers ++ landing) := by
    simp only [u, t, s, run, List.foldl_append]
  have shared : u.Shared := whole ▸ (calls_share_refresh_iff {} _).1
  refine ⟨⟨0, _, late, trivial⟩, one, counted own, ended, fun n visit result made entry gave => ?_⟩
  exact (shared.alike n 1 1 visit _ result _ made joined entry rfl gave first).2

/-- The refresh that was cancelled late settles between two calls, and they wait for two
refreshes. Who waited for it returns with its token, though it was cancelled. -/
theorem late_settle_splits_calls :
    let s := run { issuer := {} } cancelledLate
    let t := s.run [.act (.enter "alice" 1), .act (.settle 0), .act (.enter "alice" 200)]
    (s.issuer.slot "alice") = {} ∧ t.issuer.InFlight "alice" s.issuer.started ∧
      t.issuer.started = s.issuer.started + 2 ∧
      t.visits.map (·.entry) = [.waits 0, .waits 1, .waits 2] ∧
      (t.run [.act (.report 0), .act (.publish 0), .resume 0]).returned =
        [(0, .ok ⟨"first", 100⟩)] := by
  intro s t
  have calling : t.issuer.flights.find? 1 = some ⟨"alice", .calling⟩ := by decide
  exact ⟨by decide, ⟨_, calling, trivial⟩, by decide, by decide, by decide⟩

end Lobby

end Muster
