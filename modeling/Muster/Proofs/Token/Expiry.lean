import Muster.Proofs.Token.Flights

/-!
Calls to an issuer and the expiry of what they return with. A call that is served at once returns
with a token that is valid at that moment. A call that waits for a flight returns with a token that
was valid when the flight was decided, and may resume when the clock has passed the expiry: this is
the only way to a token past its expiry.
-/

namespace Muster

/-- A token that a call returned with, and the clock at that moment. -/
structure Handout where
  identity : Identity
  token : AccessToken
  now : Millis
  /-- the flight that the call waited for, if it did -/
  awaited : Option Nat
deriving DecidableEq

/-- An issuer, the calls that wait at it, and the flights that were decided, each with the clock
at that moment. -/
structure Desk where
  issuer : Issuer
  waiting : List (Identity × Nat) := []
  decided : List (Nat × Millis) := []
  handouts : List Handout := []
deriving DecidableEq

namespace Desk

inductive Action
  | call (identity : Identity) (now : Millis)
  | answer (flight : Nat) (answer : SourceAnswer) (now : Millis)
  | settle (flight : Nat)
  | report (flight : Nat)
  | publish (flight : Nat)
  | cancel (identity : Identity)
  | resume (index : Nat) (now : Millis)

variable (s : Desk)

def call (identity : Identity) (now : Millis) : Desk :=
  match s.issuer.enter identity now with
  | (.served token, issuer) =>
    { s with issuer, handouts := s.handouts ++ [⟨identity, token, now, none⟩] }
  | (.waits flight, issuer) => { s with issuer, waiting := s.waiting ++ [(identity, flight)] }

/-- The token source answers a flight; its result is decided by the clock of this moment. -/
def answer (flight : Nat) (answer : SourceAnswer) (now : Millis) : Desk :=
  { s with
    issuer := s.issuer.answer flight answer now
    decided :=
      match s.issuer.flights.find? flight with
      | some ⟨_, .calling⟩ => s.decided ++ [(flight, now)]
      | _ => s.decided }

def resume (index : Nat) (now : Millis) : Desk :=
  match s.waiting[index]? with
  | some (identity, flight) =>
    match s.issuer.outcome? flight with
    | some (.ok token) =>
      { s with
        waiting := s.waiting.eraseIdx index
        handouts := s.handouts ++ [⟨identity, token, now, some flight⟩] }
    | some (.error _) => { s with waiting := s.waiting.eraseIdx index }
    | none => s
  | none => s

def step : Action → Desk
  | .call identity now => s.call identity now
  | .answer flight answer now => s.answer flight answer now
  | .settle flight => { s with issuer := s.issuer.settle flight }
  | .report flight => { s with issuer := (s.issuer.report flight).2 }
  | .publish flight => { s with issuer := s.issuer.publish flight }
  | .cancel identity => { s with issuer := (s.issuer.cancel identity).2 }
  | .resume index now => s.resume index now

def run (s : Desk) (actions : List Action) : Desk := actions.foldl step s

variable {s}

def Timely (s : Desk) (flight : Nat) (token : AccessToken) : Prop :=
  ∃ now, (flight, now) ∈ s.decided ∧ token.isValid now = true

/-- Every result was valid when it was decided, and so is every token that a call got by waiting. -/
structure Sound (s : Desk) : Prop where
  backed : s.issuer.Backed fun flight _ token => s.Timely flight token
  served : ∀ {handout}, handout ∈ s.handouts → handout.awaited = none →
    handout.token.isValid handout.now = true
  awaited : ∀ {handout flight}, handout ∈ s.handouts → handout.awaited = some flight →
    s.Timely flight handout.token

theorem sound_opened (policy : TokenPolicy) : Sound { issuer := { policy } } :=
  ⟨Issuer.backed_empty policy, nofun, nofun⟩

/-- An action of the issuer that decides nothing. -/
theorem Sound.issue (sound : s.Sound) (action : Issuer.Action)
    (idle : ∀ flight answer now, action ≠ .answer flight answer now) :
    Sound { s with issuer := s.issuer.step action } := by
  refine { sound with backed := Issuer.backed_step sound.backed (s.issuer.step_moves action) ?_ }
  intro flight answer now identity token same
  exact absurd same (idle flight answer now)

theorem decided_answer (flight : Nat) (answer : SourceAnswer) (now : Millis) :
    s.decided ⊆ (s.answer flight answer now).decided := by
  unfold Desk.answer
  dsimp only
  split
  · exact List.subset_append_left _ _
  · exact List.Subset.refl _

theorem sound_answer (sound : s.Sound) (flight : Nat) (answer : SourceAnswer) (now : Millis) :
    (s.answer flight answer now).Sound := by
  have later : ∀ {number token}, s.Timely number token →
      (s.answer flight answer now).Timely number token := by
    rintro number token ⟨before, decided, valid⟩
    exact ⟨before, decided_answer flight answer now decided, valid⟩
  -- a decided flight is noted with the clock that it was decided by, so its token is timely
  refine ⟨?_, sound.served, fun member waited => later (sound.awaited member waited)⟩
  refine Issuer.backed_step (sound.backed.mono later) (s.issuer.moves_answer flight answer now) ?_
  intro number given moment identity token same calling decided
  cases same
  obtain ⟨-, -, -, valid⟩ := Issuer.decide_eq_ok decided
  refine ⟨now, ?_, valid⟩
  simp only [Desk.answer, calling]
  exact List.mem_append_right _ List.mem_cons_self

theorem sound_call (sound : s.Sound) (identity : Identity) (now : Millis) :
    (s.call identity now).Sound := by
  have entered := sound.issue (.enter identity now) nofun
  unfold call
  split
  · rename_i token issuer entry
    have same : issuer = s.issuer.step (.enter identity now) := by
      rw [Issuer.step, entry]
    subst same
    have valid := (Issuer.served_of_enter (congrArg Prod.fst entry)).2
    refine ⟨entered.backed, fun {handout} member waited => ?_,
      fun {handout flight} member waited => ?_⟩
    · rcases List.mem_append.mp member with old | new
      · exact sound.served old waited
      · obtain rfl := List.mem_singleton.mp new
        exact valid
    · rcases List.mem_append.mp member with old | new
      · exact sound.awaited old waited
      · obtain rfl := List.mem_singleton.mp new
        cases waited
  · rename_i flight issuer entry
    have same : issuer = s.issuer.step (.enter identity now) := by
      rw [Issuer.step, entry]
    subst same
    exact { entered with }

theorem sound_resume (sound : s.Sound) (index : Nat) (now : Millis) :
    (s.resume index now).Sound := by
  unfold resume
  split
  · split
    · rename_i identity flight waits token outcome
      obtain ⟨owner, found⟩ := Issuer.published_of_outcome? outcome
      refine ⟨sound.backed, fun {handout} member waited => ?_,
        fun {handout number} member waited => ?_⟩
      · rcases List.mem_append.mp member with old | new
        · exact sound.served old waited
        · obtain rfl := List.mem_singleton.mp new
          cases waited
      · rcases List.mem_append.mp member with old | new
        · exact sound.awaited old waited
        · obtain rfl := List.mem_singleton.mp new
          obtain rfl := Option.some.inj waited
          exact sound.backed.results found rfl
    · exact { sound with }
    · exact sound
  · exact sound

theorem sound_step (sound : s.Sound) (action : Action) : (s.step action).Sound := by
  cases action with
  | call identity now => exact sound_call sound identity now
  | answer flight answer now => exact sound_answer sound flight answer now
  | settle flight => exact sound.issue (.settle flight) nofun
  | report flight => exact sound.issue (.report flight) nofun
  | publish flight => exact sound.issue (.publish flight) nofun
  | cancel identity => exact sound.issue (.cancel identity) nofun
  | resume index now => exact sound_resume sound index now

theorem sound_run (sound : s.Sound) (actions : List Action) : (s.run actions).Sound := by
  induction actions generalizing s with
  | nil => exact sound
  | cons action rest ih => exact ih (sound_step sound action)

/-- A call returns with a token past its expiry exactly if it waited for a flight that was decided
while the token was valid, and resumes only after the expiry. -/
theorem expired_iff_overslept (policy : TokenPolicy) (actions : List Action) (handout : Handout)
    (member : handout ∈ (run { issuer := { policy } } actions).handouts) :
    handout.token.isValid handout.now = false ↔
      ∃ flight decided, handout.awaited = some flight ∧
        (flight, decided) ∈ (run { issuer := { policy } } actions).decided ∧
        decided < handout.token.expiresAt ∧ handout.token.expiresAt ≤ handout.now := by
  have sound := sound_run (sound_opened policy) actions
  constructor
  · intro expired
    have past : handout.token.expiresAt ≤ handout.now := by
      simpa [AccessToken.isValid] using expired
    cases waited : handout.awaited with
    | none =>
      rw [sound.served member waited] at expired
      cases expired
    | some flight =>
      obtain ⟨decided, noted, valid⟩ := sound.awaited member waited
      exact ⟨flight, decided, rfl, noted, by simpa [AccessToken.isValid] using valid, past⟩
  · rintro ⟨flight, decided, -, -, -, past⟩
    simpa [AccessToken.isValid] using past

/-- The clock passes the expiry before the second waiter resumes. -/
def lateWaiter : List Action :=
  [.call "a" 0, .call "a" 0, .answer 0 (.ok ⟨"t", some 1000⟩) 0, .settle 0, .report 0, .publish 0,
    .resume 0 0, .resume 0 1000]

theorem expired_iff_overslept_late :
    (run { issuer := {} } lateWaiter).handouts =
      [⟨"a", ⟨"t", 1000⟩, 0, some 0⟩, ⟨"a", ⟨"t", 1000⟩, 1000, some 0⟩] ∧
    ∃ flight decided, some 0 = some flight ∧
      (flight, decided) ∈ (run { issuer := {} } lateWaiter).decided ∧
      decided < (1000 : Millis) ∧ (1000 : Millis) ≤ 1000 := by
  have handouts : (run { issuer := {} } lateWaiter).handouts =
      [⟨"a", ⟨"t", 1000⟩, 0, some 0⟩, ⟨"a", ⟨"t", 1000⟩, 1000, some 0⟩] := by decide
  refine ⟨handouts, ?_⟩
  exact (expired_iff_overslept {} lateWaiter ⟨"a", ⟨"t", 1000⟩, 1000, some 0⟩
    (by simp [handouts])).mp (by decide)

theorem expired_token_returned :
    ∃ handout ∈ (run { issuer := {} } lateWaiter).handouts,
      handout.token.isValid handout.now = false :=
  ⟨⟨"a", ⟨"t", 1000⟩, 1000, some 0⟩, by decide, by decide⟩

end Desk

end Muster
