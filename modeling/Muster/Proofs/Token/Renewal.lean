import Mathlib.Algebra.Ring.Nat
import Muster.Config
import Muster.Proofs.Runs
import Muster.Proofs.Token.OneFlight

/-!
When a refresh is due. As long as nothing is cancelled, a flight in the air is the one that its slot
records, and the token that a flight has come to stays in the slot until the clock is within the
margin of its expiry. So no call starts another refresh before that time. An issuer reads the clock
when a call comes and when the token source answers; a flight settles by the latter reading.
-/

namespace Muster

/-- The sum is the exact one: what saturates is not below any expiry. -/
theorem AccessToken.isFresh_iff {token : AccessToken} {now margin : Millis} :
    token.isFresh now margin = true ↔
      now.toNat + margin.toNat < token.expiresAt.toNat := by
  have small := token.expiresAt.toNat_lt
  simp only [AccessToken.isFresh, decide_eq_true_eq, UInt64.lt_iff_toNat_lt,
    Millis.toNat_saturatingAdd, UInt64.size]
  omega

theorem IssuedToken.expiresAt_toAccess {value : String} {now lifetime : Millis}
    (fits : now.toNat + lifetime.toNat < 2 ^ 64) :
    ((IssuedToken.mk value none).toAccess now lifetime).expiresAt.toNat =
      now.toNat + lifetime.toNat := by
  show (Millis.saturatingAdd now lifetime).toNat = _
  rw [Millis.toNat_saturatingAdd]
  simp only [UInt64.size]
  omega

theorem Config.checkTokens_eq_ok {policy : TokenPolicy} (checked : checkTokens policy = .ok ()) :
    policy.refreshMargin.toNat < policy.defaultLifetime.toNat := by
  unfold checkTokens at checked
  split at checked
  · cases checked
  · split at checked
    · cases checked
    · rename_i above
      rw [UInt64.le_iff_toNat_le] at above
      omega

namespace Issuer

variable {d e : Issuer} {action : Action} {now : Millis} {identity : Identity}
  {token : AccessToken}

def Action.clock? : Action → Option Millis
  | .enter _ now | .answer _ _ now => some now
  | .settle _ | .report _ | .publish _ | .cancel _ => none

def readings (actions : List Action) : List Millis := actions.filterMap Action.clock?

/-- The action is a call that starts a refresh of the identity at a time of this kind. -/
def StartsWhere (identity : Identity) (when? : Millis → Prop) (d : Issuer) (action : Action) :
    Prop :=
  ∃ now, action = .enter identity now ∧ (d.step action).started ≠ d.started ∧ when? now

theorem policy_step (d : Issuer) (action : Action) : (d.step action).policy = d.policy := by
  have phase : ∀ (d : Issuer) flight next, (d.setPhase flight next).policy = d.policy := by
    intro d flight next
    unfold setPhase
    split <;> rfl
  have joined : ∀ identity, (d.join identity).2.policy = d.policy := by
    intro identity
    unfold join
    split <;> rfl
  cases action with
  | enter identity now =>
    simp only [step, enter]
    split
    · split
      · rfl
      · exact joined identity
    · exact joined identity
  | answer flight answer now =>
    simp only [step, Issuer.answer]
    split
    · exact phase ..
    · rfl
  | settle flight =>
    simp only [step, settle]
    split
    · exact phase ..
    · rfl
  | report flight =>
    simp only [step, report]
    split
    · exact phase ..
    · rfl
  | publish flight =>
    simp only [step, publish]
    split
    · exact phase ..
    · rfl
  | cancel identity =>
    simp only [step, cancel]
    split
    · rfl
    · split
      · exact phase ..
      · rfl

theorem policy_run (d : Issuer) (actions : List Action) : (d.run actions).policy = d.policy := by
  induction actions generalizing d with
  | nil => rfl
  | cons action rest ih => exact (ih (d.step action)).trans (d.policy_step action)

theorem enter_of_fresh (cached : (d.slot identity).cached = some token)
    (fresh : token.isFresh now d.policy.refreshMargin = true) :
    d.enter identity now = (.served token, d) := by
  simp only [enter, cached, fresh, if_true]

/-! ### Issuers where nothing is cancelled -/

/-- What the clock has come to leaves no flight in the air unrecorded, and no token that a flight
came to replaced before its time. -/
structure Calm (d : Issuer) (now : Millis) : Prop where
  formed : d.Formed
  recorded : ∀ {flight identity}, d.InFlight identity flight →
    (d.slot identity).flight = some flight
  kept : ∀ {flight identity phase token}, d.flights.find? flight = some ⟨identity, phase⟩ →
    phase.result? = some (.ok token) →
      phase.Unsettled ∨ d.slot identity = ⟨some token, none⟩ ∨
        token.expiresAt.toNat ≤ now.toNat + d.policy.refreshMargin.toNat

theorem calm_empty (policy : TokenPolicy) (now : Millis) : Calm { policy } now := by
  refine ⟨formed_empty policy, ?_, nofun⟩
  rintro flight identity ⟨phase, found, -⟩
  cases found

theorem Calm.recorded_of_moves (calm : d.Calm now) (moves : d.Moves e action)
    (uncancelled : ∀ identity, action ≠ .cancel identity) {flight : Nat}
    (flying : e.InFlight identity flight) : (e.slot identity).flight = some flight := by
  obtain ⟨phase, found, unsettled⟩ := flying
  cases moves with
  | rests _ same =>
    rw [same] at found ⊢
    exact calm.recorded ⟨phase, found, unsettled⟩
  | takesOff owner now idle slots flights started =>
    rw [flights] at found
    rw [slots]
    split at found
    · rename_i same
      obtain ⟨rfl, -⟩ := Flight.mk.inj (Option.some.inj found)
      rw [if_pos rfl, same]
    · have recorded := calm.recorded ⟨phase, found, unsettled⟩
      rw [if_neg, recorded]
      rintro rfl
      cases idle.symm.trans recorded
  | goesOn _ number owner before after held next slots flights =>
    rw [flights] at found
    rw [slots]
    split at found
    · rename_i same
      obtain ⟨rfl, rfl⟩ := Flight.mk.inj (Option.some.inj found)
      subst same
      cases next with
      | answered answer now => exact calm.recorded ⟨_, held, trivial⟩
      | reported result => exact unsettled.elim
      | published result => exact unsettled.elim
    · exact calm.recorded ⟨phase, found, unsettled⟩
  | settles number owner result held slots flights =>
    rw [flights] at found
    rw [slots]
    split at found
    · obtain ⟨-, rfl⟩ := Flight.mk.inj (Option.some.inj found)
      exact unsettled.elim
    · rename_i apart
      have recorded := calm.recorded ⟨phase, found, unsettled⟩
      rw [if_neg, recorded]
      rintro rfl
      -- the flight that settles was recorded too
      have other := calm.recorded ⟨_, held, trivial⟩
      exact apart (Option.some.inj (recorded.symm.trans other))
  | cancels owner => exact absurd rfl (uncancelled owner)
  | aborts owner => exact absurd rfl (uncancelled owner)

theorem Next.result? {flight : Nat} {before after : Phase}
    (next : d.Next identity flight action before after) :
    after.Unsettled ∨ after.result? = before.result? ∧ ¬before.Unsettled := by
  cases next with
  | answered => exact .inl trivial
  | reported | published => exact .inr ⟨rfl, id⟩

/-- A call starts no refresh as long as the token that a flight came to is fresh. -/
theorem Calm.started_enter (calm : d.Calm now) {time : Millis} (later : now ≤ time) {flight : Nat}
    {phase : Phase} (found : d.flights.find? flight = some ⟨identity, phase⟩)
    (came : phase.result? = some (.ok token))
    (early : time.toNat + d.policy.refreshMargin.toNat < token.expiresAt.toNat) :
    (d.enter identity time).2.started = d.started := by
  rw [UInt64.le_iff_toNat_le] at later
  rcases calm.kept found came with unsettled | slot | past
  · have recorded := calm.recorded ⟨phase, found, unsettled⟩
    apply started_of_recorded recorded (d.moves_enter identity time)
    intro wanted moment same
    exact (Action.enter.inj same).1.symm
  · have cached : (d.slot identity).cached = some token := by rw [slot]
    rw [enter_of_fresh cached (AccessToken.isFresh_iff.mpr early)]
  · omega

theorem Calm.step (calm : d.Calm now) (action : Action)
    (uncancelled : ∀ identity, action ≠ .cancel identity)
    (later : ∀ time, action.clock? = some time → now ≤ time) :
    (d.step action).Calm (action.clock?.getD now) := by
  have moves := d.step_moves action
  have onward : now.toNat ≤ (action.clock?.getD now).toNat := by
    cases read : action.clock? with
    | none => exact Nat.le_refl _
    | some time => exact UInt64.le_iff_toNat_le.mp (later time read)
  refine ⟨formed_step calm.formed moves, calm.recorded_of_moves moves uncancelled, ?_⟩
  intro flight identity phase token found came
  rw [policy_step]
  -- a flight that the action leaves alone, where its slot is left alone or the token's time is over
  have held : d.flights.find? flight = some ⟨identity, phase⟩ →
      (d.slot identity = ⟨some token, none⟩ →
        (d.step action).slot identity = ⟨some token, none⟩ ∨ token.expiresAt.toNat ≤
          (action.clock?.getD now).toNat + d.policy.refreshMargin.toNat) →
      phase.Unsettled ∨ (d.step action).slot identity = ⟨some token, none⟩ ∨
        token.expiresAt.toNat ≤
          (action.clock?.getD now).toNat + d.policy.refreshMargin.toNat := by
    intro same slot
    rcases calm.kept same came with unsettled | stored | past
    · exact .inl unsettled
    · exact .inr (slot stored)
    · exact .inr (.inr (by omega))
  generalize after : d.step action = e at *
  cases moves with
  | rests _ same =>
    subst same
    exact held found .inl
  | takesOff owner time idle slots flights started =>
    rw [flights] at found
    split at found
    · obtain ⟨-, rfl⟩ := Flight.mk.inj (Option.some.inj found)
      cases came
    · apply held found
      intro stored
      by_cases own : identity = owner
      · subst own
        right
        have cached : (d.slot identity).cached = some token := by rw [stored]
        have stale : ¬token.isFresh time d.policy.refreshMargin = true := by
          intro fresh
          have rests : e = d := by
            rw [← after, Issuer.step, enter_of_fresh cached fresh]
          rw [rests] at started
          omega
        rw [AccessToken.isFresh_iff] at stale
        exact Nat.le_of_not_lt stale
      · left
        rw [slots, if_neg own, stored]
  | goesOn _ number owner before next held' goes slots flights =>
    rw [flights] at found
    split at found
    · obtain ⟨rfl, rfl⟩ := Flight.mk.inj (Option.some.inj found)
      rcases goes.result? with unsettled | ⟨same, settled⟩
      · exact .inl unsettled
      · rcases calm.kept held' (same.symm.trans came) with unsettled | stored | past
        · exact absurd unsettled settled
        · exact .inr (.inl ((slots _).trans stored))
        · exact .inr (.inr (by omega))
    · exact held found fun stored => .inl ((slots _).trans stored)
  | settles number owner result held' slots flights =>
    rw [flights] at found
    split at found
    · obtain ⟨rfl, rfl⟩ := Flight.mk.inj (Option.some.inj found)
      obtain rfl := Option.some.inj came
      right; left
      rw [slots, if_pos rfl]
      rfl
    · apply held found
      intro stored
      left
      rw [slots, if_neg, stored]
      rintro rfl
      have recorded := calm.recorded ⟨_, held', trivial⟩
      rw [stored] at recorded
      cases recorded
  | cancels owner => exact absurd rfl (uncancelled owner)
  | aborts owner => exact absurd rfl (uncancelled owner)

theorem result_step (formed : d.Formed) (action : Action) {flight : Nat} {phase : Phase}
    {result : TokenResult} (found : d.flights.find? flight = some ⟨identity, phase⟩)
    (came : phase.result? = some result) :
    ∃ after, (d.step action).flights.find? flight = some ⟨identity, after⟩ ∧
      after.result? = some result := by
  cases flies_of_moves formed (d.step_moves action) flight with
  | stays same => exact ⟨phase, same.trans found, came⟩
  | follows owner before after here moved next =>
    obtain ⟨rfl, rfl⟩ := Flight.mk.inj (Option.some.inj (here.symm.trans found))
    refine ⟨after, moved, ?_⟩
    cases next with
    | decided | aborted => cases came
    | settled | reported | published => exact came
  | begins owner time entered idle first => cases first.symm.trans found

/-! ### Runs in which the clock never goes back -/

/-- The clock shows no earlier time than `now` from here on, and never goes back. -/
def Onward (now : Millis) (actions : List Action) : Prop :=
  (now :: readings actions).Pairwise (· ≤ ·)

theorem Onward.step {rest : List Action} (onward : Onward now (action :: rest)) :
    (∀ time, action.clock? = some time → now ≤ time) ∧
      Onward (action.clock?.getD now) rest := by
  unfold Onward readings at onward ⊢
  cases read : action.clock? with
  | none =>
    rw [List.filterMap_cons_none read] at onward
    exact ⟨nofun, onward⟩
  | some time =>
    rw [List.filterMap_cons_some read] at onward
    obtain ⟨later, onward⟩ := List.pairwise_cons.mp onward
    refine ⟨?_, onward⟩
    rintro _ ⟨⟩
    exact later time List.mem_cons_self

theorem Calm.run (calm : d.Calm now) {before later : List Action}
    (uncancelled : ∀ identity, .cancel identity ∉ before)
    (onward : Onward now (before ++ later)) :
    ∃ time, (d.run before).Calm time ∧ Onward time later := by
  induction before generalizing d now with
  | nil => exact ⟨now, calm, onward⟩
  | cons action rest ih =>
    obtain ⟨next, onward⟩ := onward.step
    have stays : ∀ identity, action ≠ .cancel identity := by
      rintro identity rfl
      exact uncancelled identity List.mem_cons_self
    apply ih (calm.step action stays next) _ onward
    intro identity member
    exact uncancelled identity (List.mem_cons_of_mem _ member)

theorem Calm.avoids (calm : d.Calm now) {actions : List Action}
    (uncancelled : ∀ identity, .cancel identity ∉ actions) (onward : Onward now actions)
    {flight : Nat} {phase : Phase} (found : d.flights.find? flight = some ⟨identity, phase⟩)
    (came : phase.result? = some (.ok token)) :
    Avoids Issuer.step (StartsWhere identity fun time =>
      time.toNat + d.policy.refreshMargin.toNat < token.expiresAt.toNat) d actions := by
  induction actions generalizing d now phase with
  | nil => trivial
  | cons action rest ih =>
    obtain ⟨next, onward⟩ := onward.step
    have stays : ∀ identity, action ≠ .cancel identity := by
      rintro identity rfl
      exact uncancelled identity List.mem_cons_self
    constructor
    · rintro ⟨time, rfl, starts, early⟩
      exact starts (calm.started_enter (next time rfl) found came early)
    · obtain ⟨after, still, same⟩ := result_step calm.formed action found came
      rw [← d.policy_step action]
      apply ih (calm.step action stays next) _ onward still same
      intro identity member
      exact uncancelled identity (List.mem_cons_of_mem _ member)

/-- A token without an expiry of its own is not refused. -/
theorem find?_answer_default
    (short : d.policy.refreshMargin.toNat < d.policy.defaultLifetime.toNat) {flight : Nat}
    (calling : d.flights.find? flight = some ⟨identity, .calling⟩) (value : String)
    (fits : now.toNat + d.policy.defaultLifetime.toNat < 2 ^ 64) :
    ∃ token, token.expiresAt.toNat = now.toNat + d.policy.defaultLifetime.toNat ∧
      (d.step (.answer flight (.ok ⟨value, none⟩) now)).flights.find? flight =
        some ⟨identity, .decided (.ok token)⟩ := by
  obtain ⟨token, made⟩ : ∃ token, token =
      (IssuedToken.mk value none).toAccess now d.policy.defaultLifetime := ⟨_, rfl⟩
  have expiry : token.expiresAt.toNat = now.toNat + d.policy.defaultLifetime.toNat := by
    rw [made, IssuedToken.expiresAt_toAccess fits]
  have valid : token.isValid now = true := by
    rw [AccessToken.isValid, decide_eq_true_eq, UInt64.lt_iff_toNat_lt, expiry]
    omega
  refine ⟨token, expiry, (find?_answer calling _ now).trans ?_⟩
  simp only [decide, ← made, valid, if_true]

/-- While a token that a refresh came to has more than the margin left, no call starts another
refresh of its identity, from the moment when the result is decided and so ever after it has
settled. A token without an expiry of its own has the lifetime less the margin until then. -/
theorem no_refresh_before_due (policy : TokenPolicy) (before later : List Action)
    (uncancelled : ∀ identity, .cancel identity ∉ before ++ later)
    (forward : (readings (before ++ later)).Pairwise (· ≤ ·)) :
    let d := run { policy } before
    (∀ (token : AccessToken) (now : Millis), token.isFresh now policy.refreshMargin = true ↔
      now.toNat + policy.refreshMargin.toNat < token.expiresAt.toNat) ∧
    (∀ flight identity phase token, d.flights.find? flight = some ⟨identity, phase⟩ →
      phase.result? = some (.ok token) →
        Avoids step (StartsWhere identity fun now =>
          now.toNat + policy.refreshMargin.toNat < token.expiresAt.toNat) d later) ∧
    ∀ flight identity value settled rest, Config.checkTokens policy = .ok () →
      d.flights.find? flight = some ⟨identity, .calling⟩ →
      later = .answer flight (.ok ⟨value, none⟩) settled :: rest →
      settled.toNat + policy.defaultLifetime.toNat < 2 ^ 64 →
        ∃ token, token.expiresAt.toNat = settled.toNat + policy.defaultLifetime.toNat ∧
          (d.answer flight (.ok ⟨value, none⟩) settled).flights.find? flight =
            some ⟨identity, .decided (.ok token)⟩ ∧
          Avoids step (StartsWhere identity fun now => now.toNat <
            settled.toNat + policy.defaultLifetime.toNat - policy.refreshMargin.toNat)
            (d.answer flight (.ok ⟨value, none⟩) settled) rest := by
  intro d
  have same : d.policy = policy := policy_run { policy } before
  have begins : Onward 0 (before ++ later) :=
    List.pairwise_cons.mpr ⟨fun _ _ => UInt64.zero_le, forward⟩
  obtain ⟨time, calm, onward⟩ := (calm_empty policy 0).run
    (fun identity member => uncancelled identity (List.mem_append_left _ member)) begins
  have stays : ∀ identity, .cancel identity ∉ later :=
    fun identity member => uncancelled identity (List.mem_append_right _ member)
  refine ⟨fun token now => AccessToken.isFresh_iff, ?_, ?_⟩
  · intro flight identity phase token found came
    rw [← same]
    exact calm.avoids stays onward found came
  · rintro flight identity value settled rest checked calling rfl fits
    have short := Config.checkTokens_eq_ok checked
    rw [← same] at short fits ⊢
    obtain ⟨token, expiry, decided⟩ := find?_answer_default short calling value fits
    obtain ⟨next, onward⟩ := onward.step
    have after := calm.step (.answer flight (.ok ⟨value, none⟩) settled) (fun _ => nofun) next
    have avoids := after.avoids
      (fun identity member => stays identity (List.mem_cons_of_mem _ member)) onward decided rfl
    rw [policy_step, expiry] at avoids
    refine ⟨token, expiry, decided, ?_⟩
    have due : (fun now : Millis => now.toNat <
        settled.toNat + d.policy.defaultLifetime.toNat - d.policy.refreshMargin.toNat) =
        fun now => now.toNat + d.policy.refreshMargin.toNat <
          settled.toNat + d.policy.defaultLifetime.toNat := by
      funext now
      exact propext (by omega)
    rw [due]
    exact avoids

/-- The token of bob has an expiry of its own. -/
def bobSettled : List Action :=
  [.enter "bob" 0, .answer 0 (.ok ⟨"token-of-bob", some 400000⟩) 50, .settle 0, .enter "alice" 60]

/-- The token of alice has none; the last call for her comes when a refresh is due. -/
def aliceCalls : List Action :=
  [.settle 1, .enter "alice" 270099, .enter "bob" 270099, .enter "alice" 270100]

theorem no_refresh_before_due_twice :
    let answer := Action.answer 1 (.ok ⟨"token-of-alice", none⟩) 100
    let d := run {} bobSettled
    Avoids step (StartsWhere "bob" fun now => now.toNat + 30000 < 400000) d
        (answer :: aliceCalls) ∧
      Avoids step (StartsWhere "alice" fun now => now.toNat < 270100) (d.step answer) aliceCalls ∧
      (d.run (answer :: aliceCalls)).started = 3 := by
  intro answer d
  have uncancelled : ∀ identity, .cancel identity ∉ bobSettled ++ answer :: aliceCalls := by
    simp [bobSettled, answer, aliceCalls]
  have forward : (readings (bobSettled ++ answer :: aliceCalls)).Pairwise (· ≤ ·) := by decide
  obtain ⟨-, kept, default⟩ :=
    no_refresh_before_due {} bobSettled (answer :: aliceCalls) uncancelled forward
  obtain ⟨-, -, -, due⟩ := default 1 "alice" "token-of-alice" 100 aliceCalls (by decide)
    (by decide) rfl (by decide)
  exact ⟨kept 0 "bob" (.settled (.ok ⟨"token-of-bob", 400000⟩)) ⟨"token-of-bob", 400000⟩
    (by decide) rfl, due, by decide⟩

end Issuer

end Muster
