import Muster.Token.Issuer

/-!
What an action does to an issuer. A flight takes off into an idle slot, goes from phase to phase,
settles into the slot of its identity, or is cancelled there; nothing else changes. Whatever holds
of every token that flights decide on holds of every token that is cached or published.
-/

namespace Muster

namespace Phase

def result? : Phase → Option TokenResult
  | .decided result | .settled result | .reported result | .published result => some result
  | .calling | .aborted => none

/-- What a flight comes to if it is cancelled in this phase, or ends in it. -/
def outcome (phase : Phase) : TokenResult := phase.result?.getD (.error .cancelled)

/-- How far the phase is from the start. -/
def stage : Phase → Nat
  | .calling => 0
  | .decided _ => 1
  | .settled _ => 2
  | .reported _ => 3
  | .published _ | .aborted => 4

/-- The result is not in the slot yet. -/
def Unsettled : Phase → Prop
  | .calling | .decided _ => True
  | .settled _ | .reported _ | .published _ | .aborted => False

/-- Whoever waits can read what the flight came to. -/
def Over : Phase → Prop
  | .published _ | .aborted => True
  | .calling | .decided _ | .settled _ | .reported _ => False

/-- The steps of a flight of an identity, one phase to the next. -/
inductive Follows (identity : Identity) : Phase → Phase → Prop
  | decided (policy : TokenPolicy) (now : Millis) (answer : SourceAnswer) :
      Follows identity .calling (.decided (Issuer.decide identity policy now answer))
  | settled (result : TokenResult) : Follows identity (.decided result) (.settled result)
  | reported (result : TokenResult) : Follows identity (.settled result) (.reported result)
  | published (result : TokenResult) : Follows identity (.reported result) (.published result)
  | aborted : Follows identity .calling .aborted

variable {identity : Identity} {before after : Phase}

theorem stage_of_result? {phase : Phase} {result : TokenResult}
    (reached : phase.result? = some result) : 1 ≤ phase.stage := by
  cases phase with
  | calling => cases reached
  | decided | settled | reported | published | aborted => simp only [stage]; omega

theorem Follows.not_over (follows : Follows identity before after) : ¬before.Over := by
  cases follows <;> exact id

theorem Follows.unsettled (follows : Follows identity before after) (unsettled : after.Unsettled) :
    before.Unsettled := by
  cases follows with
  | decided => trivial
  | settled | reported | published | aborted => exact unsettled.elim

theorem Follows.result? {result : TokenResult} (follows : Follows identity before after)
    (reached : before.result? = some result) : after.result? = some result := by
  cases follows with
  | decided | aborted => cases reached
  | settled | reported | published => exact reached

theorem Follows.stage_le (follows : Follows identity before after) :
    before.stage ≤ after.stage := by
  cases follows <;> simp only [stage] <;> omega

end Phase

namespace Issuer

variable {d e : Issuer} {action : Action}

/-! ### Parts -/

theorem slot_setSlot (d : Issuer) (identity other : Identity) (slot : Slot) :
    (d.setSlot identity slot).slot other = if other = identity then slot else d.slot other := by
  by_cases same : other = identity <;> simp [Issuer.slot, setSlot, same]

@[simp] theorem flights_setSlot (d : Issuer) (identity : Identity) (slot : Slot) :
    (d.setSlot identity slot).flights = d.flights := rfl

@[simp] theorem slot_setPhase (d : Issuer) (flight : Nat) (phase : Phase) (identity : Identity) :
    (d.setPhase flight phase).slot identity = d.slot identity := by
  unfold setPhase
  split <;> rfl

@[simp] theorem started_setPhase (d : Issuer) (flight : Nat) (phase : Phase) :
    (d.setPhase flight phase).started = d.started := by
  unfold setPhase
  split <;> rfl

theorem find?_setPhase {flight : Nat} {f : Flight} (found : d.flights.find? flight = some f)
    (phase : Phase) (other : Nat) :
    (d.setPhase flight phase).flights.find? other =
      if other = flight then some { f with phase } else d.flights.find? other := by
  simp only [setPhase, found, Table.find?_insert]

section Landing

variable {flight : Nat} {identity : Identity} {result : TokenResult}

theorem find?_answer (calling : d.flights.find? flight = some ⟨identity, .calling⟩)
    (answer : SourceAnswer) (now : Millis) :
    (d.answer flight answer now).flights.find? flight =
      some ⟨identity, .decided (decide identity d.policy now answer)⟩ := by
  simp only [Issuer.answer, calling]
  rw [find?_setPhase calling, if_pos rfl]

theorem settle_eq (found : d.flights.find? flight = some ⟨identity, .decided result⟩) :
    d.settle flight = (d.setSlot identity
      ⟨result.toOption.or (d.slot identity).cached, none⟩).setPhase flight (.settled result) := by
  simp only [settle, found]
  cases result <;> rfl

theorem slot_settle (found : d.flights.find? flight = some ⟨identity, .decided result⟩)
    (other : Identity) : (d.settle flight).slot other =
      if other = identity then ⟨result.toOption.or (d.slot identity).cached, none⟩
      else d.slot other := by
  rw [settle_eq found, slot_setPhase, slot_setSlot]

theorem find?_settle (found : d.flights.find? flight = some ⟨identity, .decided result⟩)
    (other : Nat) : (d.settle flight).flights.find? other =
      if other = flight then some ⟨identity, .settled result⟩ else d.flights.find? other := by
  rw [settle_eq found, find?_setPhase (d := d.setSlot identity _) found, flights_setSlot]

end Landing

/-! ### Moves -/

/-- The phases of a flight in their order, apart from settling. -/
inductive Next (d : Issuer) (identity : Identity) (flight : Nat) : Action → Phase → Phase → Prop
  | answered (answer : SourceAnswer) (now : Millis) :
      Next d identity flight (.answer flight answer now) .calling
        (.decided (decide identity d.policy now answer))
  | reported (result : TokenResult) :
      Next d identity flight (.report flight) (.settled result) (.reported result)
  | published (result : TokenResult) :
      Next d identity flight (.publish flight) (.reported result) (.published result)

inductive Moves (d e : Issuer) : Action → Prop
  | rests (action : Action) (same : e = d) : Moves d e action
  | takesOff (identity : Identity) (now : Millis) (idle : (d.slot identity).flight = none)
      (slots : ∀ other, e.slot other =
        if other = identity then { d.slot identity with flight := some d.started }
        else d.slot other)
      (flights : ∀ other, e.flights.find? other =
        if other = d.started then some { identity } else d.flights.find? other)
      (started : e.started = d.started + 1) : Moves d e (.enter identity now)
  | goesOn (action : Action) (flight : Nat) (identity : Identity) (before after : Phase)
      (found : d.flights.find? flight = some ⟨identity, before⟩)
      (next : d.Next identity flight action before after)
      (slots : ∀ other, e.slot other = d.slot other)
      (flights : ∀ other, e.flights.find? other =
        if other = flight then some ⟨identity, after⟩ else d.flights.find? other)
      (started : e.started = d.started) : Moves d e action
  | settles (flight : Nat) (identity : Identity) (result : TokenResult)
      (found : d.flights.find? flight = some ⟨identity, .decided result⟩)
      (slots : ∀ other, e.slot other =
        if other = identity then ⟨result.toOption.or (d.slot identity).cached, none⟩
        else d.slot other)
      (flights : ∀ other, e.flights.find? other =
        if other = flight then some ⟨identity, .settled result⟩ else d.flights.find? other)
      (started : e.started = d.started) : Moves d e (.settle flight)
  | cancels (identity : Identity) (flight : Nat)
      (recorded : (d.slot identity).flight = some flight)
      (landed : ∀ owner, d.flights.find? flight ≠ some ⟨owner, .calling⟩)
      (slots : ∀ other, e.slot other =
        if other = identity then { d.slot identity with flight := none } else d.slot other)
      (flights : e.flights = d.flights) (started : e.started = d.started) :
      Moves d e (.cancel identity)
  | aborts (identity owner : Identity) (flight : Nat)
      (recorded : (d.slot identity).flight = some flight)
      (found : d.flights.find? flight = some ⟨owner, .calling⟩)
      (slots : ∀ other, e.slot other =
        if other = identity then { d.slot identity with flight := none } else d.slot other)
      (flights : ∀ other, e.flights.find? other =
        if other = flight then some ⟨owner, .aborted⟩ else d.flights.find? other)
      (started : e.started = d.started) : Moves d e (.cancel identity)

theorem moves_join (d : Issuer) (identity : Identity) (now : Millis) :
    d.Moves (d.join identity).2 (.enter identity now) := by
  unfold join
  split
  · exact .rests _ rfl
  · rename_i idle
    refine .takesOff identity now idle (fun other => ?_) (fun other => ?_) rfl
    · exact d.slot_setSlot identity other _
    · rw [Table.find?_insert]

theorem moves_enter (d : Issuer) (identity : Identity) (now : Millis) :
    d.Moves (d.enter identity now).2 (.enter identity now) := by
  unfold enter
  split
  · split
    · exact .rests _ rfl
    · exact d.moves_join identity now
  · exact d.moves_join identity now

theorem moves_answer (d : Issuer) (flight : Nat) (answer : SourceAnswer) (now : Millis) :
    d.Moves (d.answer flight answer now) (.answer flight answer now) := by
  unfold Issuer.answer
  split
  · rename_i identity found
    exact .goesOn _ flight identity _ _ found (.answered answer now) (fun _ => slot_setPhase ..)
      (find?_setPhase found _) (started_setPhase ..)
  · exact .rests _ rfl

theorem moves_settle (d : Issuer) (flight : Nat) : d.Moves (d.settle flight) (.settle flight) := by
  unfold settle
  split
  · rename_i identity result found
    refine .settles flight identity result found (fun other => ?_) (fun other => ?_)
      (started_setPhase ..)
    · rw [slot_setPhase, slot_setSlot]
      cases result <;> rfl
    · exact find?_setPhase (d := d.setSlot identity _) found _ other
  · exact .rests _ rfl

theorem moves_report (d : Issuer) (flight : Nat) :
    d.Moves (d.report flight).2 (.report flight) := by
  unfold report
  split
  · rename_i identity result found
    exact .goesOn _ flight identity _ _ found (.reported result) (fun _ => slot_setPhase ..)
      (find?_setPhase found _) (started_setPhase ..)
  · exact .rests _ rfl

theorem moves_publish (d : Issuer) (flight : Nat) :
    d.Moves (d.publish flight) (.publish flight) := by
  unfold publish
  split
  · rename_i identity result found
    exact .goesOn _ flight identity _ _ found (.published result) (fun _ => slot_setPhase ..)
      (find?_setPhase found _) (started_setPhase ..)
  · exact .rests _ rfl

theorem moves_cancel (d : Issuer) (identity : Identity) :
    d.Moves (d.cancel identity).2 (.cancel identity) := by
  unfold cancel
  split
  · exact .rests _ rfl
  · rename_i flight recorded
    have slots : ∀ other, (d.setSlot identity { d.slot identity with flight := none }).slot other =
        if other = identity then { d.slot identity with flight := none } else d.slot other :=
      fun other => d.slot_setSlot identity other _
    dsimp only
    split
    · rename_i owner found
      refine .aborts identity owner flight recorded found (fun other => ?_) ?_ (started_setPhase ..)
      · rw [slot_setPhase]
        exact slots other
      · exact find?_setPhase (d := d.setSlot identity _) found .aborted
    · rename_i landed
      exact .cancels identity flight recorded landed slots rfl rfl

theorem step_moves (d : Issuer) (action : Action) : d.Moves (d.step action) action := by
  cases action with
  | enter identity now => exact d.moves_enter identity now
  | answer flight answer now => exact d.moves_answer flight answer now
  | settle flight => exact d.moves_settle flight
  | report flight => exact d.moves_report flight
  | publish flight => exact d.moves_publish flight
  | cancel identity => exact d.moves_cancel identity

def run (d : Issuer) (actions : List Action) : Issuer := actions.foldl step d

/-! ### Slots and their flights -/

/-- A slot records a flight of its own identity that has not settled yet. -/
structure Formed (d : Issuer) : Prop where
  below : ∀ {flight f}, d.flights.find? flight = some f → flight < d.started
  recorded : ∀ {identity flight}, (d.slot identity).flight = some flight →
    d.flights.find? flight = some ⟨identity, .calling⟩ ∨
      ∃ result, d.flights.find? flight = some ⟨identity, .decided result⟩

theorem formed_empty (policy : TokenPolicy) : Formed { policy } :=
  ⟨nofun, nofun⟩

theorem Formed.owner (formed : d.Formed) {identity owner : Identity} {flight : Nat} {phase : Phase}
    (recorded : (d.slot identity).flight = some flight)
    (found : d.flights.find? flight = some ⟨owner, phase⟩) : owner = identity := by
  rcases formed.recorded recorded with here | ⟨result, here⟩
  · rw [here] at found; cases found; rfl
  · rw [here] at found; cases found; rfl

theorem below_step (formed : d.Formed) (moves : d.Moves e action) {flight : Nat} {f : Flight}
    (found : e.flights.find? flight = some f) : flight < e.started := by
  have updated : ∀ {number owner phase g}, d.flights.find? number = some ⟨owner, phase⟩ →
      (∀ other, e.flights.find? other = if other = number then some g
        else d.flights.find? other) → e.started = d.started → flight < e.started := by
    intro number owner phase g here flights started
    rw [flights] at found
    rw [started]
    split at found
    · rename_i same
      exact same ▸ formed.below here
    · exact formed.below found
  cases moves with
  | rests _ same => rw [same] at found ⊢; exact formed.below found
  | takesOff identity now idle slots flights started =>
    rw [flights] at found
    rw [started]
    split at found
    · omega
    · exact Nat.lt_succ_of_lt (formed.below found)
  | goesOn _ number identity before after here next slots flights started =>
    exact updated here flights started
  | settles number identity result here slots flights started =>
    exact updated here flights started
  | cancels identity number recorded landed slots flights started =>
    rw [flights] at found
    rw [started]
    exact formed.below found
  | aborts identity owner number recorded here slots flights started =>
    exact updated here flights started

/-- A flight that a slot records is not the one that has just settled or was aborted elsewhere. -/
theorem Formed.apart (formed : d.Formed) {identity owner other : Identity} {flight number : Nat}
    {phase : Phase} (found : d.flights.find? flight = some ⟨owner, phase⟩)
    (own : owner = identity) (apart : other ≠ identity)
    (recorded : (d.slot other).flight = some number) : number ≠ flight := by
  rintro rfl
  exact apart ((formed.owner recorded found).symm.trans own)

theorem formed_step (formed : d.Formed) (moves : d.Moves e action) : e.Formed := by
  refine ⟨below_step formed moves, fun {identity flight} recorded => ?_⟩
  cases moves with
  | rests _ same => rw [same] at recorded ⊢; exact formed.recorded recorded
  | takesOff owner now idle slots flights started =>
    rw [slots] at recorded
    rw [flights]
    split at recorded
    · rename_i same
      obtain rfl := Option.some.inj recorded
      rw [if_pos rfl, same]
      exact .inl rfl
    · rcases formed.recorded recorded with here | ⟨result, here⟩
      · rw [if_neg (Nat.ne_of_lt (formed.below here))]
        exact .inl here
      · rw [if_neg (Nat.ne_of_lt (formed.below here))]
        exact .inr ⟨result, here⟩
  | goesOn _ number owner before after found next slots flights started =>
    rw [slots] at recorded
    rw [flights]
    split
    · rename_i same
      subst same
      obtain rfl := formed.owner recorded found
      rcases formed.recorded recorded with here | ⟨result, here⟩
      · obtain rfl := (Flight.mk.inj (Option.some.inj (found.symm.trans here))).2
        cases next
        exact .inr ⟨_, rfl⟩
      · obtain rfl := (Flight.mk.inj (Option.some.inj (found.symm.trans here))).2
        cases next
    · exact formed.recorded recorded
  | settles number owner result found slots flights started =>
    rw [slots] at recorded
    split at recorded
    · cases recorded
    · rename_i apart
      rw [flights, if_neg (formed.apart found rfl apart recorded)]
      exact formed.recorded recorded
  | cancels owner number _ _ slots flights started =>
    rw [slots] at recorded
    rw [flights]
    split at recorded
    · cases recorded
    · exact formed.recorded recorded
  | aborts owner other number held found slots flights started =>
    rw [slots] at recorded
    split at recorded
    · cases recorded
    · rename_i apart
      rw [flights, if_neg (formed.apart found (formed.owner held found) apart recorded)]
      exact formed.recorded recorded

theorem formed_run (formed : d.Formed) (actions : List Action) : (d.run actions).Formed := by
  induction actions generalizing d with
  | nil => exact formed
  | cons action rest ih => exact ih (formed_step formed (d.step_moves action))

/-! ### One flight -/

section Flying

variable {identity : Identity} {flight : Nat}

def Refreshes (d : Issuer) (identity : Identity) (flight : Nat) : Prop :=
  ∃ phase, d.flights.find? flight = some ⟨identity, phase⟩

def InFlight (d : Issuer) (identity : Identity) (flight : Nat) : Prop :=
  ∃ phase, d.flights.find? flight = some ⟨identity, phase⟩ ∧ phase.Unsettled

theorem InFlight.refreshes (flying : d.InFlight identity flight) : d.Refreshes identity flight :=
  flying.imp fun _ => And.left

theorem Formed.inFlight (formed : d.Formed) (recorded : (d.slot identity).flight = some flight) :
    d.InFlight identity flight := by
  rcases formed.recorded recorded with here | ⟨result, here⟩
  · exact ⟨_, here, trivial⟩
  · exact ⟨_, here, trivial⟩

/-- The action is a call or a cancellation for the identity, or a step of a flight of it. -/
def Concerns (d : Issuer) (identity : Identity) : Action → Prop
  | .enter wanted _ | .cancel wanted => wanted = identity
  | .answer flight _ _ | .settle flight | .report flight | .publish flight =>
    d.Refreshes identity flight

/-- What an action does to one flight. -/
inductive Flies (d e : Issuer) (action : Action) (flight : Nat) : Prop
  | stays (same : e.flights.find? flight = d.flights.find? flight)
  | follows (identity : Identity) (before after : Phase)
      (found : d.flights.find? flight = some ⟨identity, before⟩)
      (moved : e.flights.find? flight = some ⟨identity, after⟩)
      (next : Phase.Follows identity before after) (concerns : d.Concerns identity action)
  | begins (identity : Identity) (now : Millis) (entered : action = .enter identity now)
      (idle : (d.slot identity).flight = none) (first : d.flights.find? flight = none)
      (begun : e.flights.find? flight = some { identity })

theorem flies_of_moves (formed : d.Formed) (moves : d.Moves e action) (flight : Nat) :
    d.Flies e action flight := by
  have moved : ∀ {number owner before after}, d.flights.find? number = some ⟨owner, before⟩ →
      (∀ other, e.flights.find? other = if other = number then some ⟨owner, after⟩
        else d.flights.find? other) →
      Phase.Follows owner before after → d.Concerns owner action → d.Flies e action flight := by
    intro number owner before after found flights next concerns
    by_cases same : flight = number
    · subst same
      exact .follows owner before after found ((flights flight).trans (if_pos rfl)) next concerns
    · exact .stays ((flights flight).trans (if_neg same))
  cases moves with
  | rests _ same => exact .stays (by rw [same])
  | takesOff owner now idle slots flights started =>
    by_cases same : flight = d.started
    · subst same
      refine .begins owner now rfl idle ?_ ((flights _).trans (if_pos rfl))
      cases found : d.flights.find? d.started with
      | none => rfl
      | some f => exact absurd (formed.below found) (Nat.lt_irrefl _)
    · exact .stays ((flights flight).trans (if_neg same))
  | goesOn _ number owner before after found next slots flights =>
    cases next with
    | answered answer now => exact moved found flights (.decided d.policy now answer) ⟨_, found⟩
    | reported result => exact moved found flights (.reported result) ⟨_, found⟩
    | published result => exact moved found flights (.published result) ⟨_, found⟩
  | settles number owner result found slots flights =>
    exact moved found flights (.settled result) ⟨_, found⟩
  | cancels owner number recorded landed slots flights => exact .stays (by rw [flights])
  | aborts owner other number recorded found slots flights =>
    exact moved found flights .aborted (formed.owner recorded found).symm

theorem slot_of_moves (moves : d.Moves e action)
    (aside : ¬d.Concerns identity action) : e.slot identity = d.slot identity := by
  cases moves with
  | rests _ same => rw [same]
  | takesOff owner now idle slots =>
    rw [slots, if_neg]
    rintro rfl
    exact aside rfl
  | goesOn _ number owner before after found next slots => exact slots identity
  | settles number owner result found slots =>
    rw [slots, if_neg]
    rintro rfl
    exact aside ⟨_, found⟩
  | cancels owner number recorded landed slots =>
    rw [slots, if_neg]
    rintro rfl
    exact aside rfl
  | aborts owner other number recorded found slots =>
    rw [slots, if_neg]
    rintro rfl
    exact aside rfl

theorem Flies.apart (flies : d.Flies e action flight) (aside : ¬d.Concerns identity action)
    (phase : Phase) : e.flights.find? flight = some ⟨identity, phase⟩ ↔
      d.flights.find? flight = some ⟨identity, phase⟩ := by
  cases flies with
  | stays same => rw [same]
  | follows owner before after found moved next concerns =>
    have other : owner ≠ identity := by
      rintro rfl
      exact aside concerns
    rw [found, moved]
    simp [other]
  | begins owner now entered idle first begun =>
    have other : owner ≠ identity := by
      rintro rfl
      exact aside (entered ▸ rfl)
    rw [first, begun]
    simp [other]

theorem Flies.final (flies : d.Flies e action flight) {phase : Phase}
    (found : d.flights.find? flight = some ⟨identity, phase⟩) (ended : phase.Over) :
    e.flights.find? flight = some ⟨identity, phase⟩ := by
  cases flies with
  | stays same => rw [same, found]
  | follows owner before after here moved next =>
    obtain ⟨-, rfl⟩ := Flight.mk.inj (Option.some.inj (here.symm.trans found))
    exact absurd ended next.not_over
  | begins owner now entered idle first begun => cases first.symm.trans found

theorem Flies.refreshes (flies : d.Flies e action flight)
    (refreshes : d.Refreshes identity flight) : e.Refreshes identity flight := by
  obtain ⟨phase, found⟩ := refreshes
  cases flies with
  | stays same => exact ⟨phase, same.trans found⟩
  | follows owner before after here moved next =>
    obtain ⟨rfl, -⟩ := Flight.mk.inj (Option.some.inj (here.symm.trans found))
    exact ⟨after, moved⟩
  | begins owner now entered idle first begun => cases first.symm.trans found

/-- A flight of an identity whose slot records one is not new. -/
theorem Flies.refreshed (flies : d.Flies e action flight) {other : Nat}
    (recorded : (d.slot identity).flight = some other) (refreshes : e.Refreshes identity flight) :
    d.Refreshes identity flight := by
  obtain ⟨phase, found⟩ := refreshes
  cases flies with
  | stays same => exact ⟨phase, same.symm.trans found⟩
  | follows owner before after here moved next =>
    obtain ⟨rfl, -⟩ := Flight.mk.inj (Option.some.inj (moved.symm.trans found))
    exact ⟨before, here⟩
  | begins owner now entered idle first begun =>
    obtain ⟨rfl, -⟩ := Flight.mk.inj (Option.some.inj (begun.symm.trans found))
    cases idle.symm.trans recorded

theorem Flies.inFlight (flies : d.Flies e action flight) (flying : e.InFlight identity flight)
    (known : d.Refreshes identity flight) : d.InFlight identity flight := by
  obtain ⟨phase, found, unsettled⟩ := flying
  cases flies with
  | stays same => exact ⟨phase, same.symm.trans found, unsettled⟩
  | follows owner before after here moved next =>
    obtain ⟨rfl, rfl⟩ := Flight.mk.inj (Option.some.inj (moved.symm.trans found))
    exact ⟨before, here, next.unsettled unsettled⟩
  | begins owner now entered idle first begun =>
    obtain ⟨phase, here⟩ := known
    cases first.symm.trans here

theorem owner_step (formed : d.Formed) (moves : d.Moves e action) {phase : Phase}
    (found : d.flights.find? flight = some ⟨identity, phase⟩) : e.Refreshes identity flight :=
  (flies_of_moves formed moves flight).refreshes ⟨phase, found⟩

end Flying

/-! ### Tokens -/

/-- A token that a flight comes to is the one that the token source issued, and is valid then. -/
theorem decide_eq_ok {identity : Identity} {policy : TokenPolicy} {now : Millis}
    {answer : SourceAnswer} {token : AccessToken}
    (decided : decide identity policy now answer = .ok token) :
    ∃ issued, answer = .ok issued ∧ token = issued.toAccess now policy.defaultLifetime ∧
      token.isValid now = true := by
  unfold decide at decided
  split at decided
  · rename_i issued
    dsimp only at decided
    split at decided
    · rename_i valid
      obtain rfl := Except.ok.inj decided
      exact ⟨issued, rfl, rfl, valid⟩
    · cases decided
  · cases decided

/-- What holds of every token that a flight comes to holds of the tokens that the issuer has. -/
structure Backed (R : Nat → Identity → AccessToken → Prop) (d : Issuer) : Prop where
  cached : ∀ {identity token}, (d.slot identity).cached = some token →
    ∃ flight, R flight identity token
  results : ∀ {flight identity phase token}, d.flights.find? flight = some ⟨identity, phase⟩ →
    phase.result? = some (.ok token) → R flight identity token

variable {R S : Nat → Identity → AccessToken → Prop}

theorem backed_empty (policy : TokenPolicy) : Backed R { policy } :=
  ⟨nofun, nofun⟩

theorem Backed.mono (backed : Backed R d) (weaker : ∀ {flight identity token},
    R flight identity token → S flight identity token) : Backed S d := by
  refine ⟨fun here => ?_, fun found result => weaker (backed.results found result)⟩
  obtain ⟨flight, held⟩ := backed.cached here
  exact ⟨flight, weaker held⟩

theorem backed_step (backed : Backed R d) (moves : d.Moves e action)
    (answered : ∀ {flight answer now identity token}, action = .answer flight answer now →
      d.flights.find? flight = some ⟨identity, .calling⟩ →
      decide identity d.policy now answer = .ok token → R flight identity token) :
    Backed R e := by
  have updated : ∀ {number owner after}, (∀ other, e.flights.find? other =
        if other = number then some ⟨owner, after⟩ else d.flights.find? other) →
      (∀ {token}, after.result? = some (.ok token) → R number owner token) →
      ∀ {flight identity phase token}, e.flights.find? flight = some ⟨identity, phase⟩ →
        phase.result? = some (.ok token) → R flight identity token := by
    intro number owner after flights new flight identity phase token found result
    rw [flights] at found
    split at found
    · rename_i same
      subst same
      obtain ⟨rfl, rfl⟩ := Flight.mk.inj (Option.some.inj found)
      exact new result
    · exact backed.results found result
  have kept : ∀ {owner flight}, (∀ other, e.slot other =
        if other = owner then { d.slot owner with flight } else d.slot other) →
      ∀ {identity token}, (e.slot identity).cached = some token →
        ∃ flight, R flight identity token := by
    intro owner flight slots identity token here
    rw [slots] at here
    split at here
    · rename_i same
      exact same ▸ backed.cached here
    · exact backed.cached here
  cases moves with
  | rests _ same => rw [same]; exact backed
  | takesOff owner now idle slots flights => exact ⟨kept slots, updated flights nofun⟩
  | goesOn _ number owner before after found next slots flights =>
    refine ⟨fun {identity token} here => ?_, updated flights fun {token} result => ?_⟩
    · rw [slots] at here
      exact backed.cached here
    · cases next with
      | answered answer now => exact answered rfl found (Option.some.inj result)
      | reported => exact backed.results found result
      | published => exact backed.results found result
  | settles number owner result found slots flights =>
    refine ⟨fun {identity token} here => ?_, updated flights fun same => backed.results found same⟩
    rw [slots] at here
    split at here
    · rename_i same
      subst same
      cases result with
      | ok decided =>
        obtain rfl := Option.some.inj here
        exact ⟨number, backed.results found rfl⟩
      | error => exact backed.cached here
    · exact backed.cached here
  | cancels owner number recorded landed slots flights =>
    exact ⟨kept slots, fun {flight identity phase token} found =>
      backed.results (by rw [← flights, found])⟩
  | aborts owner other number recorded found slots flights =>
    exact ⟨kept slots, updated flights nofun⟩

/-! ### Calls -/

theorem isValid_of_isFresh {token : AccessToken} {now margin : Millis}
    (fresh : token.isFresh now margin = true) : token.isValid now = true := by
  simp only [AccessToken.isFresh, AccessToken.isValid, decide_eq_true_eq, UInt64.lt_iff_toNat_lt,
    Millis.toNat_saturatingAdd] at fresh ⊢
  have small := now.toNat_lt
  unfold UInt64.size at fresh
  omega

/-- A call that is served at once has the cached token, which is valid. -/
theorem served_of_enter {identity : Identity} {now : Millis} {token : AccessToken}
    (served : (d.enter identity now).1 = .served token) :
    (d.slot identity).cached = some token ∧ token.isValid now = true := by
  unfold enter at served
  split at served
  · rename_i cached here
    split at served
    · rename_i fresh
      obtain rfl := Entry.served.inj served
      exact ⟨here, isValid_of_isFresh fresh⟩
    · dsimp only at served
      split at served
      · rename_i valid
        obtain rfl := Entry.served.inj served
        exact ⟨here, valid⟩
      · cases served
  · cases served

theorem recorded_join (d : Issuer) (identity : Identity) :
    ((d.join identity).2.slot identity).flight = some (d.join identity).1 := by
  unfold join
  split
  · rename_i flight recorded
    exact recorded
  · exact congrArg Slot.flight ((d.slot_setSlot identity identity _).trans (if_pos rfl))

theorem recorded_of_enter {identity : Identity} {now : Millis} {flight : Nat}
    (waits : (d.enter identity now).1 = .waits flight) :
    ((d.enter identity now).2.slot identity).flight = some flight := by
  unfold enter at waits ⊢
  split at waits
  · split at waits
    · cases waits
    · dsimp only at waits ⊢
      split at waits
      · cases waits
      · rename_i stale _
        obtain rfl := Entry.waits.inj waits
        rw [if_neg stale]
        exact d.recorded_join identity
  · obtain rfl := Entry.waits.inj waits
    exact d.recorded_join identity

theorem published_of_outcome? {flight : Nat} {token : AccessToken}
    (outcome : d.outcome? flight = some (.ok token)) :
    ∃ identity, d.flights.find? flight = some ⟨identity, .published (.ok token)⟩ := by
  unfold outcome? at outcome
  split at outcome
  · rename_i identity result found
    obtain rfl := Option.some.inj outcome
    exact ⟨identity, found⟩
  · cases outcome
  · cases outcome

end Issuer

end Muster
