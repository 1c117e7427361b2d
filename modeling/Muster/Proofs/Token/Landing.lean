import Muster.Proofs.Table
import Muster.Proofs.Token.SingleFlight

/-!
An issuer whose flights land in one piece: from the answer of the token source to the publication
nothing else happens. Its slots then record the running flights and no others, so that a
cancellation stops every one of them, and counts each.
-/

namespace Muster

namespace Issuer

variable {d e f : Issuer} {entered : Prop}

/-- The source answers a flight, which settles, is reported and published at once. -/
def land (d : Issuer) (flight : Nat) (answer : SourceAnswer) (now : Millis) :
    List Event × Issuer :=
  let (events, d) := ((d.answer flight answer now).settle flight).report flight
  (events, d.publish flight)

structure Steady (d : Issuer) : Prop where
  formed : d.Formed
  single : d.Single
  landed : ∀ {flight f}, d.flights.find? flight = some f → f.phase = .calling ∨ f.phase.Over

theorem steady_empty (policy : TokenPolicy) : Steady { policy } :=
  ⟨formed_empty policy, nofun, nofun⟩

theorem Steady.running (steady : d.Steady) {identity : Identity} {flight : Nat}
    (recorded : (d.slot identity).flight = some flight) :
    d.flights.find? flight = some ⟨identity, .calling⟩ := by
  rcases steady.formed.recorded recorded with here | ⟨result, here⟩
  · exact here
  · rcases steady.landed here with calling | finished
    · cases calling
    · exact finished.elim

/-- The issuer goes on: a flight that is over stays as it is, and slots take off only where a call
has entered. -/
structure Steps (entered : Prop) (d e : Issuer) : Prop where
  steady : e.Steady
  keeps : ∀ {flight f}, d.flights.find? flight = some f →
    ∃ later, e.flights.find? flight = some later ∧ (f.phase ≠ .calling → later = f)
  started : ¬entered → e.started = d.started
  idle : ¬entered → ∀ identity, (d.slot identity).flight = none →
    (e.slot identity).flight = none

theorem Steps.refl (steady : d.Steady) : Steps entered d d :=
  ⟨steady, fun found => ⟨_, found, fun _ => rfl⟩, fun _ => rfl, fun _ _ idle => idle⟩

theorem Steps.trans (first : Steps entered d e) (second : Steps entered e f) :
    Steps entered d f where
  steady := second.steady
  keeps found := by
    obtain ⟨later, here, kept⟩ := first.keeps found
    obtain ⟨last, there, same⟩ := second.keeps here
    refine ⟨last, there, fun finished => ?_⟩
    obtain rfl := kept finished
    exact same finished
  started quiet := (second.started quiet).trans (first.started quiet)
  idle quiet identity none := second.idle quiet identity (first.idle quiet identity none)

theorem steps_enter (enters : entered) (steady : d.Steady) (identity : Identity) (now : Millis) :
    Steps entered d (d.enter identity now).2 := by
  have moves := d.moves_enter identity now
  have formed := formed_step steady.formed moves
  have single := single_of_moves steady.single moves id
  cases moves with
  | rests _ same => rw [same]; exact .refl steady
  | takesOff _ _ idle slots flights started =>
    refine ⟨⟨formed, single, fun {flight f} found => ?_⟩, fun {flight f} found => ?_,
      fun quiet => absurd enters quiet, fun quiet => absurd enters quiet⟩
    · rw [flights] at found
      split at found
      · obtain rfl := Option.some.inj found
        exact .inl rfl
      · exact steady.landed found
    · rw [flights, if_neg (Nat.ne_of_lt (steady.formed.below found))]
      exact ⟨_, found, fun _ => rfl⟩
  | goesOn _ _ _ _ _ _ next => cases next

theorem steps_cancel (steady : d.Steady) (identity : Identity) :
    Steps entered d (d.cancel identity).2 := by
  have moves := d.moves_cancel identity
  have formed := formed_step steady.formed moves
  have single := single_of_moves steady.single moves id
  have idle : ∀ {e : Issuer}, (∀ other, e.slot other =
      if other = identity then { d.slot identity with flight := none } else d.slot other) →
      ∀ other, (d.slot other).flight = none → (e.slot other).flight = none := by
    intro e slots other none
    rw [slots]
    split
    · rfl
    · exact none
  cases moves with
  | rests _ same => rw [same]; exact .refl steady
  | goesOn _ _ _ _ _ _ next => cases next
  | cancels _ flight recorded landed slots flights started =>
    exact absurd (steady.running recorded) (landed identity)
  | aborts _ owner flight recorded found slots flights started =>
    refine ⟨⟨formed, single, fun {other f} here => ?_⟩, fun {other f} here => ?_,
      fun _ => started, fun _ => idle slots⟩
    · rw [flights] at here
      split at here
      · obtain rfl := Option.some.inj here
        exact .inr trivial
      · exact steady.landed here
    · rw [flights]
      split
      · rename_i same
        rw [same, found] at here
        obtain rfl := Option.some.inj here
        exact ⟨_, rfl, fun landed => absurd rfl landed⟩
      · exact ⟨_, here, fun _ => rfl⟩

theorem steps_cancelAll (steady : d.Steady) : Steps entered d d.cancelAll.2 := by
  have folded : ∀ (identities : List Identity) (d : Issuer), d.Steady →
      Steps entered d (identities.foldl (fun d identity => (d.cancel identity).2) d) := by
    intro identities
    induction identities with
    | nil => exact fun d steady => .refl steady
    | cons identity rest ih =>
      intro d steady
      have next : Steps entered d _ := steps_cancel steady identity
      exact next.trans (ih _ next.steady)
  rw [cancelAll_eq]
  exact folded _ d steady

/-! ### Landing -/

/-- A flight that is not running has nothing to land. -/
theorem land_of_not_calling (steady : d.Steady) {flight : Nat} (answer : SourceAnswer)
    (now : Millis) (landed : ∀ identity, d.flights.find? flight ≠ some ⟨identity, .calling⟩) :
    d.land flight answer now = ([], d) := by
  have none : ∀ identity phase, ¬(phase = .calling ∨ phase.Over) →
      d.flights.find? flight ≠ some ⟨identity, phase⟩ :=
    fun identity phase apart found => apart (steady.landed found)
  have answered : d.answer flight answer now = d := by
    unfold Issuer.answer
    split
    · exact absurd ‹_› (landed _)
    · rfl
  have settled : d.settle flight = d := by
    unfold settle
    split
    · exact absurd ‹_› (none _ _ (by simp [Phase.Over]))
    · rfl
  have reported : d.report flight = ([], d) := by
    unfold report
    split
    · exact absurd ‹_› (none _ _ (by simp [Phase.Over]))
    · rfl
  have published : d.publish flight = d := by
    unfold publish
    split
    · exact absurd ‹_› (none _ _ (by simp [Phase.Over]))
    · rfl
  rw [land, answered, settled, reported]
  dsimp only
  rw [published]

/-- The phases that a landing goes through. -/
theorem phases_of_landing {flight : Nat} {identity : Identity}
    (calling : d.flights.find? flight = some ⟨identity, .calling⟩) (answer : SourceAnswer)
    (now : Millis) :
    let result := decide identity d.policy now answer
    (d.answer flight answer now).flights.find? flight = some ⟨identity, .decided result⟩ ∧
    ((d.answer flight answer now).settle flight).flights.find? flight =
      some ⟨identity, .settled result⟩ ∧
    (((d.answer flight answer now).settle flight).report flight).2.flights.find? flight =
      some ⟨identity, .reported result⟩ := by
  intro result
  have decided := find?_answer calling answer now
  have settled : ((d.answer flight answer now).settle flight).flights.find? flight =
      some ⟨identity, .settled result⟩ := by
    rw [find?_settle decided, if_pos rfl]
  refine ⟨decided, settled, ?_⟩
  simp only [report, settled]
  rw [find?_setPhase settled, if_pos rfl]

theorem land_of_calling {flight : Nat} {identity : Identity}
    (calling : d.flights.find? flight = some ⟨identity, .calling⟩) (answer : SourceAnswer)
    (now : Millis) :
    let result := decide identity d.policy now answer
    let after := (d.land flight answer now).2
    (∀ other, after.flights.find? other =
      if other = flight then some ⟨identity, .published result⟩ else d.flights.find? other) ∧
    (∀ other, after.slot other =
      if other = identity then ⟨result.toOption.or (d.slot identity).cached, none⟩
      else d.slot other) ∧
    after.started = d.started := by
  intro result after
  obtain ⟨decided, settled, reported⟩ := phases_of_landing calling answer now
  obtain ⟨d₁, first⟩ : ∃ e, e = d.answer flight answer now := ⟨_, rfl⟩
  obtain ⟨d₂, second⟩ : ∃ e, e = d₁.settle flight := ⟨_, rfl⟩
  obtain ⟨d₃, third⟩ : ∃ e, e = (d₂.report flight).2 := ⟨_, rfl⟩
  have last : after = d₃.publish flight := by
    rw [third, second, first]
    rfl
  rw [← first] at decided
  rw [← first, ← second] at settled
  rw [← first, ← second, ← third] at reported
  simp only [Issuer.answer, calling] at first
  rw [settle_eq decided] at second
  simp only [report, settled] at third
  simp only [publish, reported] at last
  refine ⟨fun other => ?_, fun other => ?_, ?_⟩
  · rw [last, find?_setPhase reported]
    split
    · rfl
    · rename_i apart
      rw [third, find?_setPhase settled, if_neg apart, second,
        find?_setPhase (by rw [flights_setSlot]; exact decided), if_neg apart, flights_setSlot,
        first, find?_setPhase calling, if_neg apart]
  · rw [last, slot_setPhase, third, slot_setPhase, second, slot_setPhase, slot_setSlot, first,
      slot_setPhase, slot_setPhase]
  · rw [last, started_setPhase, third, started_setPhase, second, started_setPhase, setSlot,
      first, started_setPhase]

theorem steps_land (steady : d.Steady) (flight : Nat) (answer : SourceAnswer) (now : Millis) :
    Steps entered d (d.land flight answer now).2 := by
  by_cases calling : ∃ identity, d.flights.find? flight = some ⟨identity, .calling⟩
  · obtain ⟨identity, calling⟩ := calling
    obtain ⟨flights, slots, started⟩ := land_of_calling calling answer now
    have own := steady.single flight identity calling
    refine ⟨⟨⟨fun {other f} found => ?_, fun {owner other} recorded => ?_⟩,
      fun other owner running => ?_, fun {other f} found => ?_⟩, fun {other f} found => ?_,
      fun _ => started, fun _ owner none => ?_⟩
    · rw [flights] at found
      rw [started]
      split at found
      · rename_i same
        exact same ▸ steady.formed.below calling
      · exact steady.formed.below found
    · rw [slots] at recorded
      split at recorded
      · cases recorded
      · rename_i apart
        have running := steady.running recorded
        rw [flights, if_neg (steady.formed.apart calling rfl apart recorded)]
        exact .inl running
    · rw [flights] at running
      split at running
      · cases running
      · rename_i apart
        have recorded := steady.single other owner running
        rw [slots, if_neg, recorded]
        rintro rfl
        exact apart (Option.some.inj (recorded.symm.trans own))
    · rw [flights] at found
      split at found
      · obtain rfl := Option.some.inj found
        exact .inr trivial
      · exact steady.landed found
    · rw [flights]
      split
      · rename_i same
        rw [same, calling] at found
        obtain rfl := Option.some.inj found
        exact ⟨_, rfl, fun finished => absurd rfl finished⟩
      · exact ⟨_, found, fun _ => rfl⟩
    · rw [slots]
      split
      · rfl
      · exact none
  · rw [land_of_not_calling steady answer now fun identity running => calling ⟨identity, running⟩]
    exact .refl steady

/-! ### Cancelling all -/

theorem idle_cancel (d : Issuer) (identity : Identity) :
    ((d.cancel identity).2.slot identity).flight = none := by
  unfold cancel
  split
  · rename_i idle
    exact idle
  · have cleared := d.slot_setSlot identity identity { d.slot identity with flight := none }
    rw [if_pos rfl] at cleared
    dsimp only
    split
    · rw [slot_setPhase, cleared]
    · rw [cleared]

theorem idle_cancelAll (steady : d.Steady) (identity : Identity) :
    (d.cancelAll.2.slot identity).flight = none := by
  have folded : ∀ (identities : List Identity) (d : Issuer), d.Steady →
      identity ∈ identities ∨ (d.slot identity).flight = none →
      ((identities.foldl (fun d identity => (d.cancel identity).2) d).slot identity).flight =
        none := by
    intro identities
    induction identities with
    | nil => exact fun d _ idle => idle.resolve_left nofun
    | cons first rest ih =>
      intro d steady idle
      have next : Steps False d _ := steps_cancel steady first
      refine ih _ next.steady ?_
      rcases idle with member | idle
      · rcases List.mem_cons.mp member with rfl | later
        · exact .inr (d.idle_cancel identity)
        · exact .inl later
      · exact .inr (next.idle id identity idle)
  rw [cancelAll_eq]
  refine folded _ d steady ?_
  cases found : d.slots.find? identity with
  | some slot => exact .inl (Table.mem_keys_of_find? found)
  | none => exact .inr (by rw [slot, found]; rfl)

theorem calling_eq_nil (single : d.Single)
    (idle : ∀ identity, (d.slot identity).flight = none) : d.calling = [] := by
  refine List.filterMap_eq_nil_iff.mpr fun entry member => ?_
  obtain ⟨flight, identity, phase⟩ := entry
  refine if_neg fun calling => ?_
  obtain rfl : phase = .calling := calling
  have recorded := single flight identity (Table.find?_eq_some_iff_mem.mpr member)
  cases (idle identity).symm.trans recorded

theorem length_calling (d : Issuer) :
    d.calling.length = d.flights.entries.countP fun entry => entry.2.phase = .calling := by
  rw [calling, List.length_filterMap_eq_countP]
  refine List.countP_congr fun entry _ => ?_
  dsimp only
  split <;> simp [*]

theorem count_cancel (steady : d.Steady) (identity : Identity) :
    (d.cancel identity).1 + (d.cancel identity).2.calling.length = d.calling.length := by
  unfold cancel
  split
  · exact Nat.zero_add _
  · rename_i flight recorded
    have running := steady.running recorded
    have counted := Table.countP_insert running ⟨identity, .aborted⟩
      fun entry => entry.2.phase = .calling
    rw [length_calling d]
    simp only [flights_setSlot, running, length_calling, setPhase]
    simpa [Nat.add_comm] using counted

/-- Cancelling counts the running flights, and leaves none. -/
theorem cancelAll_counts (steady : d.Steady) :
    d.cancelAll.1 = d.calling.length ∧ d.cancelAll.2.calling = [] := by
  have folded : ∀ (identities : List Identity) (count : Nat) (d : Issuer), d.Steady →
      let after := identities.foldl (fun state identity =>
        (state.1 + (state.2.cancel identity).1, (state.2.cancel identity).2)) (count, d)
      after.1 + after.2.calling.length = count + d.calling.length := by
    intro identities
    induction identities with
    | nil => exact fun _ _ _ => rfl
    | cons identity rest ih =>
      intro count d steady
      have next : Steps False d _ := steps_cancel steady identity
      have counted := count_cancel steady identity
      have later := ih (count + (d.cancel identity).1) _ next.steady
      simp only [List.foldl_cons] at later ⊢
      omega
  have steps : Steps False d d.cancelAll.2 := steps_cancelAll steady
  have none := calling_eq_nil steps.steady.single (idle_cancelAll steady)
  have whole := folded d.slots.keys 0 d steady
  refine ⟨?_, none⟩
  have all : d.cancelAll.1 + d.cancelAll.2.calling.length = 0 + d.calling.length := whole
  rw [none] at all
  simpa using all

end Issuer

end Muster
