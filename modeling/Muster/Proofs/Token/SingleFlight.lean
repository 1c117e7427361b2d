import Muster.Proofs.Runs
import Muster.Proofs.Token.Flights

/-!
Single flights. While an identity has one running refresh at most and its slot records that one,
later calls join it and a cancellation aborts it. One step can break this: a cancelled flight whose
answer had come before clears, when it settles, the record of the flight that was started after it.
Without such a step every refresh is guarded for as long as it runs.
-/

namespace Muster.Issuer

variable {d e : Issuer} {action : Action}

/-- Every running refresh is the one that the slot of its identity records. -/
def Single (d : Issuer) : Prop :=
  ∀ flight identity, d.flights.find? flight = some ⟨identity, .calling⟩ →
    (d.slot identity).flight = some flight

/-- The action settles a flight while the slot records another one that is running. -/
def Strands (d : Issuer) : Action → Prop
  | .settle flight => ∃ identity result other,
      d.flights.find? flight = some ⟨identity, .decided result⟩ ∧
      (d.slot identity).flight = some other ∧
      d.flights.find? other = some ⟨identity, .calling⟩
  | _ => False

def Orderly (d : Issuer) (actions : List Action) : Prop := Avoids step Strands d actions

theorem single_of_moves (single : d.Single) (moves : d.Moves e action)
    (orderly : ¬d.Strands action) : e.Single := by
  intro flight identity running
  cases moves with
  | rests _ same => rw [same] at running ⊢; exact single flight identity running
  | takesOff owner now idle slots flights started =>
    rw [flights] at running
    rw [slots]
    split at running
    · rename_i same
      obtain ⟨rfl, -⟩ := Flight.mk.inj (Option.some.inj running)
      rw [if_pos rfl, same]
    · have recorded := single flight identity running
      rw [if_neg, recorded]
      rintro rfl
      cases idle.symm.trans recorded
  | goesOn _ number owner before after found next slots flights =>
    rw [flights] at running
    rw [slots]
    split at running
    · obtain ⟨-, rfl⟩ := Flight.mk.inj (Option.some.inj running)
      cases next
    · exact single flight identity running
  | settles number owner result found slots flights =>
    rw [flights] at running
    rw [slots]
    split at running
    · cases running
    · have recorded := single flight identity running
      -- settling clears the slot of its identity, whichever flight that records
      rw [if_neg, recorded]
      rintro rfl
      exact orderly ⟨identity, result, flight, found, recorded, running⟩
  | cancels owner number held landed slots flights =>
    rw [flights] at running
    rw [slots]
    have recorded := single flight identity running
    rw [if_neg, recorded]
    rintro rfl
    obtain rfl := Option.some.inj (held.symm.trans recorded)
    exact landed identity running
  | aborts owner other number held found slots flights =>
    rw [flights] at running
    rw [slots]
    split at running
    · cases running
    · rename_i apart
      have recorded := single flight identity running
      rw [if_neg, recorded]
      rintro rfl
      exact apart (Option.some.inj (recorded.symm.trans held))

theorem not_single_of_strands (strands : d.Strands action) : ¬(d.step action).Single := by
  intro single
  cases action with
  | settle flight =>
    obtain ⟨identity, result, other, found, recorded, running⟩ := strands
    have apart : other ≠ flight := by
      rintro rfl
      cases found.symm.trans running
    have still : (d.settle flight).flights.find? other = some ⟨identity, .calling⟩ := by
      rw [find?_settle found, if_neg apart]
      exact running
    have cleared : ((d.settle flight).slot identity).flight = some other :=
      single other identity still
    rw [slot_settle found, if_pos rfl] at cleared
    cases cleared
  | _ => exact strands

theorem single_take_iff (d : Issuer) (actions : List Action) :
    (∀ n, (d.run (actions.take n)).Single) ↔ d.Single ∧ d.Orderly actions := by
  induction actions generalizing d with
  | nil => exact ⟨fun all => ⟨all 0, trivial⟩, fun both n => by simpa [run] using both.1⟩
  | cons action rest ih =>
    constructor
    · intro all
      have next : ∀ n, ((d.step action).run (rest.take n)).Single := fun n => all (n + 1)
      refine ⟨all 0, fun strands => not_single_of_strands strands (next 0), ?_⟩
      exact ((ih (d.step action)).mp next).2
    · rintro ⟨single, orderly, later⟩ n
      cases n with
      | zero => exact single
      | succ n =>
        have next := single_of_moves single (d.step_moves action) orderly
        exact (ih (d.step action)).mpr ⟨next, later⟩ n

/-! ### Joining and aborting -/

theorem join_of_recorded {identity : Identity} {flight : Nat}
    (recorded : (d.slot identity).flight = some flight) : d.join identity = (flight, d) := by
  simp only [join, recorded]

theorem cancel_of_running {identity : Identity} {flight : Nat}
    (recorded : (d.slot identity).flight = some flight)
    (running : d.flights.find? flight = some ⟨identity, .calling⟩) :
    (d.cancel identity).2.flights.find? flight = some ⟨identity, .aborted⟩ := by
  simp only [cancel, recorded, flights_setSlot, running]
  rw [find?_setPhase (d := d.setSlot identity _) running, if_pos rfl]

theorem aborted_step (moves : d.Moves e action) (formed : d.Formed) {identity : Identity}
    {flight : Nat} (aborted : d.flights.find? flight = some ⟨identity, .aborted⟩) :
    e.flights.find? flight = some ⟨identity, .aborted⟩ :=
  (flies_of_moves formed moves flight).final aborted trivial

theorem kept_by_cancel (formed : d.Formed) {identity other : Identity} {flight : Nat}
    (apart : other ≠ identity) (recorded : (d.slot other).flight = some flight)
    (running : d.flights.find? flight = some ⟨other, .calling⟩) :
    ((d.cancel identity).2.slot other).flight = some flight ∧
      (d.cancel identity).2.flights.find? flight = some ⟨other, .calling⟩ := by
  cases d.moves_cancel identity with
  | rests _ same => rw [same]; exact ⟨recorded, running⟩
  | goesOn _ _ _ _ _ _ next => cases next
  | cancels _ number held landed slots flights =>
    rw [slots, if_neg apart, flights]
    exact ⟨recorded, running⟩
  | aborts _ owner number held found slots flights =>
    rw [slots, if_neg apart, flights,
      if_neg (formed.apart found (formed.owner held found) apart recorded)]
    exact ⟨recorded, running⟩

theorem aborted_of_cancels (identities : List Identity) (formed : d.Formed) {identity : Identity}
    {flight : Nat} (recorded : (d.slot identity).flight = some flight)
    (running : d.flights.find? flight = some ⟨identity, .calling⟩)
    (member : identity ∈ identities) :
    (identities.foldl (fun d identity => (d.cancel identity).2) d).flights.find? flight =
      some ⟨identity, .aborted⟩ := by
  have stays : ∀ (identities : List Identity) (d : Issuer), d.Formed →
      d.flights.find? flight = some ⟨identity, .aborted⟩ →
      (identities.foldl (fun d identity => (d.cancel identity).2) d).flights.find? flight =
        some ⟨identity, .aborted⟩ := by
    intro identities
    induction identities with
    | nil => exact fun d _ aborted => aborted
    | cons other rest ih =>
      intro d formed aborted
      have moves := d.moves_cancel other
      exact ih _ (formed_step formed moves) (aborted_step moves formed aborted)
  induction identities generalizing d with
  | nil => cases member
  | cons other rest ih =>
    have next := formed_step formed (d.moves_cancel other)
    by_cases same : identity = other
    · subst same
      exact stays rest _ next (cancel_of_running recorded running)
    · have later := (List.mem_cons.mp member).resolve_left same
      obtain ⟨recorded, running⟩ := kept_by_cancel formed same recorded running
      exact ih next recorded running later

theorem cancelAll_eq (d : Issuer) :
    d.cancelAll.2 = d.slots.keys.foldl (fun d identity => (d.cancel identity).2) d := by
  have folded : ∀ (identities : List Identity) (acc : Nat × Issuer),
      (identities.foldl (fun acc identity =>
        (acc.1 + (acc.2.cancel identity).1, (acc.2.cancel identity).2)) acc).2 =
      identities.foldl (fun d identity => (d.cancel identity).2) acc.2 := by
    intro identities
    induction identities with
    | nil => exact fun _ => rfl
    | cons identity rest ih => exact fun acc => ih _
  exact folded d.slots.keys (0, d)

theorem aborted_of_cancelAll (formed : d.Formed) {identity : Identity} {flight : Nat}
    (recorded : (d.slot identity).flight = some flight)
    (running : d.flights.find? flight = some ⟨identity, .calling⟩) :
    d.cancelAll.2.flights.find? flight = some ⟨identity, .aborted⟩ := by
  rw [cancelAll_eq]
  refine aborted_of_cancels _ formed recorded running ?_
  cases found : d.slots.find? identity with
  | some slot => exact Table.mem_keys_of_find? found
  | none =>
    rw [slot, found] at recorded
    cases recorded

/-! ### Guarded refreshes -/

/-- The refresh is the only one of its identity, calls join it, and a cancellation aborts it. -/
structure Guarded (d : Issuer) (flight : Nat) (identity : Identity) : Prop where
  recorded : (d.slot identity).flight = some flight
  alone : ∀ other, d.flights.find? other = some ⟨identity, .calling⟩ → other = flight
  joined : d.join identity = (flight, d)
  aborted : d.cancelAll.2.flights.find? flight = some ⟨identity, .aborted⟩

theorem Single.guarded (single : d.Single) (formed : d.Formed) {flight : Nat} {identity : Identity}
    (running : d.flights.find? flight = some ⟨identity, .calling⟩) :
    d.Guarded flight identity where
  recorded := single flight identity running
  alone other rival := by
    have recorded := single flight identity running
    exact Option.some.inj ((single other identity rival).symm.trans recorded)
  joined := join_of_recorded (single flight identity running)
  aborted := aborted_of_cancelAll formed (single flight identity running) running

/-- Refreshes are guarded for as long as they run exactly if no flight settles while the slot of
its identity records another one that is running. -/
theorem guarded_iff_orderly (policy : TokenPolicy) (actions : List Action) :
    (∀ n flight identity, (run { policy } (actions.take n)).flights.find? flight =
        some ⟨identity, .calling⟩ →
      (run { policy } (actions.take n)).Guarded flight identity) ↔
    Orderly { policy } actions := by
  have empty : Single { policy } := nofun
  constructor
  · intro guarded
    refine ((single_take_iff { policy } actions).mp fun n flight identity running => ?_).2
    exact (guarded n flight identity running).recorded
  · intro orderly n flight identity running
    have single := (single_take_iff { policy } actions).mpr ⟨empty, orderly⟩ n
    exact single.guarded (formed_run (formed_empty policy) _) running

/-- The first refresh has failed when it is cancelled, and settles after the second one began. -/
def lateSettle : List Action :=
  [.enter "a" 0, .answer 0 (.error "down") 0, .cancel "a", .enter "a" 0, .settle 0, .enter "a" 0]

theorem two_refreshes_at_once :
    (run {} lateSettle).calling = [(1, "a"), (2, "a")] ∧ ¬Orderly {} lateSettle := by
  refine ⟨by decide, fun orderly => orderly.2.2.2.2.1 ⟨"a", ?_⟩⟩
  exact ⟨.error (.refreshFailed "a" "down"), 1, by decide, by decide, by decide⟩

end Muster.Issuer
