/-!
Runs that keep clear of some actions. If a property fails through such actions only, it holds after
a run exactly if it held before and the run avoided them.
-/

namespace Muster

variable {σ α : Type} {step : σ → α → σ} {bad : σ → α → Prop} {P Inv : σ → Prop} {s : σ}

/-- No action of the run is bad where it happens. -/
def Avoids (step : σ → α → σ) (bad : σ → α → Prop) (s : σ) : List α → Prop
  | [] => True
  | action :: rest => ¬bad s action ∧ Avoids step bad (step s action) rest

theorem Avoids.take {actions : List α} (avoids : Avoids step bad s actions) (n : Nat) :
    Avoids step bad s (actions.take n) := by
  induction actions generalizing s n with
  | nil => rwa [List.take_nil]
  | cons action rest ih =>
    cases n with
    | zero => trivial
    | succ n => exact ⟨avoids.1, ih avoids.2 n⟩

theorem holds_foldl_iff (inv : Inv s) (actions : List α)
    (kept : ∀ {s} action, Inv s → Inv (step s action))
    (fails : ∀ {s} action, Inv s → (P (step s action) ↔ P s ∧ ¬bad s action)) :
    P (actions.foldl step s) ↔ P s ∧ Avoids step bad s actions := by
  induction actions generalizing s with
  | nil => exact (and_iff_left trivial).symm
  | cons action rest ih =>
    rw [List.foldl_cons, ih (kept action inv), fails action inv, and_assoc, Avoids]

/-- If such an action breaks the property on the spot and no other does, the property holds all
along a run exactly if the run avoids them. -/
theorem holds_throughout_iff (inv : Inv s) (starts : P s) (actions : List α)
    (kept : ∀ {s} action, Inv s → Inv (step s action))
    (fails : ∀ {s} action, Inv s → P s → (P (step s action) ↔ ¬bad s action)) :
    (∀ k, P ((actions.take k).foldl step s)) ↔ Avoids step bad s actions := by
  induction actions generalizing s with
  | nil =>
    refine iff_of_true (fun k => ?_) trivial
    rw [List.take_nil]
    exact starts
  | cons action rest ih =>
    have first := fails action inv starts
    constructor
    · intro holds
      have next : P (step s action) := holds 1
      exact ⟨first.mp next, (ih (kept action inv) next).mp fun k => holds (k + 1)⟩
    · rintro ⟨clear, later⟩ k
      have next : P (step s action) := first.mpr clear
      cases k with
      | zero => exact starts
      | succ k => exact (ih (kept action inv) next).mpr later k

end Muster
