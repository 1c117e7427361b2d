import Muster.Barrier

/-!
A barrier opens once after it was locked: the first call that can open it does, and the calls after
that change nothing until it is locked again.
-/

namespace Muster.Barrier

/-- The number of users that comes with a call. -/
def Action.users? : Action → Option Nat
  | .release users => some users
  | .acquire | .forceRelease => none

def after (b : Barrier) (actions : List Action) : Barrier :=
  actions.foldl (fun b action => (b.step action).2) b

/-- What the calls return, one after the other. -/
def answers (b : Barrier) : List Action → List Bool
  | [] => []
  | action :: rest => (b.step action).1 :: (b.step action).2.answers rest

variable {b : Barrier} {action : Action} {before calls : List Action}

theorem step_of_open (isOpen : b.isOpen = true) (opens : action ≠ .acquire) :
    b.step action = (false, b) := by
  cases action with
  | acquire => exact absurd rfl opens
  | release | forceRelease => exact if_pos isOpen

theorem step_of_locked (locked : b.isOpen = false) (opens : action ≠ .acquire) :
    b.step action = (true, ⟨true, action.users?⟩) := by
  have shut : ¬b.isOpen = true := Bool.eq_false_iff.mp locked
  cases action with
  | acquire => exact absurd rfl opens
  | release | forceRelease => exact if_neg shut

theorem after_append (b : Barrier) (before calls : List Action) :
    b.after (before ++ calls) = (b.after before).after calls := List.foldl_append

/-- An open barrier is left alone. -/
theorem after_of_open (isOpen : b.isOpen = true) (opens : .acquire ∉ calls) :
    b.after calls = b ∧ b.answers calls = List.replicate calls.length false := by
  induction calls with
  | nil => exact ⟨rfl, rfl⟩
  | cons action rest ih =>
    obtain ⟨first, later⟩ := not_or.mp (mt List.mem_cons.mpr opens)
    obtain ⟨same, silent⟩ := ih later
    have left := step_of_open isOpen (Ne.symm first)
    rw [after, List.foldl_cons, answers, left]
    exact ⟨same, congrArg (false :: ·) silent⟩

/-- Before the first call, and right after a call that locks, a barrier is as it was made. -/
theorem after_of_acquired (locked : before = [] ∨ before.getLast? = some .acquire) :
    after {} before = {} := by
  rcases locked with rfl | last
  · rfl
  · obtain ⟨earlier, rfl⟩ := List.getLast?_eq_some_iff.mp last
    rw [after_append]
    rfl

/-- The first call after the barrier was locked opens it, and decides the number of users. -/
theorem after_cons_of_acquired (locked : before = [] ∨ before.getLast? = some .acquire)
    (opens : .acquire ∉ action :: calls) :
    after {} (before ++ action :: calls) = ⟨true, action.users?⟩ ∧
      answers (after {} before) (action :: calls) = true :: List.replicate calls.length false := by
  obtain ⟨first, later⟩ := not_or.mp (mt List.mem_cons.mpr opens)
  have opened : step {} action = (true, ⟨true, action.users?⟩) :=
    step_of_locked rfl (Ne.symm first)
  obtain ⟨same, silent⟩ := after_of_open (b := ⟨true, action.users?⟩) rfl later
  rw [after_append, after_of_acquired locked, after, List.foldl_cons, answers, opened]
  exact ⟨same, congrArg (true :: ·) silent⟩

/-- What calls do to a barrier that was just made or locked: the first one opens it, and all after
that return false and leave it as it is. -/
structure OpensOnce (before calls : List Action) : Prop where
  answers : answers (after {} before) calls = (List.replicate calls.length false).set 0 true
  isOpen : (after {} (before ++ calls)).isOpen = true ↔ calls ≠ []
  users : ∀ n, (after {} (before ++ calls)).users = some n ↔ calls.head? = some (.release n)
  unchanged : calls ≠ [] → ∀ action, action ≠ .acquire →
    (after {} (before ++ calls)).step action = (false, after {} (before ++ calls))

theorem opensOnce_of_acquired (locked : before = [] ∨ before.getLast? = some .acquire)
    (opens : .acquire ∉ calls) : OpensOnce before calls := by
  cases calls with
  | nil =>
    rw [← List.append_nil before] at locked
    have fresh := after_of_acquired locked
    refine ⟨rfl, ?_, fun n => ?_, fun filled => absurd rfl filled⟩ <;> rw [fresh] <;> simp
  | cons action rest =>
    obtain ⟨opened, answered⟩ := after_cons_of_acquired locked opens
    refine ⟨?_, ?_, fun n => ?_, fun _ other reopens => ?_⟩
    · rw [answered, List.length_cons, List.replicate_succ, List.set_cons_zero]
    · simp [opened]
    · rw [opened]
      cases action <;> simp [Action.users?]
    · exact step_of_open (by rw [opened]) reopens

end Muster.Barrier
