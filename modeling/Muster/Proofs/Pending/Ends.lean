import Muster.Proofs.Standing

/-!
The two ends of one request. A table of pending requests is made of its requests: what an action
does to a request depends on that request alone, and only opening it makes it out of nothing.
-/

namespace Muster

/-- Whether a request can still be completed, and its caller's end if that is still there. -/
structure Ends (α : Type) where
  answering : Bool := false
  caller : Option (Caller α) := none
deriving DecidableEq

namespace Ends

variable {α : Type}

def opened : Ends α := ⟨true, some {}⟩

/-- The answering end goes away and leaves something at the caller's end. -/
def leave (e : Ends α) (reception : Reception α) : Ends α :=
  if e.answering then ⟨false, e.caller.map fun caller => { caller with reception }⟩ else e

/-- The caller waits under the first timer that it gets. -/
def wait (e : Ends α) (bound : Millis) (now : Nat) : Ends α :=
  { e with caller := e.caller.map fun caller =>
      { caller with timer := caller.timer.or (some ⟨bound, now + bound.toNat⟩) } }

def outcome? (e : Ends α) (now : Nat) : Option (Except WaitError α) :=
  match e.caller with
  | some { reception, timer := some timer } =>
    match reception with
    | .filled value => some (.ok value)
    | .closed => some (.error .cancelled)
    | .open => if timer.deadline ≤ now then some (.error (.timeout timer.bound)) else none
  | _ => none

/-- A caller that resolves is gone, and with it the answering end. -/
def resolve (e : Ends α) (now : Nat) : Ends α := if (e.outcome? now).isSome then {} else e

def abandon (e : Ends α) : Ends α := { e with caller := none }

/-- What an action does to the request of an id. -/
def step (id : Nat) (e : Ends α) : Pending.Action α → Ends α
  | .register => e
  | .wait other bound now => if id = other then e.wait bound now else e
  | .complete other value => if id = other then e.leave (.filled value) else e
  | .forget other => if id = other then e.leave .closed else e
  | .cancelAll => e.leave .closed
  | .abandon other => if id = other then e.abandon else e
  | .resolve other now => if id = other then e.resolve now else e

end Ends

namespace Pending

variable {α : Type} {p : Pending α}

def ends (p : Pending α) (id : Nat) : Ends α := ⟨id ∈ p.waiting, p.callers.find? id⟩

theorem outcome?_eq (p : Pending α) (id now : Nat) : p.outcome? id now = (p.ends id).outcome? now :=
  rfl

theorem mem_waiting_iff {id : Nat} : id ∈ p.waiting ↔ (p.ends id).answering = true := by
  simp [ends]

/-! ### One request and the others -/

theorem ends_register (p : Pending α) (id : Nat) :
    p.register.2.ends id = if id = p.nextId then .opened else p.ends id := by
  by_cases same : id = p.nextId
  · subst same; simp [ends, register, Ends.opened]
  · simp [ends, register, same]

theorem ends_leave_drop (p : Pending α) (id other : Nat) (reception : Reception α) :
    ((p.drop id).leave id reception).ends other =
      if other = id then
        ⟨false, (p.callers.find? id).map fun caller => { caller with reception }⟩
      else p.ends other := by
  simp only [ends, waiting_leave, find?_leave, drop, List.mem_filter]
  by_cases same : other = id
  · subst same; simp
  · simp [same]

theorem ends_complete (p : Pending α) (id other : Nat) (value : α) :
    (p.complete id value).2.ends other =
      if other = id then (p.ends id).leave (.filled value) else p.ends other := by
  by_cases waits : id ∈ p.waiting
  · rw [complete_of_mem value waits, ends_leave_drop]
    simp [Ends.leave, ends, waits]
  · rw [complete_of_not_mem value waits]
    by_cases same : other = id
    · subst same; simp [Ends.leave, ends, waits]
    · rw [if_neg same]

theorem ends_forget (p : Pending α) (id other : Nat) :
    (p.forget id).ends other = if other = id then (p.ends id).leave .closed else p.ends other := by
  unfold forget
  split
  · rename_i waits
    rw [ends_leave_drop]
    simp [Ends.leave, ends, waits]
  · rename_i gone
    by_cases same : other = id
    · subst same; simp [Ends.leave, ends, gone]
    · rw [if_neg same]

theorem ends_cancelAll (p : Pending α) (id : Nat) :
    p.cancelAll.2.ends id = (p.ends id).leave .closed := by
  have folded : ∀ (ids : List Nat) (p : Pending α), (ids.foldl forget p).ends id =
      if id ∈ ids then (p.ends id).leave .closed else p.ends id := by
    intro ids
    induction ids with
    | nil => exact fun p => (if_neg List.not_mem_nil).symm
    | cons first rest ih =>
      intro p
      rw [List.foldl_cons, ih, ends_forget]
      by_cases same : id = first
      · subst same
        -- a request that is given up twice was given up the first time
        by_cases waits : (p.ends id).answering = true <;> simp [Ends.leave, waits]
      · simp [same]
  rw [show p.cancelAll.2 = p.waiting.foldl forget p from rfl, folded]
  by_cases waits : id ∈ p.waiting
  · rw [if_pos waits]
  · simp [Ends.leave, ends, waits]

theorem ends_wait (p : Pending α) (id other : Nat) (bound : Millis) (now : Nat) :
    (p.wait id bound now).2.ends other =
      if other = id then (p.ends id).wait bound now else p.ends other := by
  unfold wait
  by_cases same : other = id
  · subst same
    cases found : p.callers.find? other with
    | none => simp [ends, Ends.wait, found]
    | some caller =>
      obtain ⟨reception, timer⟩ := caller
      cases timer <;> simp [ends, Ends.wait, found]
  · rw [if_neg same]
    split <;> simp [ends, same]

theorem ends_abandon (p : Pending α) (id other : Nat) :
    (p.abandon id).2.ends other = if other = id then (p.ends id).abandon else p.ends other := by
  simp only [ends, abandon, Table.find?_erase]
  split
  · rename_i same
    subst same
    rfl
  · rfl

theorem ends_resolve (p : Pending α) (id other now : Nat) :
    (((p.resolve id now).map (·.2)).getD p).ends other =
      if other = id then (p.ends id).resolve now else p.ends other := by
  unfold resolve Ends.resolve
  rw [outcome?_eq]
  cases (p.ends id).outcome? now with
  | none =>
    by_cases same : other = id
    · subst same; simp
    · simp [same]
  | some result =>
    by_cases same : other = id
    · subst same; simp [ends, drop]
    · simp [ends, drop, same]

theorem ends_step {id : Nat} {action : Action α} (apart : action = .register → id ≠ p.nextId) :
    (p.step action).ends id = (p.ends id).step id action := by
  -- an action on another request leaves this one alone
  have own : ∀ {other : Nat} (f : Ends α → Ends α),
      (if id = other then f (p.ends other) else p.ends id) =
        if id = other then f (p.ends id) else p.ends id := by
    intro other f
    split
    · rename_i same
      rw [same]
    · rfl
  cases action with
  | register => exact (ends_register p id).trans (if_neg (apart rfl))
  | wait other bound now => exact (ends_wait p other id bound now).trans (own (·.wait bound now))
  | complete other value =>
    exact (ends_complete p other id value).trans (own (·.leave (.filled value)))
  | forget other => exact (ends_forget p other id).trans (own (·.leave .closed))
  | cancelAll => exact ends_cancelAll p id
  | abandon other => exact (ends_abandon p other id).trans (own (·.abandon))
  | resolve other now => exact (ends_resolve p other id now).trans (own (·.resolve now))

end Pending

end Muster
