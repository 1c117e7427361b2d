import Muster.Pending

/-!
What waits at the callers' ends of a table of pending requests. A value gets there only when a
request that can still be completed is completed under its id: no other operation adds one, so the
value a caller resolves with is the value of a completion.
-/

namespace Muster.Pending

variable {α : Type}

/-- The value that waits at a caller's end. -/
def received? (p : Pending α) (id : Nat) : Option α :=
  match p.callers.find? id with
  | some ⟨.filled value, _⟩ => some value
  | _ => none

theorem received?_congr {p q : Pending α} {id : Nat}
    (same : q.callers.find? id = p.callers.find? id) : q.received? id = p.received? id := by
  simp only [received?, same]

theorem received?_eq_some {p : Pending α} {id : Nat} {value : α}
    (received : p.received? id = some value) :
    ∃ timer, p.callers.find? id = some ⟨.filled value, timer⟩ := by
  unfold received? at received
  split at received
  · rename_i other timer found
    exact ⟨timer, by rw [found, Option.some.inj received]⟩
  · cases received

theorem find?_leave (p : Pending α) (id other : Nat) (reception : Reception α) :
    (p.leave id reception).callers.find? other =
      if other = id then (p.callers.find? id).map fun caller => { caller with reception }
      else p.callers.find? other := by
  unfold leave
  cases found : p.callers.find? id with
  | some caller => simp
  | none =>
    by_cases same : other = id
    · subst same; simp [found]
    · simp [same]

theorem contains_leave (p : Pending α) (id other : Nat) (reception : Reception α) :
    (p.leave id reception).callers.contains other = p.callers.contains other := by
  unfold Table.contains
  rw [find?_leave]
  split
  · rename_i same
    subst same
    rw [Option.isSome_map]
  · rfl

@[simp] theorem nextId_leave (p : Pending α) (id : Nat) (reception : Reception α) :
    (p.leave id reception).nextId = p.nextId := by
  unfold leave; split <;> rfl

/-! ### Registering -/

theorem contains_register (p : Pending α) (id : Nat) :
    p.register.2.callers.contains id = (decide (id = p.nextId) || p.callers.contains id) := by
  by_cases same : id = p.nextId
  · subst same; simp [register, Table.contains]
  · simp [register, Table.contains, same]

theorem received?_register (p : Pending α) (id : Nat) :
    p.register.2.received? id = if id = p.nextId then none else p.received? id := by
  by_cases same : id = p.nextId
  · subst same; simp [received?, register]
  · rw [if_neg same]
    exact received?_congr (by simp [register, same])

/-! ### Completing -/

theorem complete_of_mem {p : Pending α} {id : Nat} (value : α) (waits : id ∈ p.waiting) :
    p.complete id value = (p.callers.contains id, (p.drop id).leave id (.filled value)) := by
  simp [complete, waits]

theorem complete_of_not_mem {p : Pending α} {id : Nat} (value : α) (gone : id ∉ p.waiting) :
    p.complete id value = (false, p) := by
  simp [complete, gone]

/-- A value can reach someone under the id. -/
def Outstanding (p : Pending α) (id : Nat) : Prop := id ∈ p.waiting ∧ p.callers.contains id = true

theorem complete_eq_true {p : Pending α} {id : Nat} {value : α} :
    (p.complete id value).1 = true ↔ p.Outstanding id := by
  by_cases waits : id ∈ p.waiting
  · rw [complete_of_mem value waits]
    simp [Outstanding, waits]
  · rw [complete_of_not_mem value waits]
    simp [Outstanding, waits]

@[simp] theorem nextId_complete (p : Pending α) (id : Nat) (value : α) :
    (p.complete id value).2.nextId = p.nextId := by
  unfold complete; split <;> simp [drop]

@[simp] theorem contains_complete (p : Pending α) (id other : Nat) (value : α) :
    (p.complete id value).2.callers.contains other = p.callers.contains other := by
  unfold complete
  split
  · exact contains_leave (p.drop id) id other (.filled value)
  · rfl

/-- A value that waits after a completion waited before, or is the value of the completion. -/
theorem received?_complete {p : Pending α} {id other : Nat} {value found : α}
    (received : (p.complete id value).2.received? other = some found) :
    p.received? other = some found ∨
      (other = id ∧ found = value ∧ (p.complete id value).1 = true) := by
  by_cases waits : id ∈ p.waiting
  · rw [complete_of_mem value waits] at received ⊢
    obtain ⟨timer, here⟩ := received?_eq_some received
    rw [find?_leave] at here
    by_cases same : other = id
    · rw [if_pos same] at here
      obtain ⟨caller, present, filled⟩ := Option.map_eq_some_iff.mp here
      refine .inr ⟨same, ?_, ?_⟩
      · exact (Reception.filled.inj (Caller.mk.inj filled).1).symm
      · simp only [drop] at present
        simp [Table.contains, present]
    · rw [if_neg same] at here
      exact .inl (by simp only [drop] at here; simp [received?, here])
  · rw [complete_of_not_mem value waits] at received
    exact .inl received

/-! ### Operations that leave no value -/

/-- The second table has no value and no caller that the first has not, and hands out the same
ids. -/
structure Fades (p q : Pending α) : Prop where
  nextId : q.nextId = p.nextId
  received : ∀ {id value}, q.received? id = some value → p.received? id = some value
  callers : ∀ {id}, q.callers.contains id = true → p.callers.contains id = true

theorem Fades.refl (p : Pending α) : p.Fades p := ⟨rfl, id, id⟩

theorem Fades.trans {p q r : Pending α} (first : p.Fades q) (second : q.Fades r) : p.Fades r where
  nextId := second.nextId.trans first.nextId
  received here := first.received (second.received here)
  callers here := first.callers (second.callers here)

theorem fades_leave_closed (p : Pending α) (id : Nat) : p.Fades (p.leave id .closed) := by
  refine ⟨nextId_leave .., fun {other value} received => ?_, fun {other} here => ?_⟩
  · obtain ⟨timer, here⟩ := received?_eq_some received
    rw [find?_leave] at here
    split at here
    · obtain ⟨caller, -, filled⟩ := Option.map_eq_some_iff.mp here
      cases (Caller.mk.inj filled).1
    · simp [received?, here]
  · rwa [contains_leave] at here

theorem fades_drop (p : Pending α) (id : Nat) : p.Fades (p.drop id) :=
  ⟨rfl, fun received => (received?_congr (p := p) rfl).symm.trans received, fun here => here⟩

theorem fades_forget (p : Pending α) (id : Nat) : p.Fades (p.forget id) := by
  unfold forget
  split
  · exact (fades_drop p id).trans (fades_leave_closed _ id)
  · exact .refl p

theorem fades_cancelAll (p : Pending α) : p.Fades p.cancelAll.2 := by
  have folded : ∀ (ids : List Nat) (q : Pending α), q.Fades (ids.foldl forget q) := by
    intro ids
    induction ids with
    | nil => exact .refl
    | cons id rest ih => exact fun q => (fades_forget q id).trans (ih _)
  exact folded p.waiting p

theorem fades_erase (p : Pending α) (id : Nat) :
    p.Fades { p with callers := p.callers.erase id } := by
  refine ⟨rfl, fun {other value} received => ?_, fun {other} here => ?_⟩
  · obtain ⟨timer, here⟩ := received?_eq_some received
    simp only [Table.find?_erase] at here
    split at here
    · cases here
    · simp [received?, here]
  · simp only [Table.contains, Table.find?_erase] at here
    split at here
    · cases here
    · exact here

theorem fades_abandon (p : Pending α) (id : Nat) : p.Fades (p.abandon id).2 := fades_erase p id

theorem fades_wait (p : Pending α) (id : Nat) (bound : Millis) (now : Nat) :
    p.Fades (p.wait id bound now).2 := by
  unfold wait
  split
  · rename_i reception found
    refine ⟨rfl, fun {other value} received => ?_, fun {other} here => ?_⟩
    · obtain ⟨timer, here⟩ := received?_eq_some received
      simp only [Table.find?_insert] at here
      split at here
      · rename_i same
        subst same
        have filled := (Caller.mk.inj (Option.some.inj here)).1
        simp [received?, found, filled]
      · simp [received?, here]
    · simp only [Table.contains, Table.find?_insert] at here ⊢
      split at here
      · rename_i same
        subst same
        rw [found]; rfl
      · exact here
  · exact .refl p

/-! ### Resolving -/

theorem resolve_eq_some {p q : Pending α} {id now : Nat} {result : Except WaitError α}
    (resolved : p.resolve id now = some (result, q)) :
    p.outcome? id now = some result ∧ q = { p.drop id with callers := p.callers.erase id } := by
  obtain ⟨found, outcome, same⟩ := Option.map_eq_some_iff.mp resolved
  obtain ⟨rfl, rfl⟩ := Prod.mk.inj same
  exact ⟨outcome, rfl⟩

/-- A caller that resolves with a value resolves with the value that waits for it. -/
theorem received?_of_outcome? {p : Pending α} {id now : Nat} {value : α}
    (outcome : p.outcome? id now = some (.ok value)) : p.received? id = some value := by
  unfold outcome? at outcome
  split at outcome
  · rename_i reception timer found
    split at outcome
    · rename_i held
      obtain rfl := Except.ok.inj (Option.some.inj outcome)
      simp [received?, found]
    · cases outcome
    · split at outcome
      · cases outcome
      · cases outcome
  · cases outcome

theorem fades_resolve {p q : Pending α} {id now : Nat} {result : Except WaitError α}
    (resolved : p.resolve id now = some (result, q)) : p.Fades q := by
  obtain ⟨-, rfl⟩ := resolve_eq_some resolved
  exact (fades_drop p id).trans (fades_erase _ id)

end Muster.Pending
