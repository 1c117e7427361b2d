import Muster.Proofs.Pending.Waits
import Muster.Proofs.Runs
import Muster.Proofs.Table

/-!
Callers that go away. The answering end of a request stays in its table when the caller is dropped,
and nothing but an answer or the answering side takes it out. A table counts the callers that wait
and these orphans.
-/

namespace Muster

namespace Ends

variable {α : Type} {id : Nat} {e : Ends α}

def Paired (e : Ends α) : Prop :=
  ∀ caller, e.caller = some caller → (caller.reception.standing = .waits ↔ e.answering = true)

/-- The request can be completed and nobody is there to get the value. -/
def Orphaned (e : Ends α) : Prop := e.answering = true ∧ e.caller = none

theorem paired_opened : (opened : Ends α).Paired := by
  intro caller here
  obtain rfl := Option.some.inj here
  exact iff_of_true rfl rfl

theorem paired_leave (paired : e.Paired) {reception : Reception α}
    (done : reception.standing ≠ .waits) : (e.leave reception).Paired := by
  rw [leave]
  split
  · rintro caller here
    obtain ⟨old, -, rfl⟩ := Option.map_eq_some_iff.mp here
    exact iff_of_false done Bool.false_ne_true
  · exact paired

theorem paired_wait (paired : e.Paired) (bound : Millis) (now : Nat) :
    (e.wait bound now).Paired := by
  rintro caller here
  obtain ⟨old, found, rfl⟩ := Option.map_eq_some_iff.mp here
  exact paired old found

theorem paired_gone : ({ e with caller := none } : Ends α).Paired := by
  intro caller here
  cases here

theorem paired_resolve (paired : e.Paired) (now : Nat) : (e.resolve now).Paired := by
  rw [resolve]
  split
  · exact paired_gone (e := {})
  · exact paired

theorem paired_step (paired : e.Paired) (action : Pending.Action α) :
    (e.step id action).Paired := by
  have own : ∀ {other : Nat} {next : Ends α}, next.Paired →
      (if id = other then next else e).Paired := by
    intro other next after
    split
    · exact after
    · exact paired
  cases action with
  | register => exact paired
  | wait other bound now => exact own (paired_wait paired bound now)
  | complete other value => exact own (paired_leave paired nofun)
  | forget other => exact own (paired_leave paired nofun)
  | cancelAll => exact paired_leave paired nofun
  | abandon other => exact own paired_gone
  | resolve other now => exact own (paired_resolve paired now)

/-- A request is orphaned when its caller is dropped, and in no other way. -/
theorem orphaned_step (tended : ¬e.Orphaned) (action : Pending.Action α) :
    (e.step id action).Orphaned ↔
      action = .abandon id ∧ e.answering = true ∧ e.caller.isSome = true := by
  have own : ∀ {other : Nat} {next : Ends α}, ¬next.Orphaned →
      ¬(if id = other then next else e).Orphaned := by
    intro other next after
    split
    · exact after
    · exact tended
  have left : ∀ reception, ¬(e.leave reception).Orphaned := by
    intro reception
    rw [leave]
    split
    · exact fun orphaned => Bool.false_ne_true orphaned.1
    · exact tended
  have called : e.answering = true → e.caller.isSome = true := by
    intro answering
    rw [Option.isSome_iff_ne_none]
    exact fun gone => tended ⟨answering, gone⟩
  cases action with
  | register => simpa [step] using tended
  | wait other bound now =>
    have waits : ¬(e.wait bound now).Orphaned := by
      intro orphaned
      exact tended ⟨orphaned.1, Option.map_eq_none_iff.mp orphaned.2⟩
    simpa [step] using own waits
  | complete other value => simpa [step] using own (left (.filled value))
  | forget other => simpa [step] using own (left .closed)
  | cancelAll => simpa [step] using left .closed
  | abandon other =>
    by_cases same : id = other
    · subst same
      have orphaned : e.abandon.Orphaned ↔ e.answering = true := and_iff_left rfl
      simpa [step, orphaned] using called
    · simpa [step, same, Ne.symm same] using tended
  | resolve other now =>
    have resolves : ¬(e.resolve now).Orphaned := by
      rw [resolve]
      split
      · exact fun orphaned => Bool.false_ne_true orphaned.1
      · exact tended
    simpa [step] using own resolves

end Ends

namespace Pending

variable {α : Type} {p : Pending α} {id : Nat}

/-- The callers that wait for an answer. -/
def awaiting (p : Pending α) : List Nat :=
  p.callers.keys.filter fun id => p.standing? id = some .waits

/-- The requests that can still be completed and have no caller. -/
def orphans (p : Pending α) : List Nat := p.waiting.filter fun id => p.standing? id = none

def Tended (p : Pending α) : Prop := ∀ id, ¬(p.ends id).Orphaned

structure Regular (p : Pending α) : Prop where
  fresh : p.Fresh
  once : p.waiting.Nodup
  paired : ∀ id, (p.ends id).Paired

theorem regular_empty : Regular ({} : Pending α) :=
  ⟨fresh_empty, List.nodup_nil, fun _ => Ends.paired_gone (e := {})⟩

theorem regular_step (regular : p.Regular) (action : Action α) : (p.step action).Regular where
  fresh := fresh_step regular.fresh action
  once := nodup_waiting regular.fresh regular.once [action]
  paired := by
    intro id
    by_cases opens : action = .register ∧ id = p.nextId
    · obtain ⟨rfl, rfl⟩ := opens
      rw [step, ends_register, if_pos rfl]
      exact Ends.paired_opened
    · rw [ends_step fun here same => opens ⟨here, same⟩]
      exact Ends.paired_step (regular.paired id) action

/-- A caller is dropped while its request can still be completed. -/
def Deserts (p : Pending α) (action : Action α) : Prop :=
  ∃ id, action = .abandon id ∧ p.Outstanding id

theorem outstanding_iff :
    p.Outstanding id ↔ (p.ends id).answering = true ∧ (p.ends id).caller.isSome = true :=
  and_congr_left' mem_waiting_iff

theorem tended_step (tended : p.Tended) (action : Action α) :
    (p.step action).Tended ↔ ¬p.Deserts action := by
  have orphaned : ∀ id, ((p.step action).ends id).Orphaned ↔
      action = .abandon id ∧ p.Outstanding id := by
    intro id
    by_cases opens : action = .register ∧ id = p.nextId
    · obtain ⟨rfl, rfl⟩ := opens
      rw [step, ends_register, if_pos rfl]
      simp [Ends.Orphaned, Ends.opened]
    · rw [ends_step fun here same => opens ⟨here, same⟩, Ends.orphaned_step (tended id),
        outstanding_iff]
  simp only [Tended, Deserts, orphaned, not_exists]

theorem tended_withdraw (tended : p.Tended) (id : Nat) :
    ((p.forget id).abandon id).2.Tended := by
  have given : (p.step (.forget id)).Tended := (tended_step tended _).mpr nofun
  refine (tended_step given (.abandon id)).mpr ?_
  -- the answering end is gone already when the caller goes
  rintro ⟨other, same, outstanding⟩
  obtain rfl := Action.abandon.inj same
  rw [outstanding_iff, step, ends_forget, if_pos rfl, Ends.leave] at outstanding
  split at outstanding
  · exact Bool.false_ne_true outstanding.1
  · rename_i gone
    exact gone outstanding.1

/-! ### Counts -/

theorem mem_awaiting : id ∈ p.awaiting ↔ p.standing? id = some .waits := by
  rw [awaiting, List.mem_filter, decide_eq_true_eq, Table.mem_keys_iff]
  refine and_iff_right_of_imp fun waits => ?_
  obtain ⟨caller, found, -⟩ := Option.map_eq_some_iff.mp waits
  rw [found]
  rfl

theorem waits_iff_paired (regular : p.Regular) :
    id ∈ p.waiting ↔ p.standing? id = some .waits ∨ id ∈ p.orphans := by
  rw [orphans, List.mem_filter, decide_eq_true_eq]
  cases found : p.callers.find? id with
  | none => simp [standing?, found]
  | some caller =>
    have paired := regular.paired id caller found
    rw [← mem_waiting_iff] at paired
    simp [standing?, found, paired]

/-- A table counts the callers that wait and the orphans. -/
theorem size_eq (regular : p.Regular) : p.size = p.awaiting.length + p.orphans.length := by
  have once : (p.awaiting ++ p.orphans).Nodup := by
    refine List.nodup_append.mpr ⟨(Table.nodup_keys _).filter _, regular.once.filter _, ?_⟩
    rintro id waits _ orphan rfl
    rw [mem_awaiting] at waits
    have gone : p.standing? id = none := by simpa using (List.mem_filter.mp orphan).2
    rw [waits] at gone
    cases gone
  have same : p.waiting.Perm (p.awaiting ++ p.orphans) := by
    refine (List.perm_ext_iff_of_nodup regular.once once).mpr fun id => ?_
    rw [List.mem_append, mem_awaiting]
    exact waits_iff_paired regular
  rw [size, same.length_eq, List.length_append]

/-- The table knows of callers that wait and of nobody else. -/
structure Attended (p : Pending α) : Prop where
  only : ∀ id ∈ p.waiting, p.standing? id = some .waits
  outstanding : p.size = p.awaiting.length
  counts : p.cancelAll.1 = p.awaiting.length
  cancels : ∀ id ∈ p.awaiting, p.cancelAll.2.Due id (.error .cancelled)

theorem due_cancelAll (regular : p.Regular) (waits : id ∈ p.awaiting) :
    p.cancelAll.2.Due id (.error .cancelled) := by
  rw [mem_awaiting] at waits
  obtain ⟨caller, found, standing⟩ := Option.map_eq_some_iff.mp waits
  have answering := (regular.paired id caller found).mp standing
  have caller' : (p.ends id).caller = some caller := found
  refine due_of_ready ?_
  rw [ends_cancelAll, Ends.leave, if_pos answering, caller']
  exact ⟨rfl, _, rfl, rfl⟩

theorem attended_iff_tended (regular : p.Regular) : p.Attended ↔ p.Tended := by
  constructor
  · rintro attended id ⟨answering, gone⟩
    have waits := attended.only id (mem_waiting_iff.mpr answering)
    have nobody : p.callers.find? id = none := gone
    rw [standing?, nobody] at waits
    cases waits
  · intro tended
    have none : p.orphans = [] := by
      refine List.filter_eq_nil_iff.mpr fun id waits => ?_
      rw [decide_eq_true_eq]
      intro gone
      exact tended id ⟨mem_waiting_iff.mp waits, Option.map_eq_none_iff.mp gone⟩
    have counted : p.size = p.awaiting.length := by rw [size_eq regular, none]; rfl
    refine ⟨fun id waits => ?_, counted, counted, fun id waits => due_cancelAll regular waits⟩
    rcases (waits_iff_paired regular).mp waits with waits | orphan
    · exact waits
    · rw [none] at orphan
      cases orphan

end Pending

end Muster
