import Muster.Proofs.Pending.Ends

/-!
How waits end. In a run where every caller stays until its wait ends, the first action that concerns
a request decides how the wait for it ends, and the table never says otherwise: an answer counts
exactly if it is that action, and the requests that can still be completed are the undecided ones.
-/

namespace Muster

namespace Pending

variable {α : Type}

/-- How an action ends the wait for a request whose caller waits under the timer, if it does. -/
def Action.ends? (id : Nat) (timer : Option Timer) : Action α → Option (Except WaitError α)
  | .complete other value => if id = other then some (.ok value) else none
  | .forget other => if id = other then some (.error .cancelled) else none
  | .cancelAll => some (.error .cancelled)
  | .resolve other now =>
    if id = other then
      (timer.filter fun timer => timer.deadline ≤ now).map fun timer =>
        .error (.timeout timer.bound)
    else none
  | .register | .wait _ _ _ | .abandon _ => none

/-- The timer of a caller after an action: the first bound that it waits within counts. -/
def Action.timer (id : Nat) (timer : Option Timer) : Action α → Option Timer
  | .wait other bound now =>
    if id = other then timer.or (some ⟨bound, now + bound.toNat⟩) else timer
  | _ => timer

/-- How the first action that concerns a request ends the wait for it. -/
def ending? (id : Nat) : Option Timer → List (Action α) → Option (Except WaitError α)
  | _, [] => none
  | timer, action :: rest => (action.ends? id timer).or (ending? id (action.timer id timer) rest)

def returned? (p : Pending α) : Action α → Option (Nat × Except WaitError α)
  | .resolve id now => (p.resolve id now).map fun done => (id, done.1)
  | _ => none

/-- The waits that end in a run and what they return, in the order they end. -/
def returns (p : Pending α) : List (Action α) → List (Nat × Except WaitError α)
  | [] => []
  | action :: rest => (p.returned? action).toList ++ returns (p.step action) rest

/-- The requests that a run opens, by id, each with what is done after that. -/
def openings (p : Pending α) : List (Action α) → List (Nat × List (Action α))
  | [] => []
  | .register :: rest => (p.register.1, rest) :: openings (p.step .register) rest
  | action :: rest => openings (p.step action) rest

/-- The requests that a run opens and that nothing has concerned since. -/
def undecided (actions : List (Action α)) : List (Nat × List (Action α)) :=
  (openings {} actions).filter fun opening => (ending? opening.1 none opening.2).isNone

end Pending

/-- What waits at a caller's end, as the caller returns it. -/
def Reception.result? {α : Type} : Reception α → Option (Except WaitError α)
  | .open => none
  | .filled value => some (.ok value)
  | .closed => some (.error .cancelled)

namespace Ends

variable {α : Type} {id : Nat} {e : Ends α} {result : Except WaitError α}

open Pending (Action ending?)

def returned? (id : Nat) (e : Ends α) : Action α → Option (Except WaitError α)
  | .resolve other now => if id = other then e.outcome? now else none
  | _ => none

def returns (id : Nat) (e : Ends α) : List (Action α) → List (Except WaitError α)
  | [] => []
  | action :: rest => (e.returned? id action).toList ++ returns id (e.step id action) rest

/-- The wait is decided, and its caller has not returned. -/
structure Ready (e : Ends α) (result : Except WaitError α) : Prop where
  answering : e.answering = false
  holds : ∃ caller, e.caller = some caller ∧ caller.reception.result? = some result

/-- The caller has not returned and will return so, or it has returned so, once. -/
def Over (id : Nat) (e : Ends α) (later : List (Action α)) (result : Except WaitError α) : Prop :=
  (Ready (later.foldl (step id) e) result ∧ e.returns id later = []) ∨
    (later.foldl (step id) e = {} ∧ e.returns id later = [result])

theorem step_gone (action : Action α) : ({} : Ends α).step id action = {} := by
  cases action <;> simp [step, wait, leave, abandon, resolve]

theorem returned?_gone (action : Action α) : ({} : Ends α).returned? id action = none := by
  cases action <;> simp [returned?, outcome?]

theorem gone_run (later : List (Action α)) :
    later.foldl (step id) ({} : Ends α) = {} ∧ ({} : Ends α).returns id later = [] := by
  induction later with
  | nil => exact ⟨rfl, rfl⟩
  | cons action rest ih =>
    rw [List.foldl_cons, returns, step_gone, returned?_gone]
    exact ih

theorem Ready.outcome? (ready : e.Ready result) {bound : Millis} {now time : Nat} :
    (e.wait bound now).outcome? time = some result := by
  obtain ⟨⟨reception, timer⟩, found, holds⟩ := ready.holds
  cases reception with
  | «open» => cases holds
  | filled | closed =>
    obtain rfl := Option.some.inj holds
    cases timer <;> simp [Ends.outcome?, wait, found]

theorem Ready.result_of_outcome? (ready : e.Ready result) {now : Nat}
    {other : Except WaitError α} (outcome : e.outcome? now = some other) : other = result := by
  obtain ⟨⟨reception, timer⟩, found, holds⟩ := ready.holds
  cases timer with
  | none => simp [Ends.outcome?, found] at outcome
  | some timer =>
    cases reception with
    | «open» => cases holds
    | filled | closed =>
      simp only [Ends.outcome?, found, Option.some.injEq] at outcome
      exact outcome.symm.trans (Option.some.inj holds)

/-- A wait that is decided stays so until its caller returns. -/
theorem Ready.step (ready : e.Ready result) {action : Action α} (stays : action ≠ .abandon id) :
    (Ready (e.step id action) result ∧ e.returned? id action = none) ∨
      (e.step id action = {} ∧ e.returned? id action = some result) := by
  have unmoved : ∀ reception, e.leave reception = e := fun reception => by
    simp [leave, ready.answering]
  cases action with
  | register => exact .inl ⟨ready, rfl⟩
  | wait other bound now =>
    refine .inl ⟨?_, rfl⟩
    by_cases own : id = other
    · obtain ⟨caller, found, holds⟩ := ready.holds
      have waiting : Ready (e.wait bound now) result :=
        ⟨ready.answering, { caller with timer := caller.timer.or _ },
          by rw [wait, found, Option.map_some], holds⟩
      simpa [Ends.step, own] using waiting
    · simpa [Ends.step, own] using ready
  | complete other value =>
    refine .inl ⟨?_, rfl⟩
    simpa [Ends.step, unmoved] using ready
  | forget other =>
    refine .inl ⟨?_, rfl⟩
    simpa [Ends.step, unmoved] using ready
  | cancelAll =>
    refine .inl ⟨?_, rfl⟩
    simpa [Ends.step, unmoved] using ready
  | abandon other =>
    have apart : id ≠ other := fun same => stays (congrArg Action.abandon same.symm)
    refine .inl ⟨?_, rfl⟩
    simpa [Ends.step, apart] using ready
  | resolve other now =>
    by_cases own : id = other
    · cases outcome : e.outcome? now with
      | none => exact .inl (by simpa [Ends.step, returned?, resolve, own, outcome] using ready)
      | some found =>
        obtain rfl := ready.result_of_outcome? outcome
        exact .inr (by simp [Ends.step, returned?, resolve, own, outcome])
    · exact .inl (by simpa [Ends.step, returned?, own] using ready)

theorem Ready.isOver (ready : e.Ready result) {later : List (Action α)}
    (stays : .abandon id ∉ later) : Over id e later result := by
  induction later generalizing e with
  | nil => exact .inl ⟨ready, rfl⟩
  | cons action rest ih =>
    rw [List.mem_cons, not_or] at stays
    rw [Over, List.foldl_cons, returns]
    rcases ready.step (Ne.symm stays.1) with ⟨next, silent⟩ | ⟨gone, returned⟩
    · rw [silent]
      exact ih next stays.2
    · rw [gone, returned, (gone_run rest).1, (gone_run rest).2]
      exact .inr ⟨rfl, rfl⟩

/-- A request that nothing has concerned: its caller waits under the timer, or does not yet. -/
def undecided (timer : Option Timer) : Ends α := ⟨true, some ⟨.open, timer⟩⟩

theorem ready_leave {timer : Option Timer} {reception : Reception α}
    (holds : reception.result? = some result) : Ready ((undecided timer).leave reception) result :=
  ⟨rfl, _, rfl, holds⟩

/-- An action that concerns an undecided request decides it; any other sets its timer at most. -/
theorem step_undecided {timer : Option Timer} {action : Action α} (stays : action ≠ .abandon id) :
    match action.ends? id timer with
    | none => (undecided timer).step id action = undecided (action.timer id timer) ∧
        (undecided timer).returned? id action = none
    | some result =>
      (Ready ((undecided timer).step id action) result ∧
          (undecided timer).returned? id action = none) ∨
        ((undecided timer).step id action = {} ∧
          (undecided timer).returned? id action = some result) := by
  cases action with
  | register => exact ⟨rfl, rfl⟩
  | wait other bound now =>
    by_cases own : id = other
    · simp [Action.ends?, Action.timer, own, Ends.step, returned?, undecided, wait]
    · simp [Action.ends?, Action.timer, own, Ends.step, returned?]
  | complete other value =>
    by_cases own : id = other
    · simpa [Action.ends?, own, Ends.step, returned?] using ready_leave rfl
    · simp [Action.ends?, Action.timer, own, Ends.step, returned?]
  | forget other =>
    by_cases own : id = other
    · simpa [Action.ends?, own, Ends.step, returned?] using ready_leave rfl
    · simp [Action.ends?, Action.timer, own, Ends.step, returned?]
  | cancelAll => exact .inl ⟨ready_leave rfl, rfl⟩
  | abandon other =>
    have apart : id ≠ other := fun same => stays (congrArg Action.abandon same.symm)
    simp [Action.ends?, Action.timer, apart, Ends.step, returned?]
  | resolve other now =>
    by_cases own : id = other
    · cases timer with
      | none =>
        simp [Action.ends?, Action.timer, own, Ends.step, returned?, resolve, outcome?, undecided]
      | some timer =>
        have outcome : (undecided (some timer) : Ends α).outcome? now =
            if timer.deadline ≤ now then some (.error (.timeout timer.bound)) else none := rfl
        by_cases due : timer.deadline ≤ now <;>
          simp [Action.ends?, Action.timer, own, Ends.step, returned?, resolve, outcome, due,
            Option.filter_some]
    · simp [Action.ends?, Action.timer, own, Ends.step, returned?]

/-- The first action that concerns a request decides the wait for it. -/
theorem over_of_ending? {timer : Option Timer} {later : List (Action α)}
    (stays : .abandon id ∉ later) :
    match ending? id timer later with
    | none => ∃ last, later.foldl (step id) (undecided timer) = undecided last ∧
        (undecided timer).returns id later = []
    | some result => Over id (undecided timer) later result := by
  induction later generalizing timer with
  | nil => exact ⟨timer, rfl, rfl⟩
  | cons action rest ih =>
    rw [List.mem_cons, not_or] at stays
    have first := @step_undecided α id timer action (Ne.symm stays.1)
    rw [ending?]
    -- the first action leaves the request undecided, or decides it for good
    cases ends : action.ends? id timer with
    | none =>
      rw [ends] at first
      obtain ⟨next, silent⟩ := first
      simp only [Option.none_or, Over, List.foldl_cons, returns, next, silent]
      exact ih stays.2
    | some result =>
      rw [ends] at first
      rw [Option.some_or]
      rcases first with ⟨ready, silent⟩ | ⟨gone, returned⟩
      · simp only [Over, List.foldl_cons, returns, silent]
        exact ready.isOver stays.2
      · obtain ⟨absent, still⟩ := @gone_run α id rest
        simp only [Over, List.foldl_cons, returns, gone, returned, absent, still]
        exact .inr ⟨trivial, rfl⟩

end Ends

namespace Pending

variable {α : Type} {p : Pending α} {id : Nat} {actions later : List (Action α)}

def results (p : Pending α) (actions : List (Action α)) (id : Nat) : List (Except WaitError α) :=
  ((returns p actions).filter fun row => row.1 = id).map Prod.snd

def after (actions : List (Action α)) : Pending α := actions.foldl step {}

/-! ### One request of a run -/

theorem nextId_register (p : Pending α) : (p.step .register).nextId = p.nextId + 1 := rfl

theorem nextId_step {action : Action α} (other : action ≠ .register) :
    (p.step action).nextId = p.nextId := by
  cases action with
  | register => exact absurd rfl other
  | wait id bound now => exact (fades_wait p id bound now).nextId
  | complete id value => exact nextId_complete p id value
  | forget id => exact (fades_forget p id).nextId
  | cancelAll => exact (fades_cancelAll p).nextId
  | abandon id => rfl
  | resolve id now =>
    rw [step]
    cases resolved : p.resolve id now with
    | none => rfl
    | some done => exact (fades_resolve resolved).nextId

theorem nextId_le_step (p : Pending α) (action : Action α) :
    p.nextId ≤ (p.step action).nextId := by
  by_cases opens : action = .register
  · rw [opens, nextId_register]
    omega
  · exact Nat.le_of_eq (nextId_step opens).symm

theorem results_cons (p : Pending α) (action : Action α) (rest : List (Action α)) (id : Nat) :
    results p (action :: rest) id =
      ((p.ends id).returned? id action).toList ++ results (p.step action) rest id := by
  have own : ((p.returned? action).toList.filter fun row => row.1 = id).map Prod.snd =
      ((p.ends id).returned? id action).toList := by
    cases action with
    | resolve other now =>
      rw [returned?, Ends.returned?, resolve, outcome?_eq]
      by_cases same : id = other
      · subst same
        cases (p.ends id).outcome? now <;> simp
      · cases (p.ends other).outcome? now <;> simp [same, Ne.symm same]
    | register | wait | complete | forget | cancelAll | abandon => rfl
  rw [results, returns, List.filter_append, List.map_append, own, results]

theorem ends_run (known : id < p.nextId) (actions : List (Action α)) :
    (actions.foldl step p).ends id = actions.foldl (Ends.step id) (p.ends id) ∧
      results p actions id = (p.ends id).returns id actions := by
  induction actions generalizing p with
  | nil => exact ⟨rfl, rfl⟩
  | cons action rest ih =>
    have next : (p.step action).ends id = (p.ends id).step id action :=
      ends_step fun _ => Nat.ne_of_lt known
    have still : id < (p.step action).nextId := Nat.lt_of_lt_of_le known (nextId_le_step p action)
    rw [List.foldl_cons, List.foldl_cons, results_cons, Ends.returns, ← next]
    exact ⟨(ih still).1, congrArg _ (ih still).2⟩

/-- Nothing is known of the ids that have not been handed out. -/
def Fresh (p : Pending α) : Prop := ∀ id, p.nextId ≤ id → p.ends id = {}

theorem fresh_step (fresh : p.Fresh) (action : Action α) : (p.step action).Fresh := by
  intro id above
  have old : p.nextId ≤ id := Nat.le_trans (nextId_le_step p action) above
  rw [ends_step, fresh id old, Ends.step_gone]
  rintro rfl same
  rw [nextId_register] at above
  omega

theorem fresh_empty : Fresh ({} : Pending α) := fun _ _ => rfl

/-! ### The requests that a run opens -/

theorem openings_cons {action : Action α} (other : action ≠ .register) (rest : List (Action α)) :
    openings p (action :: rest) = openings (p.step action) rest := by
  cases action with
  | register => exact absurd rfl other
  | wait | complete | forget | cancelAll | abandon | resolve => rfl

theorem ids_openings (p : Pending α) (actions : List (Action α)) :
    (openings p actions).map Prod.fst = List.range' p.nextId (openings p actions).length ∧
      (actions.foldl step p).nextId = p.nextId + (openings p actions).length := by
  induction actions generalizing p with
  | nil => exact ⟨rfl, rfl⟩
  | cons action rest ih =>
    by_cases opens : action = .register
    · subst opens
      obtain ⟨ids, next⟩ := ih (p.step .register)
      rw [nextId_register] at ids next
      simp only [openings, List.map_cons, List.length_cons, List.range'_succ, List.foldl_cons]
      exact ⟨congrArg _ ids, by omega⟩
    · obtain ⟨ids, next⟩ := ih (p.step action)
      rw [nextId_step opens] at ids next
      rw [openings_cons opens, List.foldl_cons]
      exact ⟨ids, next⟩

/-- A request that a run opens goes its own way from then on. -/
theorem ends_of_opening (fresh : p.Fresh) (opened : (id, later) ∈ openings p actions) :
    (actions.foldl step p).ends id = later.foldl (Ends.step id) .opened ∧
      results p actions id = Ends.opened.returns id later ∧ later <:+ actions := by
  induction actions generalizing p with
  | nil => cases opened
  | cons action rest ih =>
    have unknown : p.nextId ≤ id := by
      have member := List.mem_map_of_mem (f := Prod.fst) opened
      rw [(ids_openings p _).1, List.mem_range'_1] at member
      exact member.1
    -- nothing comes of the request before it is opened
    have silent : results p (action :: rest) id = results (p.step action) rest id := by
      rw [results_cons, fresh id unknown, Ends.returned?_gone]
      rfl
    have deeper : (id, later) ∈ openings (p.step action) rest →
        (rest.foldl step (p.step action)).ends id = later.foldl (Ends.step id) .opened ∧
          results p (action :: rest) id = Ends.opened.returns id later ∧
            later <:+ action :: rest := by
      intro member
      obtain ⟨last, same, suffixed⟩ := ih (fresh_step fresh action) member
      exact ⟨last, silent.trans same, suffixed.trans (List.suffix_cons action rest)⟩
    by_cases opens : action = .register
    · subst opens
      rcases List.mem_cons.mp opened with here | member
      · obtain ⟨handed, rfl⟩ := Prod.mk.inj here
        obtain rfl : id = p.nextId := handed
        have known : p.nextId < (p.step .register).nextId := Nat.lt_succ_self _
        have own : (p.step .register).ends p.nextId = .opened := by
          rw [step, ends_register, if_pos rfl]
        obtain ⟨last, same⟩ := ends_run known later
        rw [silent, same, List.foldl_cons, last, own]
        exact ⟨rfl, rfl, List.suffix_cons _ _⟩
      · exact deeper member
    · rw [openings_cons opens] at opened
      exact deeper opened

theorem mem_openings_step {action : Action α} {rest : List (Action α)}
    (member : id ∈ (openings (p.step action) rest).map Prod.fst) :
    id ∈ (openings p (action :: rest)).map Prod.fst := by
  cases action with
  | register => exact List.mem_cons_of_mem _ member
  | wait | complete | forget | cancelAll | abandon | resolve => exact member

/-- A run knows nothing of a request that it does not open. -/
theorem gone_of_unopened (gone : p.ends id = {})
    (unopened : id ∉ (openings p actions).map Prod.fst) :
    (actions.foldl step p).ends id = {} ∧ results p actions id = [] := by
  induction actions generalizing p with
  | nil => exact ⟨gone, rfl⟩
  | cons action rest ih =>
    have apart : action = .register → id ≠ p.nextId := by
      rintro rfl rfl
      exact unopened List.mem_cons_self
    have next : (p.step action).ends id = {} := by
      rw [ends_step apart, gone, Ends.step_gone]
    rw [List.foldl_cons, results_cons, gone, Ends.returned?_gone]
    exact ih next fun member => unopened (mem_openings_step member)

/-! ### Who waits -/

theorem waiting_step {action : Action α} (other : action ≠ .register) :
    (p.step action).waiting.Sublist p.waiting := by
  have forgets : ∀ (p : Pending α) (id : Nat), (p.forget id).waiting.Sublist p.waiting := by
    intro p id
    unfold forget
    split
    · rw [waiting_leave]
      exact List.filter_sublist
    · exact .refl _
  cases action with
  | register => exact absurd rfl other
  | wait id bound now =>
    simp only [step, wait]
    split <;> exact .refl _
  | complete id value =>
    simp only [step, complete]
    split
    · rw [waiting_leave]
      exact List.filter_sublist
    · exact .refl _
  | forget id => exact forgets p id
  | cancelAll =>
    have folded : ∀ (ids : List Nat) (p : Pending α),
        (ids.foldl forget p).waiting.Sublist p.waiting := by
      intro ids
      induction ids with
      | nil => exact fun p => .refl _
      | cons first rest ih => exact fun p => (ih _).trans (forgets p first)
    exact folded p.waiting p
  | abandon id => exact .refl _
  | resolve id now =>
    rw [step]
    cases resolved : p.resolve id now with
    | none => exact .refl _
    | some done =>
      obtain ⟨-, last⟩ := resolve_eq_some resolved
      rw [Option.map_some, Option.getD_some, last]
      exact List.filter_sublist

theorem nodup_waiting (fresh : p.Fresh) (once : p.waiting.Nodup) (actions : List (Action α)) :
    (actions.foldl step p).waiting.Nodup := by
  induction actions generalizing p with
  | nil => exact once
  | cons action rest ih =>
    refine ih (fresh_step fresh action) ?_
    -- only opening a request adds an id, and that has not been used
    by_cases opens : action = .register
    · subst opens
      have unused : p.nextId ∉ p.waiting := by
        rw [mem_waiting_iff, fresh p.nextId (Nat.le_refl _)]
        exact nofun
      refine List.nodup_append.mpr ⟨once, List.pairwise_singleton _ _, ?_⟩
      rintro id member other here rfl
      rw [List.mem_singleton.mp here] at member
      exact unused member
    · exact (waiting_step opens).nodup once

theorem mem_undecided : (id, later) ∈ undecided actions ↔
    (id, later) ∈ openings {} actions ∧ ending? id none later = none := by
  rw [undecided, List.mem_filter, Option.isNone_iff_eq_none]

theorem nodup_undecided (actions : List (Action α)) :
    ((undecided actions).map Prod.fst).Nodup := by
  refine List.Nodup.sublist (List.filter_sublist.map Prod.fst) ?_
  rw [(ids_openings {} actions).1]
  exact List.nodup_range'

section Kept

variable (kept : ∀ id, .abandon id ∉ actions)
include kept

theorem over_of_opening (opened : (id, later) ∈ openings {} actions) :
    match ending? id none later with
    | none => ∃ timer, (after actions).ends id = .undecided timer ∧ results {} actions id = []
    | some result => (Ends.Ready ((after actions).ends id) result ∧ results {} actions id = []) ∨
        ((after actions).ends id = {} ∧ results {} actions id = [result]) := by
  obtain ⟨last, returned, suffixed⟩ := ends_of_opening fresh_empty opened
  have stays : Action.abandon id ∉ later := fun member => kept id (suffixed.subset member)
  rw [after, last, returned]
  exact Ends.over_of_ending? stays

theorem ends_of_undecided (member : id ∈ (undecided actions).map Prod.fst) :
    ∃ timer, (after actions).ends id = .undecided timer := by
  obtain ⟨⟨_, later⟩, here, rfl⟩ := List.mem_map.mp member
  obtain ⟨opened, ending⟩ := mem_undecided.mp here
  have fate := over_of_opening kept opened
  rw [ending] at fate
  exact fate.imp fun _ here => here.1

/-- The requests that can still be completed are those that nothing has concerned. -/
theorem mem_waiting_iff_undecided :
    id ∈ (after actions).waiting ↔ id ∈ (undecided actions).map Prod.fst := by
  rw [mem_waiting_iff]
  constructor
  · intro answering
    have opened : id ∈ (openings {} actions).map Prod.fst := by
      refine Decidable.by_contra fun unopened => ?_
      have gone : (after actions).ends id = {} := (gone_of_unopened rfl unopened).1
      rw [gone] at answering
      cases answering
    obtain ⟨⟨_, later⟩, member, rfl⟩ := List.mem_map.mp opened
    refine List.mem_map_of_mem (f := Prod.fst) (mem_undecided.mpr ⟨member, ?_⟩)
    have fate := over_of_opening kept member
    cases ending : ending? _ none later with
    | none => rfl
    | some result =>
      rw [ending] at fate
      rcases fate with ⟨ready, -⟩ | ⟨gone, -⟩
      · rw [ready.answering] at answering
        cases answering
      · rw [gone] at answering
        cases answering
  · intro member
    obtain ⟨timer, here⟩ := ends_of_undecided kept member
    rw [here]
    rfl

theorem size_after : (after actions).size = (undecided actions).length := by
  have waits : (after actions).waiting.Nodup := nodup_waiting fresh_empty List.nodup_nil actions
  have same : (after actions).waiting.Perm ((undecided actions).map Prod.fst) :=
    (List.perm_ext_iff_of_nodup waits (nodup_undecided actions)).mpr fun _ =>
      mem_waiting_iff_undecided kept
  rw [size, same.length_eq, List.length_map]

end Kept

/-! ### Every run -/

/-- The caller returns so as soon as it waits for the request and looks. -/
def Due (p : Pending α) (id : Nat) (result : Except WaitError α) : Prop :=
  ∀ bound now time, ((p.wait id bound now).2.resolve id time).map Prod.fst = some result

theorem due_of_ready {result : Except WaitError α} (ready : (p.ends id).Ready result) :
    p.Due id result := by
  intro bound now time
  have waits : (p.wait id bound now).2.ends id = (p.ends id).wait bound now := by
    rw [ends_wait, if_pos rfl]
  rw [resolve, Option.map_map, outcome?_eq, waits, ready.outcome?]
  rfl

/-- The table and the callers agree, after a run, on which waits have ended and how. -/
structure Agrees (actions : List (Action α)) : Prop where
  distinct : ((openings {} actions).map Prod.fst).Nodup
  opened : ∀ row ∈ returns {} actions, row.1 ∈ (openings {} actions).map Prod.fst
  waits : ∀ {id later}, (id, later) ∈ openings {} actions → ending? id none later = none →
    results {} actions id = []
  ended : ∀ {id later result}, (id, later) ∈ openings {} actions →
    ending? id none later = some result →
      results {} actions id = [result] ∨
        results {} actions id = [] ∧ (after actions).Due id result
  size : (after actions).size = (undecided actions).length
  completes : ∀ {id value}, ((after actions).complete id value).1 = true ↔
    id ∈ (undecided actions).map Prod.fst
  answered : ∀ {id value}, ((after actions).complete id value).1 = true →
    ((after actions).complete id value).2.Due id (.ok value)
  late : ∀ {id value}, ((after actions).complete id value).1 = false →
    ((after actions).complete id value).2 = after actions
  cancels : (after actions).cancelAll.1 = (undecided actions).length
  cancelled : ∀ {id}, id ∈ (undecided actions).map Prod.fst →
    (after actions).cancelAll.2.Due id (.error .cancelled)
  spared : ∀ {id}, id ∉ (undecided actions).map Prod.fst →
    (after actions).cancelAll.2.ends id = (after actions).ends id

theorem waits_end_once (kept : ∀ id, .abandon id ∉ actions) : Agrees actions := by
  have waits : ∀ {id}, id ∈ (after actions).waiting ↔ id ∈ (undecided actions).map Prod.fst :=
    mem_waiting_iff_undecided kept
  have completes : ∀ {id value}, ((after actions).complete id value).1 = true ↔
      id ∈ (undecided actions).map Prod.fst := by
    intro id value
    rw [complete_eq_true, ← waits]
    refine and_iff_left_of_imp fun waiting => ?_
    obtain ⟨timer, here⟩ := ends_of_undecided kept (waits.mp waiting)
    have found : (after actions).callers.find? id = some ⟨.open, timer⟩ :=
      congrArg Ends.caller here
    rw [Table.contains, found]
    rfl
  constructor
  case distinct =>
    rw [(ids_openings {} actions).1]
    exact List.nodup_range'
  case opened =>
    rintro ⟨id, result⟩ member
    refine Decidable.by_contra fun unopened => ?_
    have silent : results {} actions id = [] := (gone_of_unopened rfl unopened).2
    have listed : result ∈ results {} actions id :=
      List.mem_map_of_mem (List.mem_filter.mpr ⟨member, decide_eq_true rfl⟩)
    rw [silent] at listed
    cases listed
  case waits =>
    intro id later opened ending
    have fate := over_of_opening kept opened
    rw [ending] at fate
    exact fate.choose_spec.2
  case ended =>
    intro id later result opened ending
    have fate := over_of_opening kept opened
    rw [ending] at fate
    rcases fate with ⟨ready, silent⟩ | ⟨-, returned⟩
    · exact .inr ⟨silent, due_of_ready ready⟩
    · exact .inl returned
  case size => exact size_after kept
  case completes => exact completes
  case answered =>
    intro id value reached
    obtain ⟨timer, here⟩ := ends_of_undecided kept (completes.mp reached)
    refine due_of_ready ?_
    rw [ends_complete, if_pos rfl, here]
    exact Ends.ready_leave rfl
  case late =>
    intro id value missed
    have gone : id ∉ (after actions).waiting := by
      intro waiting
      rw [completes.mpr (waits.mp waiting)] at missed
      cases missed
    rw [complete_of_not_mem value gone]
  case cancels => exact size_after kept
  case cancelled =>
    intro id member
    obtain ⟨timer, here⟩ := ends_of_undecided kept member
    refine due_of_ready ?_
    rw [ends_cancelAll, here]
    exact Ends.ready_leave rfl
  case spared =>
    intro id decided
    have gone : ((after actions).ends id).answering = false := by
      rw [← waits, mem_waiting_iff, Bool.not_eq_true] at decided
      exact decided
    rw [ends_cancelAll, Ends.leave, gone]
    rfl

/-- An answer, a timeout with late answers, a request given up, and one that still waits. -/
def mixed : List (Action Nat) :=
  [.register, .wait 1 10 0, .register, .wait 2 5 0, .register, .complete 1 7, .resolve 2 6,
    .complete 2 9, .complete 1 8, .register, .forget 3, .resolve 1 6]

theorem waits_end_once_mixed :
    (∀ id, .abandon id ∉ mixed) ∧
      returns {} mixed = [(2, .error (.timeout 5)), (1, .ok 7)] ∧
        (undecided mixed).map Prod.fst = [4] ∧ Agrees mixed := by
  have kept : ∀ id, .abandon id ∉ mixed := by simp [mixed]
  exact ⟨kept, rfl, rfl, waits_end_once kept⟩

end Pending

end Muster
