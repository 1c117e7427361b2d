import Muster.Proofs.Barrier
import Muster.Proofs.Run.ActEffects

/-!
How often the processes of a run report that their barriers opened. A barrier stays open unless it
is locked from outside, so of all calls that may open it one at most does; and a process logs the
opening if, and only if, it was the end of the spawning that opened the barrier.
-/

namespace Muster

/-- The end of the spawning is reported if, and only if, it opens the barrier. -/
theorem Site.countP_completeSpawning (s : Site) (users : Nat) :
    (s.completeSpawning users).2.2.countP Event.isRelease = (s.completeSpawning users).1.toNat := by
  have released : (s.releasedEvent users).isRelease = true := by rfl
  unfold completeSpawning
  dsimp only
  cases (s.barrier.release users).1 with
  | false => rfl
  | true =>
    rw [if_pos rfl, List.countP_cons_of_pos released]
    rfl

namespace Run

/-- A call of the process itself reports that it opened the barrier: the end of the spawning returns
true, or the teardown had to force it. -/
def reports (r : Run) (id : SiteId) : Act → Bool
  | .completeSpawning site users => site = id && (r.completeSpawning id users).any (·.1)
  | .teardown site => site = id && (r.teardown id).any (·.1.barrierForced)
  | _ => false

/-- The spawning of a process that logs to the run has come to its end, and the call returns
true. -/
def announces (r : Run) : Act → Bool
  | .completeSpawning id users =>
    (r.site? id).any (·.logged) && (r.completeSpawning id users).any (·.1)
  | _ => false

/-- How many calls of the process report that they opened its barrier. -/
def openings (r : Run) (id : SiteId) : List Act → Nat
  | [] => 0
  | act :: rest => (r.reports id act).toNat + (r.act act).openings id rest

/-- How many calls say for a process that logs to the run that the end of the spawning opened its
barrier. -/
def announcements (r : Run) : List Act → Nat
  | [] => 0
  | act :: rest => (r.announces act).toNat + (r.act act).announcements rest

/-! ### Acts at a barrier -/

/-- What an act does at the barrier of a process. -/
def Act.turns (id : SiteId) : Act → Option Barrier.Action
  | .completeSpawning site users => if site = id then some (.release users) else none
  | .stepBarrier site action => if site = id then some action else none
  | .teardown site => if site = id then some .forceRelease else none
  | _ => none

variable {r : Run} {id : SiteId} {act : Act} {site : Site} {action : Barrier.Action}

/-- A process that starts is one more. -/
theorem calm_start (r : Run) (files : Files) (shuffles : Shuffles) (setup : Setup) :
    Calm r (r.start files shuffles setup).2 := by
  unfold start startVia
  dsimp only
  split
  · exact .refl r
  · rename_i site events assembled
    have reported := calm_record r site (Setup.apart_assemble assembled)
    split
    · exact reported
    · rename_i after hub _
      refine reported.trans (Calm.trans (s := { r.record site events with
        hub, sites := (r.record site events).sites ++ [after] }) ?_
        (calm_record _ after (apart_singleton (by rfl))))
      exact ⟨fun found => ⟨_, getElem?_append_old found, rfl⟩, rfl⟩

theorem calm_act (r : Run) (apart : ∀ id, act.turns id = none) : Calm r (r.act act) := by
  have plain : act.Plain → Calm r (r.act act) := fun plain => (effect_act plain).calm
  cases act with
  | completeSpawning site | stepBarrier site | teardown site =>
    have turns := apart site
    rw [Act.turns, if_pos rfl] at turns
    cases turns
  | start => exact calm_start ..
  | override | clearRegistry | attach | detach => exact calm_of_eq rfl rfl
  | _ => exact plain trivial

theorem act_of_absent (turns : act.turns id = some action) (missing : r.site? id = none) :
    r.act act = r := by
  cases act with
  | completeSpawning | stepBarrier | teardown =>
    rw [Act.turns] at turns
    split at turns
    · rename_i own
      subst own
      simp only [Run.act, completeSpawning, stepBarrier, teardown, missing]
      rfl
    · cases turns
  | _ => cases turns

theorem site?_act_of_turns (turns : act.turns id = some action) (found : r.site? id = some site) :
    ∃ next, next.barrier = (site.barrier.step action).2 ∧
      ∀ other, (r.act act).site? other = (r.setSite id next).site? other := by
  cases act with
  | completeSpawning | stepBarrier | teardown =>
    rw [Act.turns] at turns
    split at turns
    · rename_i own
      subst own
      obtain rfl := Option.some.inj turns
      simp only [Run.act, completeSpawning, stepBarrier, teardown, found, Option.bind_eq_bind,
        Option.bind_some, Option.pure_def, Option.map_some, Option.getD_some, site?_record]
      first
        | exact ⟨_, rfl, fun _ => rfl⟩
        | exact ⟨_, (site.barrier_teardown r.hub).2, fun _ => rfl⟩
    · cases turns
  | _ => cases turns

/-- An act does at the barrier of a process what it turns there, and nothing else. -/
theorem barrier_act (found : r.site? id = some site) (act : Act) :
    ∃ later, (r.act act).site? id = some later ∧
      later.barrier =
        (act.turns id).elim site.barrier fun action => (site.barrier.step action).2 := by
  cases turns : act.turns id with
  | some action =>
    obtain ⟨next, same, sites⟩ := site?_act_of_turns turns found
    exact ⟨next, (sites id).trans (site?_setSite found next), same⟩
  | none =>
    by_cases apart : ∀ other, act.turns other = none
    · exact (calm_act r apart).kept found
    · obtain ⟨other, turned⟩ := not_forall.mp apart
      obtain ⟨action, turned⟩ := Option.ne_none_iff_exists'.mp turned
      cases there : r.site? other with
      | none =>
        rw [act_of_absent turned there]
        exact ⟨site, found, rfl⟩
      | some before =>
        obtain ⟨next, -, sites⟩ := site?_act_of_turns turned there
        have elsewhere : other ≠ id := by
          rintro rfl
          cases turns.symm.trans turned
        refine ⟨site, ?_, rfl⟩
        rw [sites, site?, setSite, List.getElem?_set_ne elsewhere]
        exact found

theorem eq_acquire_of_turns (turns : act.turns id = some .acquire) :
    act = .stepBarrier id .acquire := by
  cases act with
  | completeSpawning | teardown =>
    rw [Act.turns] at turns
    split at turns <;> cases turns
  | stepBarrier =>
    rw [Act.turns] at turns
    split at turns
    · rename_i own
      rw [own, Option.some.inj turns]
    · cases turns
  | _ => cases turns

/-- A call that reports the opening is made at a barrier, and it is the call that opens it. -/
theorem turns_of_reports (reported : r.reports id act = true) :
    ∃ site action, r.site? id = some site ∧ act.turns id = some action ∧ action ≠ .acquire ∧
      (site.barrier.step action).1 = true := by
  cases act with
  | completeSpawning other users =>
    obtain ⟨own, opens⟩ := Bool.and_eq_true_iff.mp reported
    obtain ⟨_, done, opens⟩ := (Option.any_eq_true _ _).mp opens
    obtain ⟨site, found, done⟩ := Option.bind_eq_some_iff.mp done
    obtain rfl := Option.some.inj done
    exact ⟨site, .release users, found, if_pos (of_decide_eq_true own), nofun, opens⟩
  | teardown other =>
    obtain ⟨own, forced⟩ := Bool.and_eq_true_iff.mp reported
    obtain ⟨_, done, forced⟩ := (Option.any_eq_true _ _).mp forced
    obtain ⟨site, found, done⟩ := Option.bind_eq_some_iff.mp done
    obtain rfl := Option.some.inj done
    exact ⟨site, .forceRelease, found, if_pos (of_decide_eq_true own), nofun,
      (site.barrier_teardown r.hub).1.symm.trans forced⟩
  | _ => cases reported

/-- The barrier of the process is open. -/
def opened (r : Run) (id : SiteId) : Bool := (r.site? id).any (·.barrier.isOpen)

theorem opened_act (isOpen : r.opened id = true) (held : act ≠ .stepBarrier id .acquire) :
    (r.act act).opened id = true := by
  obtain ⟨site, found, isOpen⟩ := (Option.any_eq_true _ _).mp isOpen
  obtain ⟨later, here, same⟩ := barrier_act found act
  refine (Option.any_eq_true _ _).mpr ⟨later, here, ?_⟩
  rw [same]
  cases turns : act.turns id with
  | none => exact isOpen
  | some action =>
    have opens : action ≠ .acquire := by
      rintro rfl
      exact held (eq_acquire_of_turns turns)
    rw [Option.elim_some, Barrier.step_of_open isOpen opens]
    exact isOpen

/-- A call that reports the opening finds the barrier locked and leaves it open. -/
theorem opened_of_reports (reported : r.reports id act = true) :
    r.opened id = false ∧ (r.act act).opened id = true := by
  obtain ⟨site, action, found, turns, opens, opening⟩ := turns_of_reports reported
  obtain ⟨later, here, same⟩ := barrier_act found act
  cases isOpen : site.barrier.isOpen with
  | true =>
    rw [Barrier.step_of_open isOpen opens] at opening
    cases opening
  | false =>
    rw [turns, Option.elim_some, Barrier.step_of_locked isOpen opens] at same
    refine ⟨?_, (Option.any_eq_true _ _).mpr ⟨later, here, by rw [same]⟩⟩
    rw [opened, found, Option.any_some, isOpen]

/-- Once the barrier is open no call reports that it opened it. -/
theorem openings_le {acts : List Act} (held : ∀ act ∈ acts, act ≠ .stepBarrier id .acquire) :
    r.openings id acts + (r.opened id).toNat ≤ 1 := by
  induction acts generalizing r with
  | nil =>
    rw [openings, Nat.zero_add]
    exact Bool.toNat_le _
  | cons act rest ih =>
    have later := ih (r := r.act act) fun other member => held other (.tail _ member)
    rw [openings]
    cases reported : r.reports id act with
    | true =>
      obtain ⟨locked, isOpen⟩ := opened_of_reports reported
      rw [isOpen, Bool.toNat_true] at later
      rw [locked, Bool.toNat_true, Bool.toNat_false]
      omega
    | false =>
      rw [Bool.toNat_false]
      cases isOpen : r.opened id with
      | true =>
        rw [opened_act isOpen (held act List.mem_cons_self)] at later
        omega
      | false =>
        rw [Bool.toNat_false]
        omega

/-! ### The log -/

theorem countP_record (r : Run) (site : Site) (events : List Event) :
    (r.record site events).log.countP Event.isRelease =
      r.log.countP Event.isRelease + if site.logged then events.countP Event.isRelease else 0 := by
  unfold record
  split
  · exact List.countP_append
  · rfl

theorem released_act (r : Run) (act : Act) :
    (r.act act).log.countP Event.isRelease =
      r.log.countP Event.isRelease + (r.announces act).toNat := by
  cases act with
  | completeSpawning id users =>
    cases found : r.site? id with
    | none => simp [Run.act, completeSpawning, announces, found]
    | some site =>
      have done : r.completeSpawning id users = some ((site.completeSpawning users).1,
          (r.setSite id (site.completeSpawning users).2.1).record
            (site.completeSpawning users).2.1 (site.completeSpawning users).2.2) := by
        rw [completeSpawning, found]
        rfl
      simp only [Run.act, announces, done, found, Option.map_some, Option.getD_some,
        Option.any_some, countP_record, Site.countP_completeSpawning]
      have same : (site.completeSpawning users).2.1.logged = site.logged := rfl
      rw [same]
      cases site.logged <;> rfl
  | stepBarrier id action =>
    cases found : r.site? id with
    | none => simp [Run.act, stepBarrier, announces, found]
    | some site =>
      simp only [Run.act, stepBarrier, found]
      rfl
  | teardown id =>
    cases found : r.site? id with
    | none => simp [Run.act, teardown, announces, found]
    | some site =>
      have done : r.teardown id = some ((site.teardown r.hub).1,
          ({ r with hub := (site.teardown r.hub).2.2.1 }.setSite id
            (site.teardown r.hub).2.1).record (site.teardown r.hub).2.1
            (site.teardown r.hub).2.2.2) := by
        rw [teardown, found]
        rfl
      simp only [Run.act, done, Option.map_some, Option.getD_some, countP_record,
        (site.apart_teardown r.hub).countP, ite_self]
      rfl
  | _ => exact (calm_act r fun _ => rfl).log

theorem released_acts (r : Run) (acts : List Act) :
    (r.acts acts).log.countP Event.isRelease =
      r.log.countP Event.isRelease + r.announcements acts := by
  induction acts generalizing r with
  | nil => rfl
  | cons act rest ih =>
    rw [announcements, ← Nat.add_assoc, ← released_act]
    exact ih (r.act act)

/-- A barrier opens once after it is locked, by the first call. So of all calls of a process that
end its spawning or tear it down one at most reports that it opened the barrier, unless the barrier
is locked again from outside; and the log has as many reports of openings as there were calls that
ended a spawning and returned true. -/
theorem barrier_opens_once :
    (∀ before calls : List Barrier.Action, (before = [] ∨ before.getLast? = some .acquire) →
      .acquire ∉ calls → Barrier.OpensOnce before calls) ∧
    (∀ (r : Run) (id : SiteId) (acts : List Act),
      (∀ act ∈ acts, act ≠ .stepBarrier id .acquire) → r.openings id acts ≤ 1) ∧
    (∀ (s : Site) (users : Nat) (hub : Hub Handler Link),
      (s.completeSpawning users).2.2.countP Event.isRelease =
        (s.completeSpawning users).1.toNat ∧
      (s.teardown hub).2.2.2.countP Event.isRelease = 0) ∧
    ∀ (r : Run) (acts : List Act), (r.acts acts).log.countP Event.isRelease =
      r.log.countP Event.isRelease + r.announcements acts :=
  ⟨fun _ _ => Barrier.opensOnce_of_acquired, fun _ _ _ held =>
    Nat.le_trans (Nat.le_add_right _ _) (openings_le held),
    fun s users hub => ⟨s.countP_completeSpawning users, (s.apart_teardown hub).countP⟩,
    released_acts⟩

/-- The spawning comes to its end twice before the teardown, and the first end opens the barrier. -/
theorem barrier_opens_once_twice :
    let hall : Run := { sites := [{ role := .local, node := "hall" }] }
    let calls : List Act := [.completeSpawning 0 5, .completeSpawning 0 6, .teardown 0]
    Barrier.OpensOnce [.release 3, .acquire] [.forceRelease, .release 4] ∧
      hall.reports 0 (.completeSpawning 0 5) = true ∧ hall.openings 0 calls ≤ 1 ∧
      (hall.acts calls).log.countP Event.isRelease = 1 := by
  intro hall calls
  obtain ⟨opens, once, -, logged⟩ := barrier_opens_once
  have held : ∀ act ∈ calls, act ≠ .stepBarrier 0 .acquire := by simp [calls]
  have one : hall.announcements calls = 1 := by decide +kernel
  refine ⟨opens _ _ (.inr rfl) (by decide), by decide +kernel, once hall 0 calls held, ?_⟩
  rw [logged, one]
  rfl

end Run

end Muster
