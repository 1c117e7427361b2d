import Muster.Proofs.Pending

/-!
How the requests of a table stand while nobody is between opening a request and waiting for it:
every caller waits under a timer, and it is open exactly as long as its request can be completed. A
caller that has a value or is cancelled stays so until it resolves.
-/

namespace Muster

/-- How a call stands that has not returned. -/
inductive Standing
  | waits
  | handed
  | cancelled
deriving DecidableEq

def Reception.standing {α : Type} : Reception α → Standing
  | .open => .waits
  | .filled _ => .handed
  | .closed => .cancelled

namespace Pending

variable {α : Type} {p q : Pending α} {gone opened : Nat → Prop}

def standing? (p : Pending α) (id : Nat) : Option Standing :=
  (p.callers.find? id).map fun caller => caller.reception.standing

structure Fits (p : Pending α) : Prop where
  once : p.waiting.Nodup
  timed : ∀ {id caller}, p.callers.find? id = some caller → ∃ timer, caller.timer = some timer
  below : ∀ {id caller}, p.callers.find? id = some caller → id < p.nextId
  waits_iff : ∀ {id}, id ∈ p.waiting ↔ p.standing? id = some .waits

theorem fits_empty : Fits ({} : Pending α) :=
  ⟨List.nodup_nil, nofun, nofun, ⟨nofun, nofun⟩⟩

/-- The table goes on: callers stay with what they have, but for those that are gone, and none
begins to wait but those that are opened. -/
structure Steps (gone opened : Nat → Prop) (p q : Pending α) : Prop where
  fits : q.Fits
  keeps : ∀ {id standing}, ¬gone id → p.standing? id = some standing →
    ∃ later, q.standing? id = some later ∧ (standing ≠ .waits → later = standing)
  back : ∀ {id}, q.standing? id = some .waits → p.standing? id = some .waits ∨ opened id

theorem Steps.refl (fits : p.Fits) : Steps gone opened p p :=
  ⟨fits, fun _ here => ⟨_, here, fun _ => rfl⟩, .inl⟩

theorem Steps.trans {r : Pending α} (first : Steps gone opened p q)
    (second : Steps gone opened q r) : Steps gone opened p r where
  fits := second.fits
  keeps {id standing} stays here := by
    obtain ⟨mid, there, same⟩ := first.keeps stays here
    obtain ⟨later, still, kept⟩ := second.keeps stays there
    refine ⟨later, still, fun finished => ?_⟩
    obtain rfl := same finished
    exact kept finished
  back waits := (second.back waits).elim first.back .inr

theorem Fits.none_of_next (fits : p.Fits) : p.callers.find? p.nextId = none := by
  cases found : p.callers.find? p.nextId with
  | none => rfl
  | some caller => exact absurd (fits.below found) (Nat.lt_irrefl _)

theorem Fits.fresh (fits : p.Fits) : p.nextId ∉ p.waiting := by
  rw [fits.waits_iff, standing?, fits.none_of_next]
  exact nofun

/-! ### Operations -/

@[simp] theorem waiting_leave (p : Pending α) (id : Nat) (reception : Reception α) :
    (p.leave id reception).waiting = p.waiting := by
  unfold leave
  split <;> rfl

theorem standing?_leave (p : Pending α) (id other : Nat) (reception : Reception α) :
    (p.leave id reception).standing? other =
      if other = id then (p.standing? id).map fun _ => reception.standing
      else p.standing? other := by
  unfold standing?
  rw [find?_leave]
  split
  · rw [Option.map_map, Option.map_map]
    rfl
  · rfl

/-- One request is taken from the answering side, and its caller left with something. -/
theorem steps_leave (fits : p.Fits) (id : Nat) {reception : Reception α}
    (done : reception.standing ≠ .waits) (waits : id ∈ p.waiting) :
    Steps gone opened p ((p.drop id).leave id reception) := by
  have standing : ∀ other, ((p.drop id).leave id reception).standing? other =
      if other = id then some reception.standing else p.standing? other := by
    intro other
    rw [standing?_leave, show (p.drop id).standing? = p.standing? from rfl,
      fits.waits_iff.mp waits, Option.map_some]
  have found : ∀ {other caller}, ((p.drop id).leave id reception).callers.find? other =
      some caller → ∃ old, p.callers.find? other = some old ∧ caller.timer = old.timer := by
    intro other caller here
    rw [find?_leave] at here
    split at here
    · rename_i same
      obtain ⟨old, before, rfl⟩ := Option.map_eq_some_iff.mp here
      exact ⟨old, same ▸ before, rfl⟩
    · exact ⟨caller, here, rfl⟩
  refine ⟨⟨?_, fun here => ?_, fun here => ?_, fun {other} => ?_⟩, fun {other before} _ here => ?_,
    fun {other} here => .inl ?_⟩
  · rw [waiting_leave]
    exact fits.once.filter _
  · obtain ⟨old, before, timer⟩ := found here
    rw [timer]
    exact fits.timed before
  · obtain ⟨old, before, -⟩ := found here
    rw [nextId_leave]
    exact fits.below before
  · rw [waiting_leave, standing]
    simp only [drop, List.mem_filter, decide_eq_true_eq]
    split
    · rename_i same
      simp [same, done]
    · rename_i apart
      rw [fits.waits_iff]
      exact and_iff_left apart
  · rw [standing]
    split
    · rename_i same
      rw [same, fits.waits_iff.mp waits] at here
      obtain rfl := Option.some.inj here
      exact ⟨_, rfl, fun other => absurd rfl other⟩
    · exact ⟨_, here, fun _ => rfl⟩
  · rw [standing] at here
    split at here
    · exact absurd (Option.some.inj here) done
    · exact here

theorem steps_complete (fits : p.Fits) (id : Nat) (value : α) :
    Steps gone opened p (p.complete id value).2 := by
  unfold complete
  split
  · rename_i waits
    exact steps_leave fits id nofun waits
  · exact .refl fits

theorem standing?_forget (fits : p.Fits) (id other : Nat) :
    (p.forget id).standing? other =
      if other = id ∧ p.standing? id = some .waits then some .cancelled
      else p.standing? other := by
  unfold forget
  simp only [fits.waits_iff]
  by_cases waits : p.standing? id = some .waits
  · rw [if_pos waits, standing?_leave, show (p.drop id).standing? = p.standing? from rfl, waits]
    simp [Reception.standing]
  · rw [if_neg waits, if_neg fun both => waits both.2]

theorem steps_forget (fits : p.Fits) (id : Nat) : Steps gone opened p (p.forget id) := by
  unfold forget
  split
  · rename_i waits
    exact steps_leave fits id nofun waits
  · exact .refl fits

theorem cancelAll_spec (fits : p.Fits) :
    p.cancelAll.2.Fits ∧ ∀ id, p.cancelAll.2.standing? id =
      if p.standing? id = some .waits then some .cancelled else p.standing? id := by
  have folded : ∀ (ids : List Nat) (p : Pending α), p.Fits → (ids.foldl forget p).Fits ∧
      ∀ id, (ids.foldl forget p).standing? id =
        if id ∈ ids ∧ p.standing? id = some .waits then some .cancelled else p.standing? id := by
    intro ids
    induction ids with
    | nil => exact fun p fits => ⟨fits, fun id => by simp⟩
    | cons first rest ih =>
      intro p fits
      have next : Steps (fun _ => False) (fun _ => False) p (p.forget first) :=
        steps_forget fits first
      refine ⟨(ih _ next.fits).1, fun id => ?_⟩
      rw [List.foldl_cons, (ih _ next.fits).2, standing?_forget fits]
      by_cases same : id = first
      · subst same
        by_cases waits : p.standing? id = some .waits <;> simp [waits]
      · simp [same]
  obtain ⟨fitting, standing⟩ := folded p.waiting p fits
  refine ⟨fitting, fun id => ?_⟩
  rw [show p.cancelAll.2 = p.waiting.foldl forget p from rfl, standing]
  simp only [fits.waits_iff, and_self]

theorem steps_cancelAll (fits : p.Fits) : Steps gone opened p p.cancelAll.2 := by
  obtain ⟨fitting, standing⟩ := cancelAll_spec fits
  refine ⟨fitting, fun {id before} _ here => ?_, fun {id} here => .inl ?_⟩
  · rw [standing, here]
    by_cases waits : before = .waits
    · rw [if_pos (congrArg some waits)]
      exact ⟨_, rfl, fun other => absurd waits other⟩
    · rw [if_neg fun same => waits (Option.some.inj same)]
      exact ⟨_, rfl, fun _ => rfl⟩
  · rw [standing] at here
    split at here
    · cases here
    · exact here

theorem waiting_cancelAll (fits : p.Fits) : p.cancelAll.2.waiting = [] := by
  obtain ⟨fitting, standing⟩ := cancelAll_spec fits
  refine List.eq_nil_iff_forall_not_mem.mpr fun id waits => ?_
  have still := fitting.waits_iff.mp waits
  rw [standing] at still
  split at still
  · cases still
  · contradiction

/-- A request is opened, and its caller begins to wait. -/
theorem opens_spec (fits : p.Fits) (opens : opened p.nextId) (bound : Millis) (now : Nat) :
    Steps gone opened p (p.register.2.wait p.nextId bound now).2 ∧
      (p.register.2.wait p.nextId bound now).2.standing? p.nextId = some .waits := by
  obtain ⟨q, waited⟩ : ∃ q, q = (p.register.2.wait p.nextId bound now).2 := ⟨_, rfl⟩
  have nextId : q.nextId = p.nextId + 1 := by simp [waited, register, wait]
  have waiting : q.waiting = p.waiting ++ [p.nextId] := by simp [waited, register, wait]
  have callers : ∀ id, q.callers.find? id =
      if id = p.nextId then some ⟨.open, some ⟨bound, now + bound.toNat⟩⟩
      else p.callers.find? id := by
    intro id
    simp only [waited, register, wait, Table.find?_insert, if_true]
    split <;> rfl
  have standing : ∀ id, q.standing? id =
      if id = p.nextId then some .waits else p.standing? id := by
    intro id
    rw [standing?, callers]
    split <;> rfl
  rw [← waited]
  refine ⟨⟨⟨?_, fun {id caller} here => ?_, fun {id caller} here => ?_, fun {id} => ?_⟩,
    fun {id before} _ here => ?_, fun {id} here => ?_⟩, by rw [standing, if_pos rfl]⟩
  · rw [waiting, List.nodup_append]
    refine ⟨fits.once, List.pairwise_singleton _ _, ?_⟩
    rintro id member other here rfl
    rw [List.mem_singleton.mp here] at member
    exact fits.fresh member
  · rw [callers] at here
    split at here
    · obtain rfl := Option.some.inj here
      exact ⟨_, rfl⟩
    · exact fits.timed here
  · rw [callers] at here
    rw [nextId]
    split at here
    · rename_i same
      rw [same]
      exact Nat.lt_succ_self _
    · exact Nat.lt_succ_of_lt (fits.below here)
  · rw [waiting, standing, List.mem_append, List.mem_singleton]
    split
    · rename_i same
      simp [same]
    · rename_i apart
      rw [or_iff_left apart, fits.waits_iff]
  · have old : id ≠ p.nextId := by
      rintro rfl
      rw [standing?, fits.none_of_next] at here
      cases here
    rw [standing, if_neg old]
    exact ⟨_, here, fun _ => rfl⟩
  · rw [standing] at here
    split at here
    · rename_i same
      exact .inr (same ▸ opens)
    · exact .inl here

/-- A request is opened and given up at once. -/
theorem steps_withdraw (fits : p.Fits) :
    Steps gone opened p ((p.register.2.forget p.nextId).abandon p.nextId).2 := by
  obtain ⟨q, withdrawn⟩ :
    ∃ q, q = ((p.register.2.forget p.nextId).abandon p.nextId).2 := ⟨_, rfl⟩
  have nextId : q.nextId = p.nextId + 1 := by
    simp [withdrawn, register, forget, drop, abandon]
  have waiting : q.waiting = p.waiting := by
    have kept : p.waiting.filter (fun id => id ≠ p.nextId) = p.waiting := by
      refine List.filter_eq_self.mpr fun id member => ?_
      rw [decide_eq_true_eq]
      exact fun same => fits.fresh (same ▸ member)
    simpa [withdrawn, register, forget, drop, abandon] using kept
  have callers : ∀ id, q.callers.find? id = p.callers.find? id := by
    intro id
    by_cases same : id = p.nextId
    · simp [withdrawn, abandon, same, fits.none_of_next]
    · simp [withdrawn, register, forget, abandon, drop, find?_leave, same]
  have standing : ∀ id, q.standing? id = p.standing? id := fun id => by
    rw [standing?, standing?, callers]
  rw [← withdrawn]
  refine ⟨⟨waiting ▸ fits.once, fun here => fits.timed (callers _ ▸ here), fun here => ?_,
    fun {id} => ?_⟩, fun {id before} _ here => ⟨before, ?_, fun _ => rfl⟩, fun {id} here => .inl ?_⟩
  · have below := fits.below (callers _ ▸ here)
    omega
  · rw [waiting, standing, fits.waits_iff]
  · rw [standing, here]
  · rw [← standing, here]

theorem steps_resolve (fits : p.Fits) {id now : Nat} {result : Except WaitError α}
    (leaves : gone id) (resolved : p.resolve id now = some (result, q)) :
    Steps gone opened p q ∧ q.standing? id = none := by
  obtain ⟨-, rfl⟩ := resolve_eq_some resolved
  have callers : ∀ other, (p.callers.erase id).find? other =
      if other = id then none else p.callers.find? other := fun other => Table.find?_erase ..
  have standing : ∀ other, ({ p.drop id with callers := p.callers.erase id } :
      Pending α).standing? other = if other = id then none else p.standing? other := by
    intro other
    rw [standing?, callers]
    split <;> rfl
  refine ⟨⟨⟨fits.once.filter _, fun {other caller} here => ?_, fun {other caller} here => ?_,
    fun {other} => ?_⟩, fun {other before} apart here => ?_, fun {other} here => .inl ?_⟩, ?_⟩
  · rw [callers] at here
    split at here
    · cases here
    · exact fits.timed here
  · rw [callers] at here
    split at here
    · cases here
    · exact fits.below here
  · rw [standing]
    simp only [drop, List.mem_filter, decide_eq_true_eq]
    split
    · rename_i same
      simp [same]
    · rename_i apart
      rw [fits.waits_iff]
      exact and_iff_left apart
  · have other : ¬other = id := by
      rintro rfl
      exact apart leaves
    rw [standing, if_neg other]
    exact ⟨_, here, fun _ => rfl⟩
  · rw [standing] at here
    split at here
    · cases here
    · exact here
  · rw [standing, if_pos rfl]

/-- A caller that is cancelled resolves so, at any time. -/
theorem resolve_of_cancelled (fits : p.Fits) {id : Nat} (now : Nat)
    (cancelled : p.standing? id = some .cancelled) :
    ∃ q, p.resolve id now = some (.error .cancelled, q) := by
  obtain ⟨⟨reception, timer⟩, found, closed⟩ := Option.map_eq_some_iff.mp cancelled
  obtain ⟨timer, rfl⟩ := fits.timed found
  cases reception with
  | «open» | filled => cases closed
  | closed =>
    refine ⟨{ p.drop id with callers := p.callers.erase id }, ?_⟩
    simp only [resolve, outcome?, found, Option.map_some]

end Pending

end Muster
