import Mathlib.Data.List.Rotate
import Muster.Proofs.Record.Stock

/-!
The order in which pools hand out. A pool that is not cyclic gives its records in order and is
exhausted from then on; a cyclic one starts over after its last record. What comes of a request
depends on how often its own pool was asked before, not on who asks or what else is asked for.
Records may as well be taken out in place: an emptied cell is never read again.
-/

namespace Muster

namespace Pool

/-- The outcome of the draw that comes after so many others. -/
def outcomeAt (records : List Json) (cyclic : Bool) (count : Nat) : DataOutcome :=
  match records[if cyclic then count % records.length else count]? with
  | some record => .record record
  | none => .exhausted

/-- The pool was asked so often. -/
def Asked (p : Pool) (count : Nat) : Prop :=
  p.served = if p.cyclic && !p.records.isEmpty then count else min count p.records.length

theorem next?_of_asked {p : Pool} {count : Nat} (asked : p.Asked count) :
    p.next? = p.records[if p.cyclic then count % p.records.length else count]? := by
  unfold Asked at asked
  by_cases empty : p.records = []
  · simp [next?, position?, empty]
  · have filled : 0 < p.records.length := List.length_pos_iff.mpr empty
    cases cyclic : p.cyclic with
    | true =>
      have served : p.served = count := by simpa [cyclic, empty] using asked
      simp [next?, position?, cyclic, empty, served]
    | false =>
      have served : p.served = min count p.records.length := by simpa [cyclic] using asked
      by_cases more : count < p.records.length
      · have here : p.served = count := by omega
        have going : ¬p.records.length ≤ count := Nat.not_le.mpr more
        simp [next?, position?, cyclic, empty, here, going, Nat.mod_eq_of_lt more]
      · have past : p.records.length ≤ p.served := by omega
        have beyond : p.records[count]? = none := List.getElem?_eq_none (by omega)
        simp [next?, position?, cyclic, past, beyond]

theorem outcomeAt_eq_exhausted {p : Pool} {count : Nat} (asked : p.Asked count)
    (ended : p.position? = none) : outcomeAt p.records p.cyclic count = .exhausted := by
  have none : p.next? = none := by rw [next?, ended, Option.bind_none]
  rw [next?_of_asked asked] at none
  rw [outcomeAt, none]

theorem outcomeAt_eq_record {p : Pool} {count position : Nat} {record : Json}
    (asked : p.Asked count) (here : p.position? = some position)
    (held : p.records[position]? = some record) :
    outcomeAt p.records p.cyclic count = .record record := by
  have some : p.next? = some record := by rw [next?, here, Option.bind_some, held]
  rw [next?_of_asked asked] at some
  rw [outcomeAt, some]

theorem asked_of_exhausted {p q : Pool} {count : Nat} (asked : p.Asked count)
    (ended : p.position? = none) (records : q.records = p.records) (cyclic : q.cyclic = p.cyclic)
    (served : q.served = p.served) : q.Asked (count + 1) := by
  have spent : p.records = [] ∨ (p.cyclic = false ∧ p.records.length ≤ p.served) := by
    unfold position? at ended
    split at ended
    · rename_i done
      simpa using done
    · cases ended
  unfold Asked at asked ⊢
  rw [records, cyclic, served]
  rcases spent with empty | ⟨once, past⟩
  · simpa [empty] using asked
  · simp only [once, Bool.false_and, Bool.false_eq_true, if_false] at asked ⊢
    omega

theorem asked_of_record {p q : Pool} {count position : Nat} (asked : p.Asked count)
    (here : p.position? = some position) (records : q.records = p.records)
    (cyclic : q.cyclic = p.cyclic) (served : q.served = p.served + 1) : q.Asked (count + 1) := by
  have going : p.records ≠ [] ∧ (p.cyclic = false → p.served < p.records.length) := by
    unfold position? at here
    split at here
    · cases here
    · rename_i going
      simpa using going
  unfold Asked at asked ⊢
  rw [records, cyclic, served]
  cases once : p.cyclic with
  | true => simpa [once, going.1] using asked
  | false =>
    have more := going.2 once
    simp only [once, Bool.false_and, Bool.false_eq_true, if_false] at asked ⊢
    omega

/-! ### Orders of records -/

theorem outcomes_once (records : List Json) (count : Nat) :
    (List.range count).map (outcomeAt records false) =
      (records.take count).map .record ++ List.replicate (count - records.length) .exhausted := by
  refine List.ext_getElem? fun k => ?_
  by_cases below : k < count
  · by_cases held : k < records.length
    · have short : k < ((records.take count).map DataOutcome.record).length := by
        simp only [List.length_map, List.length_take]; omega
      rw [List.getElem?_append_left short]
      simp [outcomeAt, below, held]
    · have long : ((records.take count).map DataOutcome.record).length ≤ k := by
        simp only [List.length_map, List.length_take]; omega
      have rest : k - (records.take count).length < count - records.length := by
        simp only [List.length_take]; omega
      rw [List.getElem?_append_right long, List.length_map]
      rw [List.getElem?_replicate, if_pos rest]
      simp [outcomeAt, below, held]
  · have total : ((records.take count).map DataOutcome.record ++
        List.replicate (count - records.length) DataOutcome.exhausted).length ≤ k := by
      simp only [List.length_append, List.length_map, List.length_take, List.length_replicate]
      omega
    rw [List.getElem?_eq_none total, List.getElem?_eq_none (by simpa using below)]

theorem outcomeAt_cyclic {records : List Json} (filled : records ≠ []) (count : Nat) :
    some (outcomeAt records true count) =
      (records[count % records.length]?).map DataOutcome.record := by
  have below : count % records.length < records.length :=
    Nat.mod_lt _ (List.length_pos_iff.mpr filled)
  simp [outcomeAt, below]

/-- As many outcomes in a row as there are records are the records, from some place on and then
from the start. -/
theorem outcomes_rotate (records : List Json) (first : Nat) :
    (List.range records.length).map (fun k => outcomeAt records true (first + k)) =
      (records.rotate first).map .record := by
  refine List.ext_getElem? fun k => ?_
  by_cases below : k < records.length
  · have filled : records ≠ [] := List.length_pos_iff.mp (Nat.zero_lt_of_lt below)
    have turned : (records.rotate first)[k]? = records[(k + first) % records.length]? :=
      List.getElem?_rotate below
    simp only [List.getElem?_map, turned, List.getElem?_range below, Option.map_some]
    rw [outcomeAt_cyclic filled, Nat.add_comm]
  · rw [List.getElem?_eq_none (by simpa using below), List.getElem?_eq_none (by simpa using below)]

end Pool

/-! ### Taking records out in place -/

/-- Cells with records. One that is taken leaves `null` behind, unless the shelf is cyclic. -/
structure Shelf where
  cells : List Json
  cyclic : Bool
  cursor : Nat := 0
deriving DecidableEq

namespace Shelf

def draw (s : Shelf) : DataOutcome × Shelf :=
  if s.cells.isEmpty || (!s.cyclic && s.cells.length ≤ s.cursor) then (.exhausted, s)
  else
    let index := s.cursor % s.cells.length
    (.record (s.cells[index]?.getD .null),
      { s with
        cells := if s.cyclic then s.cells else s.cells.set index .null
        cursor := s.cursor + 1 })

def draws (s : Shelf) : Nat → List DataOutcome
  | 0 => []
  | count + 1 => s.draw.1 :: s.draw.2.draws count

/-- The shelf started with the records and was asked so often: the cells from the cursor on are as
they were, and all are if it is cyclic. -/
structure Asked (s : Shelf) (records : List Json) (count : Nat) : Prop where
  size : s.cells.length = records.length
  kept : ∀ k, s.cyclic = true ∨ count ≤ k → s.cells[k]? = records[k]?
  cursor : s.cursor = if s.cyclic && !records.isEmpty then count else min count records.length

/-- A draw gives the outcome that is due, and the shelf was asked once more after it. -/
structure Gives (s : Shelf) (records : List Json) (count : Nat) : Prop where
  outcome : s.draw.1 = Pool.outcomeAt records s.cyclic count
  cyclic : s.draw.2.cyclic = s.cyclic
  asked : s.draw.2.Asked records (count + 1)

section Drawing

variable {s : Shelf} {records : List Json} {count : Nat}

theorem gives_of_empty (asked : s.Asked [] count) : s.Gives [] count := by
  have empty : s.cells = [] := List.length_eq_zero_iff.mp asked.size
  have ended : s.draw = (.exhausted, s) := by simp [draw, empty]
  refine ⟨?_, ?_, ?_⟩
  · rw [ended]
    simp [Pool.outcomeAt]
  · rw [ended]
  · rw [ended]
    refine ⟨asked.size, fun k later => asked.kept k ?_, by simpa using asked.cursor⟩
    exact later.imp_right fun past => by omega

theorem gives_of_cyclic (asked : s.Asked records count) (cyclic : s.cyclic = true)
    (filled : records ≠ []) : s.Gives records count := by
  have here : s.cursor = count := by simpa [cyclic, filled] using asked.cursor
  have same : s.cells = records := List.ext_getElem? fun k => asked.kept k (.inl cyclic)
  have next : s.draw = (.record (records[count % records.length]?.getD .null),
      { s with cursor := count + 1 }) := by
    simp [draw, cyclic, here, same, filled]
  have below : count % records.length < records.length :=
    Nat.mod_lt _ (List.length_pos_iff.mpr filled)
  refine ⟨?_, ?_, ?_⟩
  · rw [next, cyclic]
    simp [Pool.outcomeAt, below]
  · rw [next]
  · rw [next]
    exact ⟨asked.size, fun k _ => asked.kept k (.inl cyclic), by simp [cyclic, filled]⟩

theorem gives_of_taken (asked : s.Asked records count) (once : s.cyclic = false)
    (more : count < records.length) : s.Gives records count := by
  have filled : records ≠ [] := List.length_pos_iff.mp (Nat.zero_lt_of_lt more)
  have place : s.cursor = count := by
    have cursor := asked.cursor
    simp only [once, Bool.false_and, Bool.false_eq_true, if_false] at cursor
    omega
  have going : (s.cells.isEmpty || (!s.cyclic && s.cells.length ≤ s.cursor)) = false := by
    have some : s.cells ≠ [] := List.length_pos_iff.mp (by rw [asked.size]; omega)
    simp [some, once, place, asked.size, more]
  have held : s.cells[count]? = some records[count] :=
    (asked.kept count (.inr (Nat.le_refl _))).trans (List.getElem?_eq_getElem more)
  have next : s.draw = (.record records[count],
      { s with cells := s.cells.set count .null, cursor := count + 1 }) := by
    rw [draw, going]
    simp only [Bool.false_eq_true, if_false, place, asked.size, Nat.mod_eq_of_lt more, held, once,
      Option.getD_some]
  refine ⟨?_, ?_, ?_⟩
  · rw [next, once]
    simp [Pool.outcomeAt, more]
  · rw [next]
  · rw [next]
    refine ⟨by rw [List.length_set, asked.size], fun k later => ?_, ?_⟩
    · -- the cell that was emptied is before the cursor now
      have past : count + 1 ≤ k := later.resolve_left (by simp [once])
      have apart : count ≠ k := by omega
      rw [List.getElem?_set_ne apart]
      exact asked.kept k (.inr (by omega))
    · simp only [once, Bool.false_and, Bool.false_eq_true, if_false]
      omega

theorem gives_of_spent (asked : s.Asked records count) (once : s.cyclic = false)
    (past : records.length ≤ count) : s.Gives records count := by
  have cursor := asked.cursor
  simp only [once, Bool.false_and, Bool.false_eq_true, if_false] at cursor
  have beyond : records[count]? = none := List.getElem?_eq_none past
  have ended : s.draw = (.exhausted, s) := by
    have spent : s.cells.length ≤ s.cursor := by rw [asked.size]; omega
    simp [draw, once, spent]
  refine ⟨?_, ?_, ?_⟩
  · rw [ended, once]
    simp [Pool.outcomeAt, beyond]
  · rw [ended]
  · rw [ended]
    refine ⟨asked.size, fun k later => asked.kept k ?_, ?_⟩
    · exact later.imp_right fun above => by omega
    · simp only [once, Bool.false_and, Bool.false_eq_true, if_false]
      omega

theorem Asked.gives (asked : s.Asked records count) : s.Gives records count := by
  cases cyclic : s.cyclic with
  | true =>
    by_cases filled : records = []
    · subst filled
      exact gives_of_empty asked
    · exact gives_of_cyclic asked cyclic filled
  | false =>
    rcases Nat.lt_or_ge count records.length with more | past
    · exact gives_of_taken asked cyclic more
    · exact gives_of_spent asked cyclic past

end Drawing

theorem draws_of_asked {s : Shelf} {records : List Json} {count : Nat}
    (asked : s.Asked records count) (number : Nat) :
    s.draws number =
      (List.range number).map fun k => Pool.outcomeAt records s.cyclic (count + k) := by
  induction number generalizing s count with
  | zero => rfl
  | succ number ih =>
    obtain ⟨outcome, cyclic, later⟩ := asked.gives
    have rest := ih later
    rw [cyclic] at rest
    rw [draws, outcome, rest, List.range_succ_eq_map, List.map_cons, List.map_map]
    refine congrArg _ (List.map_congr_left fun k _ => ?_)
    simp only [Function.comp_apply]
    congr 1
    omega

theorem draws_eq (records : List Json) (cyclic : Bool) (number : Nat) :
    draws { cells := records, cyclic } number =
      (List.range number).map (Pool.outcomeAt records cyclic) := by
  have opened : Asked { cells := records, cyclic } records 0 := ⟨rfl, fun _ _ => rfl, by simp⟩
  rw [draws_of_asked opened]
  simp only [Nat.zero_add]

end Shelf

/-- The outcomes are those of a pool with the records in this order. -/
structure InOrder (records : List Json) (cyclic : Bool) (outcomes : List DataOutcome) : Prop where
  once : cyclic = false → outcomes = (records.take outcomes.length).map .record ++
    List.replicate (outcomes.length - records.length) .exhausted
  wraps : cyclic = true → records ≠ [] → ∀ k < outcomes.length,
    outcomes[k]? = (records[k % records.length]?).map .record
  /-- so many outcomes in a row as there are records are the records, from some place on -/
  turns : cyclic = true → ∀ first, first + records.length ≤ outcomes.length →
    (outcomes.drop first).take records.length = (records.rotate first).map .record
  empty : records = [] → ∀ outcome ∈ outcomes, outcome = .exhausted
  inPlace : outcomes = Shelf.draws { cells := records, cyclic } outcomes.length

theorem inOrder_range (records : List Json) (cyclic : Bool) (count : Nat) :
    InOrder records cyclic ((List.range count).map (Pool.outcomeAt records cyclic)) := by
  have length : ((List.range count).map (Pool.outcomeAt records cyclic)).length = count := by
    rw [List.length_map, List.length_range]
  refine ⟨fun notCyclic => ?_, fun around filled k below => ?_, fun around first fits => ?_,
    fun nothing outcome member => ?_, ?_⟩
  · rw [length, notCyclic, Pool.outcomes_once]
  · rw [length] at below
    rw [around, List.getElem?_map, List.getElem?_range below, Option.map_some]
    exact Pool.outcomeAt_cyclic filled k
  · rw [length] at fits
    have window : ((List.range count).drop first).take records.length =
        (List.range records.length).map (first + ·) := by
      rw [List.range_eq_range', List.drop_range', List.take_range'_of_length_ge (by omega),
        List.range'_eq_map_range]
      simp
    rw [around, ← List.map_drop, ← List.map_take, window, List.map_map,
      ← Pool.outcomes_rotate]
    rfl
  · obtain ⟨k, -, rfl⟩ := List.mem_map.mp member
    simp [Pool.outcomeAt, nothing]
  · rw [Shelf.draws_eq, length]

namespace Stock

/-! ### Requests in turn -/

/-- The outcomes of requests, each with the scenario that it was for. -/
def outcomes (s : Stock) :
    List (ScenarioId × NodeId) → List (ScenarioId × Except StockError DataOutcome)
  | [] => []
  | (scenario, worker) :: rest =>
    let drawn := s.request scenario worker
    (scenario, drawn.outcome) :: drawn.stock.outcomes rest

def outcomesOf (s : Stock) (scenario : ScenarioId) (requests : List (ScenarioId × NodeId)) :
    List (Except StockError DataOutcome) :=
  ((s.outcomes requests).filter (·.1 = scenario)).map (·.2)

/-- The pool of the scenario has these records and was asked so often. -/
def Stands (s : Stock) (scenario : ScenarioId) (records : List Json) (cyclic : Bool)
    (count : Nat) : Prop :=
  ∃ pool, s.pools.find? scenario = some pool ∧ pool.records = records ∧ pool.cyclic = cyclic ∧
    pool.Asked count

variable {s : Stock} {scenario : ScenarioId} {records : List Json} {cyclic : Bool} {count : Nat}

theorem outcomesOf_cons_own (s : Stock) (scenario : ScenarioId) (worker : NodeId)
    (rest : List (ScenarioId × NodeId)) :
    s.outcomesOf scenario ((scenario, worker) :: rest) =
      (s.request scenario worker).outcome ::
        (s.request scenario worker).stock.outcomesOf scenario rest := by
  simp [outcomesOf, outcomes]

theorem outcomesOf_cons_other {other : ScenarioId} (apart : other ≠ scenario) (worker : NodeId)
    (rest : List (ScenarioId × NodeId)) :
    s.outcomesOf scenario ((other, worker) :: rest) =
      (s.request other worker).stock.outcomesOf scenario rest := by
  simp [outcomesOf, outcomes, apart]

theorem stands_own (stands : s.Stands scenario records cyclic count) (worker : NodeId) :
    (s.request scenario worker).outcome = .ok (Pool.outcomeAt records cyclic count) ∧
      (s.request scenario worker).stock.Stands scenario records cyclic (count + 1) := by
  obtain ⟨pool, found, rfl, rfl, asked⟩ := stands
  cases s.request_turn scenario worker with
  | unknown missing => cases missing.symm.trans found
  | exhausted before after here ended outcome records cyclic served changed =>
    obtain rfl := Option.some.inj (found.symm.trans here)
    refine ⟨by rw [outcome, Pool.outcomeAt_eq_exhausted asked ended], after, ?_, records, cyclic,
      Pool.asked_of_exhausted asked ended records cyclic served⟩
    rw [changed, if_pos rfl]
  | record before after position record here place held outcome records cyclic served changed =>
    obtain rfl := Option.some.inj (found.symm.trans here)
    refine ⟨by rw [outcome, Pool.outcomeAt_eq_record asked place held], after, ?_, records, cyclic,
      Pool.asked_of_record asked place records cyclic served⟩
    rw [changed, if_pos rfl]

theorem find?_request_other {other : ScenarioId} (apart : other ≠ scenario) (worker : NodeId) :
    (s.request other worker).stock.pools.find? scenario = s.pools.find? scenario := by
  cases s.request_turn other worker with
  | unknown _ _ same => exact same scenario
  | exhausted _ _ _ _ _ _ _ _ changed => rw [changed, if_neg (Ne.symm apart)]
  | record _ _ _ _ _ _ _ _ _ _ _ changed => rw [changed, if_neg (Ne.symm apart)]

theorem stands_other {other : ScenarioId} (stands : s.Stands scenario records cyclic count)
    (apart : other ≠ scenario) (worker : NodeId) :
    (s.request other worker).stock.Stands scenario records cyclic count := by
  obtain ⟨pool, found, rest⟩ := stands
  exact ⟨pool, (find?_request_other apart worker).trans found, rest⟩

theorem outcomesOf_eq (stands : s.Stands scenario records cyclic count)
    (requests : List (ScenarioId × NodeId)) :
    s.outcomesOf scenario requests = (List.range (requests.countP (·.1 = scenario))).map fun k =>
      .ok (Pool.outcomeAt records cyclic (count + k)) := by
  induction requests generalizing s count with
  | nil => rfl
  | cons request rest ih =>
    obtain ⟨asked, worker⟩ := request
    by_cases own : asked = scenario
    · subst own
      obtain ⟨outcome, later⟩ := stands_own stands worker
      rw [outcomesOf_cons_own, outcome, ih later, List.countP_cons_of_pos (by simp),
        List.range_succ_eq_map, List.map_cons, List.map_map]
      refine congrArg _ (List.map_congr_left fun k _ => ?_)
      simp only [Function.comp_apply, Nat.succ_eq_add_one, Nat.add_assoc, Nat.add_comm 1]
    · rw [outcomesOf_cons_other own, ih (stands_other stands own worker),
        List.countP_cons_of_neg (by simpa using own)]

theorem outcomesOf_unknown (missing : s.pools.find? scenario = none)
    (requests : List (ScenarioId × NodeId)) :
    ∀ outcome ∈ s.outcomesOf scenario requests, outcome = .error (.unknownScenario scenario) := by
  induction requests generalizing s with
  | nil => exact fun _ member => by cases member
  | cons request rest ih =>
    obtain ⟨asked, worker⟩ := request
    by_cases own : asked = scenario
    · subst own
      have turn := s.request_turn asked worker
      cases turn with
      | exhausted _ _ found => cases missing.symm.trans found
      | record _ _ _ _ found => cases missing.symm.trans found
      | unknown _ failed same =>
        rw [outcomesOf_cons_own]
        intro outcome member
        rcases List.mem_cons.mp member with rfl | later
        · exact failed
        · exact ih ((same asked).trans missing) outcome later
    · rw [outcomesOf_cons_other own]
      exact ih ((find?_request_other own worker).trans missing)

/-! ### Loading -/

section Loading

variable {files : Files} {shuffles : Shuffles} {read : DataSource → List Json}

theorem loadAll_eq_ok {sources : List DataSource}
    (loads : ∀ source ∈ sources, source.load files = .ok (read source)) :
    Pool.loadAll files sources = .ok (sources.flatMap read) := by
  induction sources with
  | nil => rfl
  | cons source rest ih =>
    have first := loads source List.mem_cons_self
    have others := ih fun other member => loads other (List.mem_cons_of_mem _ member)
    rw [Pool.loadAll, first, others]
    rfl

def arranged (shuffles : Shuffles) (plan : PoolPlan) (declared : List Json) :
    List Json :=
  if plan.order = .random then (shuffles plan.scenario).apply declared else declared

theorem arranged_perm (shuffles : Shuffles) (plan : PoolPlan) (declared : List Json) :
    (arranged shuffles plan declared).Perm declared := by
  unfold arranged
  split
  · exact (shuffles plan.scenario).perm declared
  · exact List.Perm.refl _

theorem ofPlan_eq_ok (shuffles : Shuffles) {plan : PoolPlan}
    (loads : ∀ source ∈ plan.sources, source.load files = .ok (read source)) :
    ∃ pool, Pool.ofPlan files (shuffles plan.scenario) plan = .ok pool ∧
      pool.records = arranged shuffles plan (plan.sources.flatMap read) ∧
      pool.cyclic = plan.cyclic ∧ pool.Asked 0 := by
  rw [Pool.ofPlan, loadAll_eq_ok loads]
  exact ⟨_, rfl, rfl, rfl, by simp [Pool.Asked]⟩

theorem add_eq_ok {plan : PoolPlan} (fresh : s.pools.find? plan.scenario = none)
    (loads : ∀ source ∈ plan.sources, source.load files = .ok (read source)) :
    ∃ t, s.add files (shuffles plan.scenario) plan = .ok t ∧
      t.Stands plan.scenario (arranged shuffles plan (plan.sources.flatMap read)) plan.cyclic 0 ∧
      ∀ other, other ≠ plan.scenario → t.pools.find? other = s.pools.find? other := by
  have absent : s.pools.contains plan.scenario = false := by rw [Table.contains, fresh]; rfl
  obtain ⟨pool, made, rest⟩ := ofPlan_eq_ok shuffles loads
  refine ⟨⟨s.pools.insert plan.scenario pool⟩, ?_, ⟨pool, ?_, rest⟩, fun other apart => ?_⟩
  · rw [add, absent, made]
    rfl
  · rw [Table.find?_insert, if_pos rfl]
  · rw [Table.find?_insert, if_neg apart]

theorem foldlM_add_eq_ok (shuffles : Shuffles) {plans : List PoolPlan}
    (distinct : (plans.map (·.scenario)).Nodup)
    (fresh : ∀ plan ∈ plans, s.pools.find? plan.scenario = none)
    (loads : ∀ plan ∈ plans, ∀ source ∈ plan.sources, source.load files = .ok (read source)) :
    ∃ t, plans.foldlM (fun s plan => s.add files (shuffles plan.scenario) plan) s = .ok t ∧
      (∀ scenario, scenario ∉ plans.map (·.scenario) →
        t.pools.find? scenario = s.pools.find? scenario) ∧
      ∀ plan ∈ plans, t.Stands plan.scenario
        (arranged shuffles plan (plan.sources.flatMap read)) plan.cyclic 0 := by
  induction plans generalizing s with
  | nil => exact ⟨s, rfl, fun _ _ => rfl, fun _ member => by cases member⟩
  | cons plan rest ih =>
    obtain ⟨new, distinct⟩ := List.nodup_cons.mp distinct
    obtain ⟨mid, added, stands, kept⟩ :=
      add_eq_ok (fresh plan List.mem_cons_self) (loads plan List.mem_cons_self)
    have apart : ∀ other ∈ rest, other.scenario ≠ plan.scenario := by
      intro other member same
      exact new (List.mem_map.mpr ⟨other, member, same⟩)
    obtain ⟨t, loaded, others, standing⟩ := ih distinct
      (fun other member => by
        rw [kept _ (apart other member)]
        exact fresh other (List.mem_cons_of_mem _ member))
      fun other member => loads other (List.mem_cons_of_mem _ member)
    refine ⟨t, by rw [List.foldlM_cons, added]; exact loaded, fun scenario absent => ?_, ?_⟩
    · obtain ⟨first, later⟩ := not_or.mp (mt List.mem_cons.mpr absent)
      rw [others scenario later, kept scenario first]
    · intro other member
      rcases List.mem_cons.mp member with rfl | later
      · -- the plans after it are for other scenarios, so the pool is as it was made
        obtain ⟨pool, found, rest⟩ := stands
        exact ⟨pool, (others other.scenario new).trans found, rest⟩
      · exact standing other later

end Loading

/-! ### What requests return -/

/-- Plans for distinct scenarios whose sources can be read make a stock, and every pool of it hands
its records out in its order, whatever is asked for in between. -/
theorem outcomes_in_order (files : Files) (shuffles : Shuffles)
    (plans : List PoolPlan) (read : DataSource → List Json)
    (distinct : (plans.map (·.scenario)).Nodup)
    (loads : ∀ plan ∈ plans, ∀ source ∈ plan.sources, source.load files = .ok (read source)) :
    ∃ stock, load files shuffles plans = .ok stock ∧
      (∀ plan ∈ plans, ∃ order : List Json, order.Perm (plan.sources.flatMap read) ∧
        (plan.order = .sequential → order = plan.sources.flatMap read) ∧
        ∀ requests, ∃ outcomes, InOrder order plan.cyclic outcomes ∧
          outcomes.length = requests.countP (·.1 = plan.scenario) ∧
          stock.outcomesOf plan.scenario requests = outcomes.map .ok ∧
          stock.outcomesOf plan.scenario (requests.filter (·.1 = plan.scenario)) =
            outcomes.map .ok) ∧
      ∀ scenario, scenario ∉ plans.map (·.scenario) → ∀ requests,
        ∀ outcome ∈ stock.outcomesOf scenario requests,
          outcome = .error (.unknownScenario scenario) := by
  obtain ⟨stock, loaded, others, stands⟩ :=
    foldlM_add_eq_ok (s := {}) shuffles distinct (fun _ _ => rfl) loads
  refine ⟨stock, loaded, fun plan member => ?_, fun scenario absent requests => ?_⟩
  · refine ⟨arranged shuffles plan (plan.sources.flatMap read), arranged_perm .., ?_,
      fun requests => ?_⟩
    · intro sequential
      simp [arranged, sequential]
    · have drawn := fun requests => outcomesOf_eq (stands plan member) requests
      simp only [Nat.zero_add] at drawn
      refine ⟨_, inOrder_range _ _ (requests.countP (·.1 = plan.scenario)), ?_, ?_, ?_⟩
      · rw [List.length_map, List.length_range]
      · rw [drawn, List.map_map]
        rfl
      · rw [drawn, List.countP_filter, List.map_map]
        simp only [Bool.and_self]
        rfl
  · exact outcomesOf_unknown (others scenario absent) requests

/-- A pool of two sources that gives each record once, and a shuffled one that starts over. -/
def loginsAndOrders : List PoolPlan :=
  [{ scenario := "login", sources := [.inline [.int 1], .inline [.int 2]] },
    { scenario := "orders", order := .random, cyclic := true, sources := [.inline [.int 7]] }]

theorem outcomes_in_order_interleaved :
    (loginsAndOrders.map (·.scenario)).Nodup ∧
      ∃ stock, load {} .still loginsAndOrders = .ok stock ∧
        stock.outcomesOf "login" [("login", "a"), ("orders", "a"), ("login", "b"), ("none", "b"),
          ("orders", "b"), ("login", "a")] =
          [.ok (.record (.int 1)), .ok (.record (.int 2)), .ok .exhausted] := by
  have distinct : (loginsAndOrders.map (·.scenario)).Nodup := by decide
  have loads : ∀ plan ∈ loginsAndOrders, ∀ source ∈ plan.sources,
      source.load {} = .ok ((source.load {}).toOption.getD []) := by decide
  refine ⟨distinct, ?_⟩
  obtain ⟨stock, loaded, handed, -⟩ :=
    outcomes_in_order {} .still loginsAndOrders _ distinct loads
  refine ⟨stock, loaded, ?_⟩
  obtain ⟨order, -, declared, drawn⟩ := handed _ List.mem_cons_self
  obtain ⟨outcomes, inOrder, length, same, -⟩ := drawn [("login", "a"), ("orders", "a"),
    ("login", "b"), ("none", "b"), ("orders", "b"), ("login", "a")]
  have three : outcomes.length = 3 := length
  have records : order = [.int 1, .int 2] := declared rfl
  have once := inOrder.once rfl
  rw [three, records] at once
  rw [same, once]
  rfl

end Stock

end Muster
