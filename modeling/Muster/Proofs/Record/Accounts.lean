import Muster.Proofs.Record.HandoutOrder
import Muster.Proofs.Table

/-!
What the pools of a stock account for. Whatever is asked for, by whom and in which order, the
summary of a pool tells how many of its records were handed out, to whom, and how many are left; a
request that is not given a record changes no summary. The pools may as well keep a cursor and a
count of what they served apart from each other.
-/

namespace Muster

/-- A request and what came of it. -/
structure Voucher where
  scenario : ScenarioId
  worker : NodeId
  outcome : Except StockError DataOutcome
deriving DecidableEq

namespace Voucher

def isRecord (r : Voucher) : Bool :=
  match r.outcome with
  | .ok (.record _) => true
  | .ok .exhausted | .error _ => false

def recordsFor (scenario : ScenarioId) (vouchers : List Voucher) : Nat :=
  vouchers.countP fun r => r.scenario = scenario && r.isRecord

def recordsTo (scenario : ScenarioId) (worker : NodeId) (vouchers : List Voucher) : Nat :=
  vouchers.countP fun r => r.scenario = scenario && (r.worker = worker && r.isRecord)

theorem recordsFor_concat (scenario : ScenarioId) (vouchers : List Voucher) (r : Voucher) :
    recordsFor scenario (vouchers ++ [r]) = recordsFor scenario vouchers +
      if r.scenario = scenario ∧ r.isRecord = true then 1 else 0 := by
  simp [recordsFor, List.countP_append, List.countP_singleton]

theorem recordsTo_concat (scenario : ScenarioId) (worker : NodeId) (vouchers : List Voucher)
    (r : Voucher) : recordsTo scenario worker (vouchers ++ [r]) =
      recordsTo scenario worker vouchers +
        if r.scenario = scenario ∧ r.worker = worker ∧ r.isRecord = true then 1 else 0 := by
  simp [recordsTo, List.countP_append, List.countP_singleton]

def owned (scenario : ScenarioId) (vouchers : List Voucher) : List Voucher :=
  vouchers.filter (·.scenario = scenario)

end Voucher

/-- A count that is kept from one on. -/
def positive? (count : Nat) : Option Nat := if count = 0 then none else some count

theorem positive?_succ (count : Nat) :
    positive? (count + 1) = some ((positive? count).getD 0 + 1) := by
  unfold positive?
  by_cases zero : count = 0
  · rw [if_neg (Nat.succ_ne_zero _), if_pos zero, zero]
    rfl
  · rw [if_neg (Nat.succ_ne_zero _), if_neg zero]
    rfl

namespace Stock

variable {s : Stock} {scenario : ScenarioId} {worker : NodeId}

def after (s : Stock) (requests : List (ScenarioId × NodeId)) : Stock :=
  requests.foldl (fun s request => (s.request request.1 request.2).stock) s

def vouchers (s : Stock) : List (ScenarioId × NodeId) → List Voucher
  | [] => []
  | (scenario, worker) :: rest =>
    let drawn := s.request scenario worker
    ⟨scenario, worker, drawn.outcome⟩ :: drawn.stock.vouchers rest

/-- What the draws of a pool preserve, and reports and other requests as well, holds of it after
any requests. -/
theorem pool_after {motive : Pool → List Voucher → Prop}
    (reports : ∀ {pool past} reported, motive pool past →
      motive { pool with exhaustionReported := reported } past)
    (own : ∀ {pool past} worker, motive pool past → motive (pool.draw worker).2
      (past ++ [⟨scenario, worker, .ok (pool.draw worker).1⟩]))
    (other : ∀ {pool past} voucher, voucher.scenario ≠ scenario → motive pool past →
      motive pool (past ++ [voucher]))
    (requests : List (ScenarioId × NodeId)) {pool : Pool} {past : List Voucher}
    (found : s.pools.find? scenario = some pool) (start : motive pool past) :
    ∃ later, (s.after requests).pools.find? scenario = some later ∧
      motive later (past ++ s.vouchers requests) := by
  induction requests generalizing s pool past with
  | nil => exact ⟨pool, found, by rw [vouchers, List.append_nil]; exact start⟩
  | cons request rest ih =>
    obtain ⟨asked, worker⟩ := request
    rw [vouchers, List.append_cons]
    by_cases same : asked = scenario
    · subst same
      obtain ⟨outcome, reported, changed⟩ := request_own found worker
      rw [outcome]
      exact ih ((changed asked).trans (if_pos rfl)) (reports reported (own worker start))
    · exact ih ((find?_request_other same worker).trans found) (other _ same start)

theorem isSome_find?_request (asked : ScenarioId) (worker : NodeId) :
    ((s.request asked worker).stock.pools.find? scenario).isSome =
      (s.pools.find? scenario).isSome := by
  by_cases same : asked = scenario
  · subst same
    cases found : s.pools.find? asked with
    | none =>
      have drawn : s.draw asked worker = (.error (.unknownScenario asked), s) := by
        simp [draw, found]
      simp [request, drawn, found]
    | some pool =>
      obtain ⟨-, reported, changed⟩ := request_own found worker
      rw [changed, if_pos rfl]
      rfl
  · rw [find?_request_other same worker]

theorem keys_after (s : Stock) (requests : List (ScenarioId × NodeId)) :
    (s.after requests).pools.keys.Perm s.pools.keys := by
  have bound : ∀ scenario, ((s.after requests).pools.find? scenario).isSome =
      (s.pools.find? scenario).isSome := by
    intro scenario
    induction requests generalizing s with
    | nil => rfl
    | cons request rest ih => exact (ih _).trans (isSome_find?_request request.1 request.2)
  apply (List.perm_ext_iff_of_nodup (Table.nodup_keys _) (Table.nodup_keys _)).mpr
  intro scenario
  rw [Table.mem_keys_iff, Table.mem_keys_iff, bound]

end Stock

/-! ### What pools count -/

namespace Pool

variable {p : Pool} {scenario : ScenarioId} {vouchers : List Voucher}

/-- What the pool counted is what the vouchers of its scenario say. -/
structure Balanced (scenario : ScenarioId) (p : Pool) (vouchers : List Voucher) : Prop where
  served : p.served = Voucher.recordsFor scenario vouchers
  sum : p.perWorker.values.sum = p.served
  perWorker : ∀ worker,
    p.perWorker.find? worker = positive? (Voucher.recordsTo scenario worker vouchers)
  within : p.cyclic = false → p.served ≤ p.records.length

theorem balanced_idle (balanced : p.Balanced scenario vouchers) {voucher : Voucher}
    (idle : ¬(voucher.scenario = scenario ∧ voucher.isRecord = true)) :
    p.Balanced scenario (vouchers ++ [voucher]) := by
  obtain ⟨served, sum, perWorker, within⟩ := balanced
  refine ⟨?_, sum, fun worker => ?_, within⟩
  · rw [Voucher.recordsFor_concat, if_neg idle]
    exact served
  · rw [Voucher.recordsTo_concat, if_neg fun ⟨own, _, record⟩ => idle ⟨own, record⟩]
    exact perWorker worker

theorem balanced_draw (balanced : p.Balanced scenario vouchers) (worker : NodeId) :
    (p.draw worker).2.Balanced scenario
      (vouchers ++ [⟨scenario, worker, .ok (p.draw worker).1⟩]) := by
  rcases p.draw_cases worker with ⟨-, drawn⟩ | ⟨position, record, here, -, drawn⟩
  · rw [drawn]
    exact balanced_idle balanced (by simp [Voucher.isRecord])
  · rw [drawn]
    obtain ⟨served, sum, perWorker, within⟩ := balanced
    refine ⟨?_, ?_, fun other => ?_, ?_⟩
    · rw [Voucher.recordsFor_concat, if_pos ⟨rfl, rfl⟩, ← served]
    · rw [Table.sum_values_add, sum]
    · rw [Voucher.recordsTo_concat, Table.alter, Table.find?_insert]
      by_cases own : other = worker
      · subst own
        rw [if_pos rfl, if_pos ⟨rfl, rfl, rfl⟩, perWorker, positive?_succ]
      · rw [if_neg own, if_neg fun ⟨_, same, _⟩ => own same.symm]
        exact perWorker other
    · intro once
      exact (position?_of_not_cyclic (p := p) once here).2

end Pool

/-! ### Counters that are kept apart -/

/-- A pool with a shelf, whose cursor moves on its own, and counts of what it served. -/
structure Till where
  shelf : Shelf
  total : Nat
  served : Nat := 0
  perWorker : Table NodeId Nat := ∅
deriving DecidableEq

namespace Till

def stocked (records : List Json) (cyclic : Bool) : Till :=
  { shelf := { cells := records, cyclic }, total := records.length }

def draw (t : Till) (worker : NodeId) : DataOutcome × Till :=
  match t.shelf.draw with
  | (.exhausted, shelf) => (.exhausted, { t with shelf })
  | (.record record, shelf) =>
    (.record record,
      { t with
        shelf
        served := t.served + 1
        perWorker := t.perWorker.alter worker fun count => count.getD 0 + 1 })

def summary (t : Till) (scenario : ScenarioId) : PoolSummary :=
  { scenario
    total := t.total
    served := t.served
    remaining := if t.shelf.cyclic then none else some (t.total - t.shelf.cursor)
    perWorker := t.perWorker }

/-- Serves the workers in turn. -/
def serve (t : Till) (workers : List NodeId) : List DataOutcome × Till :=
  workers.foldl (fun (given, till) worker =>
    (given ++ [(till.draw worker).1], (till.draw worker).2)) ([], t)

theorem serve_concat (t : Till) (workers : List NodeId) (worker : NodeId) :
    t.serve (workers ++ [worker]) =
      ((t.serve workers).1 ++ [((t.serve workers).2.draw worker).1],
        ((t.serve workers).2.draw worker).2) := by
  simp only [serve, List.foldl_append, List.foldl_cons, List.foldl_nil]

/-- The till and the pool were asked equally often, and they count alike. -/
structure Tracks (t : Till) (p : Pool) (count : Nat) : Prop where
  shelf : t.shelf.Asked p.records count
  asked : p.Asked count
  cyclic : t.shelf.cyclic = p.cyclic
  total : t.total = p.records.length
  served : t.served = p.served
  perWorker : t.perWorker = p.perWorker

variable {t : Till} {p : Pool} {count : Nat}

theorem Tracks.draw (tracks : t.Tracks p count) (worker : NodeId) :
    (t.draw worker).1 = (p.draw worker).1 ∧
      (t.draw worker).2.Tracks (p.draw worker).2 (count + 1) := by
  obtain ⟨shelf, asked, same, total, served, perWorker⟩ := tracks
  obtain ⟨outcome, cyclic, later⟩ := shelf.gives
  rw [same] at outcome
  rcases p.draw_cases worker with ⟨ended, drawn⟩ | ⟨position, record, here, held, drawn⟩
  · rw [Pool.outcomeAt_eq_exhausted asked ended] at outcome
    have given : t.draw worker = (.exhausted, { t with shelf := t.shelf.draw.2 }) := by
      rw [Till.draw, show t.shelf.draw = (.exhausted, t.shelf.draw.2) from Prod.ext outcome rfl]
    rw [given, drawn]
    exact ⟨rfl, later, Pool.asked_of_exhausted asked ended rfl rfl rfl, cyclic.trans same, total,
      served, perWorker⟩
  · rw [Pool.outcomeAt_eq_record asked here held] at outcome
    have given : t.draw worker = (.record record, { t with
        shelf := t.shelf.draw.2
        served := t.served + 1
        perWorker := t.perWorker.alter worker fun count => count.getD 0 + 1 }) := by
      rw [Till.draw, show t.shelf.draw = (.record record, t.shelf.draw.2) from
        Prod.ext outcome rfl]
    rw [given, drawn]
    refine ⟨rfl, later, Pool.asked_of_record asked here rfl rfl rfl, cyclic.trans same, total,
      congrArg (· + 1) served, ?_⟩
    simp only [perWorker]

theorem Tracks.summary_eq (tracks : t.Tracks p count) : t.summary p.scenario = p.summary := by
  have cursor : t.shelf.cursor = p.served := by
    rw [tracks.shelf.cursor, tracks.cyclic]
    exact tracks.asked.symm
  simp only [Till.summary, Pool.summary, tracks.cyclic, tracks.total, tracks.served,
    tracks.perWorker, cursor]

theorem tracks_stocked (scenario : ScenarioId) (records : List Json) (cyclic : Bool) :
    (stocked records cyclic).Tracks { scenario, records, cyclic } 0 :=
  ⟨⟨rfl, fun _ _ => rfl, by simp [stocked]⟩, by simp [Pool.Asked], rfl, rfl, rfl, rfl⟩

end Till

/-! ### Books of a pool -/

/-- The till gives what the vouchers say, and counts like the pool. -/
structure Mirrors (opened : Till) (p : Pool) (vouchers : List Voucher) : Prop where
  outcomes : vouchers.map (·.outcome) = (opened.serve (vouchers.map (·.worker))).1.map .ok
  tracks : ∃ count, (opened.serve (vouchers.map (·.worker))).2.Tracks p count

/-- The pool still has its records, and it went through these vouchers. -/
structure Booked (scenario : ScenarioId) (records : List Json) (cyclic : Bool) (p : Pool)
    (vouchers : List Voucher) : Prop where
  own : p.scenario = scenario
  held : p.records = records
  around : p.cyclic = cyclic
  balanced : p.Balanced scenario vouchers
  mirrors : Mirrors (Till.stocked records cyclic) p (Voucher.owned scenario vouchers)

section Booked

variable {scenario : ScenarioId} {records : List Json} {cyclic : Bool} {p : Pool}
  {vouchers : List Voucher}

theorem booked_opened : Booked scenario records cyclic { scenario, records, cyclic } [] :=
  ⟨rfl, rfl, rfl, ⟨rfl, rfl, fun _ => rfl, fun _ => Nat.zero_le _⟩,
    ⟨rfl, 0, Till.tracks_stocked scenario records cyclic⟩⟩

theorem Booked.report (booked : Booked scenario records cyclic p vouchers) (reported : Bool) :
    Booked scenario records cyclic { p with exhaustionReported := reported } vouchers := by
  obtain ⟨own, held, around, ⟨served, sum, perWorker, within⟩, outcomes, count, tracks⟩ := booked
  obtain ⟨shelf, asked, same, total, count', workers⟩ := tracks
  exact ⟨own, held, around, ⟨served, sum, perWorker, within⟩, outcomes, count,
    ⟨shelf, asked, same, total, count', workers⟩⟩

theorem Booked.draw (booked : Booked scenario records cyclic p vouchers) (worker : NodeId) :
    Booked scenario records cyclic (p.draw worker).2
      (vouchers ++ [⟨scenario, worker, .ok (p.draw worker).1⟩]) := by
  obtain ⟨own, held, around, balanced, outcomes, count, tracks⟩ := booked
  obtain ⟨given, later⟩ := tracks.draw worker
  have kept : (p.draw worker).2.scenario = p.scenario ∧ (p.draw worker).2.records = p.records ∧
      (p.draw worker).2.cyclic = p.cyclic := by
    rcases p.draw_cases worker with ⟨-, drawn⟩ | ⟨_, _, -, -, drawn⟩ <;> rw [drawn] <;>
      exact ⟨rfl, rfl, rfl⟩
  refine ⟨kept.1.trans own, kept.2.1.trans held, kept.2.2.trans around,
    Pool.balanced_draw balanced worker, ?_⟩
  have last : Voucher.owned scenario (vouchers ++ [⟨scenario, worker, .ok (p.draw worker).1⟩]) =
      Voucher.owned scenario vouchers ++ [⟨scenario, worker, .ok (p.draw worker).1⟩] := by
    simp [Voucher.owned]
  rw [last]
  refine ⟨?_, count + 1, ?_⟩
  · simp only [List.map_append, List.map_cons, List.map_nil, Till.serve_concat, outcomes, given]
  · simp only [List.map_append, List.map_cons, List.map_nil, Till.serve_concat]
    exact later

theorem Booked.other (booked : Booked scenario records cyclic p vouchers) (voucher : Voucher)
    (apart : voucher.scenario ≠ scenario) :
    Booked scenario records cyclic p (vouchers ++ [voucher]) := by
  obtain ⟨own, held, around, balanced, mirrors⟩ := booked
  refine ⟨own, held, around, Pool.balanced_idle balanced fun ⟨same, _⟩ => apart same, ?_⟩
  have skipped : Voucher.owned scenario (vouchers ++ [voucher]) =
      Voucher.owned scenario vouchers := by
    simp [Voucher.owned, apart]
  rw [skipped]
  exact mirrors

end Booked

namespace Stock

variable {s stock : Stock}

theorem keys_of_loaded {files : Files} {shuffles : Shuffles} {plans : List PoolPlan}
    (loaded : load files shuffles plans = .ok stock) :
    stock.pools.keys.Perm (plans.map (·.scenario)) := by
  obtain ⟨distinct, others, bound⟩ := foldlM_add_inv shuffles loaded
  apply (List.perm_ext_iff_of_nodup (Table.nodup_keys _) distinct).mpr
  intro scenario
  rw [Table.mem_keys_iff]
  constructor
  · intro present
    by_contra absent
    rw [others scenario absent] at present
    cases present
  · intro member
    obtain ⟨plan, here, rfl⟩ := List.mem_map.mp member
    obtain ⟨-, pool, -, found⟩ := bound plan here
    rw [found]
    rfl

/-- After any requests, the pool of a plan has gone through their vouchers. -/
theorem booked_after {files : Files} {shuffles : Shuffles} {plans : List PoolPlan}
    (loaded : load files shuffles plans = .ok stock)
    (requests : List (ScenarioId × NodeId)) {plan : PoolPlan} (member : plan ∈ plans) :
    ∃ records order pool, Pool.loadAll files plan.sources = .ok records ∧ order.Perm records ∧
      (stock.after requests).pools.find? plan.scenario = some pool ∧
      Booked plan.scenario order plan.cyclic pool (stock.vouchers requests) := by
  obtain ⟨-, -, bound⟩ := foldlM_add_inv shuffles loaded
  obtain ⟨-, first, made, found⟩ := bound plan member
  obtain ⟨records, order, read, perm, rfl⟩ := of_ofPlan made
  obtain ⟨pool, here, booked⟩ := pool_after (motive := Booked plan.scenario order plan.cyclic)
    (fun reported booked => booked.report reported) (fun worker booked => booked.draw worker)
    (fun voucher apart booked => booked.other voucher apart) requests found booked_opened
  exact ⟨records, order, pool, read, perm, here, booked⟩

theorem summary_setPool {scenario : ScenarioId} {old new : Pool}
    (found : s.pools.find? scenario = some old) (same : new.summary = old.summary) :
    (s.setPool scenario new).summary = s.summary :=
  Table.map_values_insert found same

/-- A request that is not given a record changes no summary. -/
theorem summary_request_idle {scenario : ScenarioId} {worker : NodeId}
    (idle : ∀ record, (s.request scenario worker).outcome ≠ .ok (.record record)) :
    (s.request scenario worker).stock.summary = s.summary := by
  cases found : s.pools.find? scenario with
  | none => simp [request, draw, found]
  | some pool =>
    rcases pool.draw_cases worker with ⟨-, drawn⟩ | ⟨_, record, -, -, drawn⟩
    · have here : s.draw scenario worker = (.ok .exhausted, s.setPool scenario pool) := by
        simp [draw, found, drawn]
      have again : (s.setPool scenario pool).pools.find? scenario = some pool := by simp [setPool]
      have claimed : pool.claimReport.2.summary = pool.summary := rfl
      simp only [request, here, reportExhausted, again]
      exact (summary_setPool again claimed).trans (summary_setPool found rfl)
    · have given := (request_own found worker).1
      rw [drawn] at given
      exact absurd given (idle record)

/-- A pool that is not cyclic is exhausted when it handed out as many records as it has. -/
theorem exhausted_iff {scenario : ScenarioId} {pool : Pool}
    (found : s.pools.find? scenario = some pool) (once : pool.cyclic = false) (worker : NodeId) :
    (s.request scenario worker).outcome = .ok .exhausted ↔ pool.records.length ≤ pool.served := by
  rw [(request_own found worker).1]
  rcases pool.draw_cases worker with ⟨ended, drawn⟩ | ⟨position, record, here, -, drawn⟩
  · rw [drawn]
    exact iff_of_true rfl (Pool.length_le_served once ended)
  · have going := (Pool.position?_of_not_cyclic once here).2
    rw [drawn]
    exact iff_of_false nofun (Nat.not_le.mpr going)

/-- What a summary tells of the pool that was built of a plan with these records. -/
structure Accounts (t : Stock) (plan : PoolPlan) (records : List Json) (vouchers : List Voucher)
    (summary : PoolSummary) : Prop where
  scenario : summary.scenario = plan.scenario
  total : summary.total = records.length
  served : summary.served = Voucher.recordsFor plan.scenario vouchers
  sum : summary.perWorker.values.sum = summary.served
  perWorker : ∀ worker, summary.perWorker.find? worker =
    positive? (Voucher.recordsTo plan.scenario worker vouchers)
  around : plan.cyclic = true → summary.remaining = none
  once : plan.cyclic = false → summary.served ≤ summary.total ∧
    summary.remaining = some (summary.total - summary.served)
  spent : plan.cyclic = false → ∀ worker, summary.remaining = some 0 ↔
    (t.request plan.scenario worker).outcome = .ok .exhausted
  /-- a till that keeps its counters apart gives the same outcomes and counts the same -/
  apart : ∃ order : List Json, order.Perm records ∧ ∃ outcomes till,
    (Till.stocked order plan.cyclic).serve
      ((Voucher.owned plan.scenario vouchers).map (·.worker)) = (outcomes, till) ∧
    (Voucher.owned plan.scenario vouchers).map (·.outcome) = outcomes.map .ok ∧
    summary = till.summary plan.scenario

theorem accounts_of_booked {t : Stock} {plan : PoolPlan} {records order : List Json} {pool : Pool}
    {vouchers : List Voucher} (perm : order.Perm records)
    (found : t.pools.find? plan.scenario = some pool)
    (booked : Booked plan.scenario order plan.cyclic pool vouchers) :
    t.Accounts plan records vouchers pool.summary := by
  obtain ⟨own, rfl, around, balanced, outcomes, count, tracks⟩ := booked
  have remaining : plan.cyclic = false →
      pool.summary.remaining = some (pool.records.length - pool.served) := by
    intro once
    simp [Pool.summary, around, once]
  refine ⟨own, perm.length_eq, balanced.served, balanced.sum, balanced.perWorker, ?_, ?_, ?_, ?_⟩
  · intro cyclic
    simp [Pool.summary, around, cyclic]
  · intro once
    exact ⟨balanced.within (around.trans once), remaining once⟩
  · intro once worker
    rw [exhausted_iff found (around.trans once), remaining once, Option.some.injEq]
    omega
  · have same := tracks.summary_eq
    rw [own] at same
    exact ⟨pool.records, perm, _, _, rfl, outcomes, same.symm⟩

/-- Whatever was asked for, there is a summary for each plan and no other, and it accounts for the
records that were handed out; a request that is not given a record changes none. -/
theorem accounts_exact {files : Files} {shuffles : Shuffles} {plans : List PoolPlan}
    (loaded : load files shuffles plans = .ok stock) (requests : List (ScenarioId × NodeId)) :
    (plans.map (·.scenario)).Nodup ∧
      ((stock.after requests).summary.map (·.scenario)).Perm (plans.map (·.scenario)) ∧
      (∀ summary ∈ (stock.after requests).summary, ∃ plan ∈ plans, ∃ records,
        Pool.loadAll files plan.sources = .ok records ∧
        (stock.after requests).Accounts plan records (stock.vouchers requests) summary) ∧
      ∀ scenario worker, (∀ record, ((stock.after requests).request scenario worker).outcome ≠
          .ok (.record record)) →
        ((stock.after requests).request scenario worker).stock.summary =
          (stock.after requests).summary := by
  have keys := (keys_after stock requests).trans (keys_of_loaded loaded)
  have booked : ∀ entry ∈ (stock.after requests).pools.entries, ∃ plan ∈ plans,
      plan.scenario = entry.1 ∧ ∃ records, Pool.loadAll files plan.sources = .ok records ∧
        (stock.after requests).Accounts plan records (stock.vouchers requests)
          entry.2.summary := by
    intro entry member
    obtain ⟨plan, here, same⟩ := List.mem_map.mp (keys.mem_iff.mp (List.mem_map_of_mem member))
    obtain ⟨records, order, pool, read, perm, found, booked⟩ := booked_after loaded requests here
    have held := Table.find?_eq_some_iff_mem.mpr member
    rw [← same, found] at held
    rw [← Option.some.inj held]
    exact ⟨plan, here, same, records, read, accounts_of_booked perm found booked⟩
  refine ⟨(foldlM_add_inv shuffles loaded).1, ?_, ?_, fun _ _ => summary_request_idle⟩
  · have named : (stock.after requests).summary.map (·.scenario) =
        (stock.after requests).pools.keys := by
      simp only [summary, Table.values, Table.keys, List.map_map]
      refine List.map_congr_left fun entry member => ?_
      obtain ⟨plan, -, same, _, -, accounts⟩ := booked entry member
      exact accounts.scenario.trans same
    rw [named]
    exact keys
  · intro summary member
    obtain ⟨pool, held, rfl⟩ := List.mem_map.mp member
    obtain ⟨entry, inside, rfl⟩ := List.mem_map.mp held
    obtain ⟨plan, here, -, rest⟩ := booked entry inside
    exact ⟨plan, here, rest⟩

/-- Two workers ask for records of both pools, once too often, and for a pool that is not there. -/
def interleaved : List (ScenarioId × NodeId) :=
  [("login", "a"), ("orders", "a"), ("login", "b"), ("none", "b"), ("orders", "b"), ("login", "a")]

theorem accounts_exact_interleaved :
    ∃ stock, load {} .still loginsAndOrders = .ok stock ∧
      ((stock.after interleaved).summary.map (·.scenario)).Perm ["login", "orders"] ∧
      ∀ summary ∈ (stock.after interleaved).summary,
        summary.served = Voucher.recordsFor summary.scenario (stock.vouchers interleaved) ∧
          summary.perWorker.find? "a" =
            positive? (Voucher.recordsTo summary.scenario "a" (stock.vouchers interleaved)) := by
  obtain ⟨stock, loaded⟩ : ∃ stock, load {} .still loginsAndOrders = .ok stock :=
    ⟨_, rfl⟩
  obtain ⟨-, scenarios, accounts, -⟩ := accounts_exact loaded interleaved
  refine ⟨stock, loaded, scenarios, fun summary member => ?_⟩
  obtain ⟨plan, -, records, -, told⟩ := accounts summary member
  rw [told.scenario]
  exact ⟨told.served, told.perWorker "a"⟩

example : (load {} .still loginsAndOrders).toOption.map (fun stock =>
    (stock.after interleaved).summary.map fun summary => (summary.served, summary.remaining)) =
      some [(2, some 0), (2, none)] := by
  decide

end Stock

end Muster
