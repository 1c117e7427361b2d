import Muster.Record.Stock

/-!
What a request does to a stock. It draws at the position of the addressed pool, or finds the pool
at its end, or finds no pool; every other pool stays as it is, and no pool ever changes its records.
-/

namespace Muster

namespace Pool

theorem position?_lt {p : Pool} {position : Nat} (here : p.position? = some position) :
    position < p.records.length := by
  unfold position? at here
  split at here
  · cases here
  · rename_i going
    obtain rfl := Option.some.inj here
    have filled : p.records.length ≠ 0 := by
      intro empty
      simp [List.isEmpty_iff_length_eq_zero.mpr empty] at going
    exact Nat.mod_lt _ (Nat.pos_of_ne_zero filled)

/-- A pool that is not cyclic hands out at the position that counts what it served. -/
theorem position?_of_not_cyclic {p : Pool} {position : Nat} (once : p.cyclic = false)
    (here : p.position? = some position) : position = p.served ∧ p.served < p.records.length := by
  unfold position? at here
  split at here
  · cases here
  · rename_i going
    have more : p.served < p.records.length := by simp_all
    rw [Nat.mod_eq_of_lt more] at here
    exact ⟨(Option.some.inj here).symm, more⟩

theorem length_le_served {p : Pool} (once : p.cyclic = false) (done : p.position? = none) :
    p.records.length ≤ p.served := by
  unfold position? at done
  split at done
  · rename_i ended
    simp only [once, Bool.not_false, Bool.true_and, Bool.or_eq_true, List.isEmpty_iff,
      decide_eq_true_eq] at ended
    rcases ended with empty | past
    · simp [empty]
    · exact past
  · cases done

theorem next?_eq_none {p : Pool} (done : p.next? = none) : p.position? = none := by
  unfold next? at done
  cases here : p.position? with
  | none => rfl
  | some position => simp [here, position?_lt here] at done

/-- The second pool holds the records of the first one and has served no fewer. -/
structure Advances (p q : Pool) : Prop where
  records : q.records = p.records
  cyclic : q.cyclic = p.cyclic
  served : p.served ≤ q.served

theorem Advances.refl (p : Pool) : p.Advances p := ⟨rfl, rfl, Nat.le_refl _⟩

theorem next?_eq_some {p : Pool} {record : Json} (next : p.next? = some record) :
    ∃ position, p.position? = some position ∧ p.records[position]? = some record :=
  Option.bind_eq_some_iff.mp next

theorem draw_cases (p : Pool) (worker : NodeId) :
    (p.position? = none ∧ p.draw worker = (.exhausted, p)) ∨
      ∃ position record, p.position? = some position ∧ p.records[position]? = some record ∧
        p.draw worker = (.record record, { p with
          served := p.served + 1
          perWorker := p.perWorker.alter worker fun count => count.getD 0 + 1 }) := by
  cases next : p.next? with
  | none => exact .inl ⟨next?_eq_none next, by simp [draw, next]⟩
  | some record =>
    obtain ⟨position, here, held⟩ := next?_eq_some next
    exact .inr ⟨position, record, here, held, by simp [draw, next]⟩

/-- Reading stops at the first source that cannot be read. -/
theorem loadAll_cases (files : Files) (sources : List DataSource) :
    (∃ fault, loadAll files sources = .error fault ∧
      ∃ source ∈ sources, source.load files = .error fault) ∨
    (∃ records, loadAll files sources = .ok records) ∧
      ∀ source ∈ sources, ∃ records, source.load files = .ok records := by
  induction sources with
  | nil => exact .inr ⟨⟨[], rfl⟩, nofun⟩
  | cons source rest ih =>
    cases first : source.load files with
    | error fault =>
      exact .inl ⟨fault, by rw [loadAll, first]; rfl, source, List.mem_cons_self, first⟩
    | ok records =>
      rcases ih with ⟨fault, failed, other, member, here⟩ | ⟨⟨more, loaded⟩, all⟩
      · refine .inl ⟨fault, ?_, other, List.mem_cons_of_mem _ member, here⟩
        rw [loadAll, first, failed]
        rfl
      · refine .inr ⟨⟨records ++ more, by rw [loadAll, first, loaded]; rfl⟩, ?_⟩
        rintro other (_ | ⟨_, member⟩)
        · exact ⟨records, first⟩
        · exact all other member

end Pool

/-- All sources of the plan can be read. -/
def PoolPlan.Loads (files : Files) (plan : PoolPlan) : Prop :=
  ∀ source ∈ plan.sources, ∃ records, source.load files = .ok records

namespace Stock

/-- What happened to the pool of a request: where it was, what came of it, and how it went on. -/
inductive Turn (s : Stock) (scenario : ScenarioId) (drawn : Drawn) : Prop
  | unknown (missing : s.pools.find? scenario = none)
      (outcome : drawn.outcome = .error (.unknownScenario scenario))
      (same : ∀ other, drawn.stock.pools.find? other = s.pools.find? other)
  | exhausted (pool after : Pool) (found : s.pools.find? scenario = some pool)
      (ended : pool.position? = none) (outcome : drawn.outcome = .ok .exhausted)
      (records : after.records = pool.records) (cyclic : after.cyclic = pool.cyclic)
      (served : after.served = pool.served)
      (changed : ∀ other, drawn.stock.pools.find? other =
        if other = scenario then some after else s.pools.find? other)
  | record (pool after : Pool) (position : Nat) (record : Json)
      (found : s.pools.find? scenario = some pool) (here : pool.position? = some position)
      (held : pool.records[position]? = some record)
      (outcome : drawn.outcome = .ok (.record record))
      (records : after.records = pool.records) (cyclic : after.cyclic = pool.cyclic)
      (served : after.served = pool.served + 1)
      (changed : ∀ other, drawn.stock.pools.find? other =
        if other = scenario then some after else s.pools.find? other)

/-- A request draws at its pool, which may remember besides that its end was reported. -/
theorem request_own {s : Stock} {scenario : ScenarioId} {pool : Pool}
    (found : s.pools.find? scenario = some pool) (worker : NodeId) :
    (s.request scenario worker).outcome = .ok (pool.draw worker).1 ∧
      ∃ reported, ∀ other, (s.request scenario worker).stock.pools.find? other =
        if other = scenario then
          some { (pool.draw worker).2 with exhaustionReported := reported }
        else s.pools.find? other := by
  rcases pool.draw_cases worker with ⟨-, drawn⟩ | ⟨_, record, -, -, drawn⟩
  · have here : s.draw scenario worker = (.ok .exhausted, s.setPool scenario pool) := by
      simp [draw, found, drawn]
    refine ⟨by simp [request, here, drawn], true, fun other => ?_⟩
    by_cases own : other = scenario <;>
      simp [request, here, drawn, reportExhausted, setPool, Pool.claimReport, own]
  · have here : s.draw scenario worker =
        (.ok (.record record), s.setPool scenario (pool.draw worker).2) := by
      simp [draw, found, drawn]
    refine ⟨by simp [request, here, drawn], (pool.draw worker).2.exhaustionReported,
      fun other => ?_⟩
    simp only [request, here, setPool, Table.find?_insert]

theorem request_turn (s : Stock) (scenario : ScenarioId) (worker : NodeId) :
    s.Turn scenario (s.request scenario worker) := by
  cases found : s.pools.find? scenario with
  | none =>
    have drawn : s.draw scenario worker = (.error (.unknownScenario scenario), s) := by
      simp [draw, found]
    refine .unknown found ?_ ?_ <;> simp [request, drawn]
  | some pool =>
    obtain ⟨outcome, reported, changed⟩ := request_own found worker
    rcases pool.draw_cases worker with ⟨ended, drawn⟩ | ⟨position, record, here, held, drawn⟩
    · rw [drawn] at outcome changed
      refine .exhausted pool _ found ended outcome ?_ ?_ ?_ changed <;> rfl
    · rw [drawn] at outcome changed
      refine .record pool _ position record found here held outcome ?_ ?_ ?_ changed <;> rfl

/-! ### Loading -/

def Untouched (s : Stock) : Prop :=
  ∀ scenario pool, s.pools.find? scenario = some pool → pool.served = 0

/-- A pool that was made of a plan has the records of its sources, in some order. -/
theorem of_ofPlan {files : Files} {shuffle : Shuffle} {plan : PoolPlan} {pool : Pool}
    (made : Pool.ofPlan files shuffle plan = .ok pool) :
    ∃ records order, Pool.loadAll files plan.sources = .ok records ∧ order.Perm records ∧
      pool = { scenario := plan.scenario, records := order, cyclic := plan.cyclic } := by
  unfold Pool.ofPlan at made
  cases loaded : Pool.loadAll files plan.sources with
  | error fault =>
    rw [loaded] at made
    cases made
  | ok records =>
    rw [loaded] at made
    obtain rfl := Except.ok.inj made
    refine ⟨records, _, rfl, ?_, rfl⟩
    split
    · exact shuffle.perm records
    · exact List.Perm.refl _

theorem of_add {files : Files} {shuffle : Shuffle} {s t : Stock} {plan : PoolPlan}
    (added : s.add files shuffle plan = .ok t) : s.pools.find? plan.scenario = none ∧
      ∃ pool, Pool.ofPlan files shuffle plan = .ok pool ∧
        t = ⟨s.pools.insert plan.scenario pool⟩ := by
  unfold add at added
  split at added
  · cases added
  · rename_i absent
    have fresh := Option.not_isSome_iff_eq_none.mp absent
    split at added
    · rename_i pool made
      exact ⟨fresh, pool, made, (Except.ok.inj added).symm⟩
    · cases added

/-- Plans that were all added are for distinct scenarios, and each has its pool. -/
theorem foldlM_add_inv {files : Files} (shuffles : Shuffles) {plans : List PoolPlan}
    {s t : Stock}
    (loaded : plans.foldlM (fun s plan => s.add files (shuffles plan.scenario) plan) s = .ok t) :
    (plans.map (·.scenario)).Nodup ∧
      (∀ scenario, scenario ∉ plans.map (·.scenario) →
        t.pools.find? scenario = s.pools.find? scenario) ∧
      ∀ plan ∈ plans, s.pools.find? plan.scenario = none ∧
        ∃ pool, Pool.ofPlan files (shuffles plan.scenario) plan = .ok pool ∧
          t.pools.find? plan.scenario = some pool := by
  induction plans generalizing s with
  | nil =>
    obtain rfl := Except.ok.inj loaded
    exact ⟨List.nodup_nil, fun _ _ => rfl, nofun⟩
  | cons plan rest ih =>
    rw [List.foldlM_cons] at loaded
    cases added : s.add files (shuffles plan.scenario) plan with
    | error error =>
      rw [added] at loaded
      cases loaded
    | ok mid =>
      rw [added] at loaded
      obtain ⟨fresh, pool, made, rfl⟩ := of_add added
      obtain ⟨distinct, others, bound⟩ := ih loaded
      have new : plan.scenario ∉ rest.map (·.scenario) := by
        intro member
        obtain ⟨other, later, same⟩ := List.mem_map.mp member
        have absent := (bound other later).1
        rw [Table.find?_insert, if_pos same] at absent
        cases absent
      refine ⟨List.nodup_cons.mpr ⟨new, distinct⟩, fun scenario absent => ?_, ?_⟩
      · obtain ⟨apart, later⟩ := not_or.mp (mt List.mem_cons.mpr absent)
        rw [others scenario later, Table.find?_insert, if_neg apart]
      · intro other member
        rcases List.mem_cons.mp member with rfl | later
        · refine ⟨fresh, pool, made, ?_⟩
          rw [others other.scenario new, Table.find?_insert, if_pos rfl]
        · obtain ⟨absent, rest⟩ := bound other later
          rw [Table.find?_insert] at absent
          split at absent
          · cases absent
          · exact ⟨absent, rest⟩

/-- The pools of a stock that was just loaded are as they were made. -/
theorem new_of_loaded {files : Files} (shuffles : Shuffles) {plans : List PoolPlan}
    {s : Stock} {scenario : ScenarioId} {pool : Pool}
    (loaded : plans.foldlM (fun (s : Stock) plan => s.add files (shuffles plan.scenario) plan) {} =
      .ok s)
    (found : s.pools.find? scenario = some pool) :
    ∃ records cyclic, pool = { scenario, records, cyclic } := by
  obtain ⟨-, others, bound⟩ := foldlM_add_inv shuffles loaded
  by_cases member : scenario ∈ plans.map (·.scenario)
  · obtain ⟨plan, here, rfl⟩ := List.mem_map.mp member
    obtain ⟨-, first, made, same⟩ := bound plan here
    obtain ⟨_, order, -, -, rfl⟩ := of_ofPlan made
    exact ⟨order, plan.cyclic, Option.some.inj (found.symm.trans same)⟩
  · rw [others scenario member] at found
    cases found

theorem load_untouched {files : Files} {shuffles : Shuffles}
    {plans : List PoolPlan} {s : Stock} (loaded : load files shuffles plans = .ok s) :
    s.Untouched := by
  intro scenario pool found
  obtain ⟨_, _, rfl⟩ := new_of_loaded shuffles loaded found
  rfl

/-- A plan for a new scenario is added unless one of its sources cannot be read. -/
theorem add_cases (files : Files) (shuffle : Shuffle) {s : Stock} {plan : PoolPlan}
    (fresh : s.pools.find? plan.scenario = none) :
    (∃ path fault, s.add files shuffle plan = .error (.source path fault) ∧
      ∃ source ∈ plan.sources, source.load files = .error (path, fault)) ∨
    plan.Loads files ∧ ∃ pool,
      s.add files shuffle plan = .ok ⟨s.pools.insert plan.scenario pool⟩ := by
  have absent : s.pools.contains plan.scenario = false := by rw [Table.contains, fresh]; rfl
  rcases Pool.loadAll_cases files plan.sources with
    ⟨⟨path, fault⟩, failed, fails⟩ | ⟨⟨records, loaded⟩, all⟩
  · refine .inl ⟨path, fault, ?_, fails⟩
    rw [add, absent, Pool.ofPlan, failed]
    rfl
  · rw [add, absent, Pool.ofPlan, loaded]
    exact .inr ⟨all, _, rfl⟩

/-- Plans for distinct scenarios are all added, unless a source cannot be read. -/
theorem foldlM_add_cases (files : Files) (shuffles : Shuffles) {plans : List PoolPlan}
    {s : Stock} (distinct : (plans.map (·.scenario)).Nodup)
    (fresh : ∀ plan ∈ plans, s.pools.find? plan.scenario = none) :
    (∃ path fault, plans.foldlM (fun s plan => s.add files (shuffles plan.scenario) plan) s =
        .error (.source path fault) ∧
      ∃ plan ∈ plans, ∃ source ∈ plan.sources, source.load files = .error (path, fault)) ∨
    (∃ t, plans.foldlM (fun s plan => s.add files (shuffles plan.scenario) plan) s = .ok t) ∧
      ∀ plan ∈ plans, plan.Loads files := by
  induction plans generalizing s with
  | nil => exact .inr ⟨⟨s, rfl⟩, nofun⟩
  | cons plan rest ih =>
    obtain ⟨new, distinct⟩ := List.nodup_cons.mp distinct
    rw [List.foldlM_cons]
    rcases add_cases files (shuffles plan.scenario) (fresh plan List.mem_cons_self) with
      ⟨path, fault, failed, fails⟩ | ⟨loads, pool, added⟩
    · exact .inl ⟨path, fault, by rw [failed]; rfl, plan, List.mem_cons_self, fails⟩
    · rw [added]
      have others : ∀ other ∈ rest,
          (s.pools.insert plan.scenario pool).find? other.scenario = none := by
        intro other member
        rw [Table.find?_insert, if_neg fun same => new (List.mem_map.mpr ⟨other, member, same⟩)]
        exact fresh other (List.mem_cons_of_mem _ member)
      rcases ih distinct others with
        ⟨path, fault, failed, other, member, fails⟩ | ⟨⟨t, loaded⟩, all⟩
      · exact .inl ⟨path, fault, failed, other, List.mem_cons_of_mem _ member, fails⟩
      · refine .inr ⟨⟨t, loaded⟩, ?_⟩
        rintro other (_ | ⟨_, member⟩)
        · exact loads
        · exact all other member

theorem load_cases (files : Files) (shuffles : Shuffles) {plans : List PoolPlan}
    (distinct : (plans.map (·.scenario)).Nodup) :
    (∃ path fault, load files shuffles plans = .error (.source path fault) ∧
      ∃ plan ∈ plans, ∃ source ∈ plan.sources, source.load files = .error (path, fault)) ∨
    (∃ stock, load files shuffles plans = .ok stock) ∧ ∀ plan ∈ plans, plan.Loads files :=
  foldlM_add_cases files shuffles distinct fun _ _ => rfl

end Stock

end Muster
