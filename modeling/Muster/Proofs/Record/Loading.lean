import Muster.Proofs.Record.Accounts

/-!
Which plans make a stock, and in which error they end otherwise. Plans are taken in order, and each
is checked for its scenario before its sources are read: the first plan that offends decides, and in
it the scenario before the first source that cannot be read.
-/

namespace Muster

namespace Pool

variable {files : Files} {sources : List DataSource} {fault : String × SourceFault}

theorem loadAll_eq_mapM (files : Files) (sources : List DataSource) :
    loadAll files sources = (sources.mapM (DataSource.load files)).map List.flatten := by
  induction sources with
  | nil => rfl
  | cons source rest ih =>
    rw [loadAll, ih, List.mapM_cons]
    cases source.load files with
    | error fault => rfl
    | ok records => cases rest.mapM (DataSource.load files) <;> rfl

theorem loadAll_eq_error {fine rest : List DataSource} {source : DataSource}
    (loads : ∀ other ∈ fine, ∃ records, other.load files = .ok records)
    (fails : source.load files = .error fault) :
    loadAll files (fine ++ source :: rest) = .error fault := by
  induction fine with
  | nil =>
    rw [List.nil_append, loadAll, fails]
    rfl
  | cons first fine ih =>
    obtain ⟨records, read⟩ := loads first List.mem_cons_self
    rw [List.cons_append, loadAll, read, ih fun other member => loads other (.tail _ member)]
    rfl

/-- Reading that fails comes to a first source that cannot be read. -/
theorem stops_of_loadAll (failed : loadAll files sources = .error fault) :
    ∃ fine source rest, sources = fine ++ source :: rest ∧
      (∀ other ∈ fine, ∃ records, other.load files = .ok records) ∧
      source.load files = .error fault := by
  induction sources with
  | nil => cases failed
  | cons first rest ih =>
    rw [loadAll] at failed
    cases read : first.load files with
    | error early =>
      rw [read] at failed
      cases failed
      exact ⟨[], first, rest, rfl, List.forall_mem_nil _, read⟩
    | ok records =>
      cases later : loadAll files rest with
      | ok more =>
        rw [read, later] at failed
        cases failed
      | error late =>
        rw [read, later] at failed
        cases failed
        obtain ⟨fine, source, others, parts, loads, fails⟩ := ih later
        refine ⟨first :: fine, source, others, congrArg (first :: ·) parts, ?_, fails⟩
        rintro other (_ | ⟨_, member⟩)
        · exact ⟨records, read⟩
        · exact loads other member

end Pool

namespace Stock

variable {files : Files} {shuffles : Shuffles} {plans : List PoolPlan}
  {plan : PoolPlan} {s stock : Stock} {error : StockError}

/-- What is wrong with a plan that comes after plans for these scenarios. -/
inductive Offends (files : Files) (before : List ScenarioId) (plan : PoolPlan) : StockError → Prop
  | again (taken : plan.scenario ∈ before) :
    Offends files before plan (.duplicateScenario plan.scenario)
  | unread (fine rest : List DataSource) (source : DataSource) (path : String) (fault : SourceFault)
      (fresh : plan.scenario ∉ before) (parts : plan.sources = fine ++ source :: rest)
      (loads : ∀ other ∈ fine, ∃ records, other.load files = .ok records)
      (fails : source.load files = .error (path, fault)) :
    Offends files before plan (.source path fault)

theorem add_eq_error_iff {before : List ScenarioId} (shuffle : Shuffle)
    (keys : ∀ scenario, s.pools.contains scenario = true ↔ scenario ∈ before) :
    s.add files shuffle plan = .error error ↔ Offends files before plan error := by
  constructor
  · intro failed
    rw [add] at failed
    split at failed
    · rename_i taken
      cases failed
      exact .again ((keys _).mp taken)
    · rename_i absent
      have fresh := mt (keys _).mpr absent
      cases read : Pool.loadAll files plan.sources with
      | ok records =>
        rw [Pool.ofPlan, read] at failed
        cases failed
      | error fault =>
        rw [Pool.ofPlan, read] at failed
        cases failed
        obtain ⟨fine, source, rest, parts, loads, fails⟩ := Pool.stops_of_loadAll read
        exact .unread fine rest source _ _ fresh parts loads fails
  · intro offends
    cases offends with
    | again taken => rw [add, if_pos ((keys _).mpr taken)]
    | unread fine rest source path fault fresh parts loads fails =>
      rw [add, if_neg (mt (keys _).mp fresh), Pool.ofPlan, parts,
        Pool.loadAll_eq_error loads fails]
      rfl

/-! ### All plans -/

/-- A run of steps fails at the first step that does. -/
theorem foldlM_eq_error_iff {ε σ α : Type} {step : σ → α → Except ε σ} {items : List α} {s : σ}
    {error : ε} :
    items.foldlM step s = .error error ↔
      ∃ before item after mid, items = before ++ item :: after ∧
        before.foldlM step s = .ok mid ∧ step mid item = .error error := by
  constructor
  · intro failed
    induction items generalizing s with
    | nil => cases failed
    | cons item rest ih =>
      rw [List.foldlM_cons] at failed
      cases stepped : step s item with
      | error early =>
        rw [stepped] at failed
        cases failed
        exact ⟨[], item, rest, s, rfl, rfl, stepped⟩
      | ok next =>
        rw [stepped] at failed
        obtain ⟨before, last, after, mid, rfl, reached, fails⟩ := ih failed
        refine ⟨item :: before, last, after, mid, rfl, ?_, fails⟩
        rw [List.foldlM_cons, stepped]
        exact reached
  · rintro ⟨before, item, after, mid, rfl, reached, fails⟩
    rw [List.foldlM_append, reached]
    change (item :: after).foldlM step mid = _
    rw [List.foldlM_cons, fails]
    rfl

theorem loads_of_ofPlan {shuffle : Shuffle} {pool : Pool}
    (made : Pool.ofPlan files shuffle plan = .ok pool) : plan.Loads files := by
  obtain ⟨records, _, loaded, -⟩ := of_ofPlan made
  rcases Pool.loadAll_cases files plan.sources with ⟨fault, failed, -⟩ | ⟨-, all⟩
  · cases loaded.symm.trans failed
  · exact all

theorem load_eq_ok_iff :
    (∃ stock, load files shuffles plans = .ok stock) ↔
      (plans.map (·.scenario)).Nodup ∧ ∀ plan ∈ plans, plan.Loads files := by
  constructor
  · rintro ⟨stock, loaded⟩
    obtain ⟨distinct, -, bound⟩ := foldlM_add_inv shuffles loaded
    refine ⟨distinct, fun plan member => ?_⟩
    obtain ⟨-, pool, made, -⟩ := bound plan member
    exact loads_of_ofPlan made
  · rintro ⟨distinct, loads⟩
    have read : ∀ plan ∈ plans, ∀ source ∈ plan.sources,
        source.load files = .ok ((source.load files).toOption.getD []) := by
      intro plan member source here
      obtain ⟨records, loaded⟩ := loads plan member source here
      rw [loaded]
      rfl
    obtain ⟨stock, loaded, -⟩ := foldlM_add_eq_ok (s := {}) shuffles distinct (fun _ _ => rfl) read
    exact ⟨stock, loaded⟩

theorem scenarios_of_loaded (loaded : load files shuffles plans = .ok stock) :
    stock.scenarios = (plans.map (·.scenario)).mergeSort (fun a b => (compare a b).isLE) := by
  have ordered : stock.scenarios.Pairwise fun a b => (compare a b).isLE = true := by
    refine List.pairwise_map.mpr (stock.pools.sorted.imp fun below => ?_)
    rw [below]
    rfl
  have total : ∀ a b : ScenarioId, ((compare a b).isLE || (compare b a).isLE) = true := by
    intro a b
    have swap : compare b a = (compare a b).swap := Std.OrientedCmp.eq_swap
    rw [swap]
    cases compare a b <;> rfl
  have sorted := List.pairwise_mergeSort (fun _ _ _ => Std.TransCmp.isLE_trans) total
    (plans.map (·.scenario))
  have antisymm : ∀ a b : ScenarioId, (compare a b).isLE = true → (compare b a).isLE = true →
      a = b := fun _ _ below above =>
    Std.LawfulEqCmp.eq_of_compare (Std.OrientedCmp.isLE_antisymm below above)
  exact ((keys_of_loaded loaded).trans (List.mergeSort_perm _ _).symm).eq_of_pairwise
    (fun a b _ _ => antisymm a b) ordered sorted

/-- The pool of a plan has as many records as its sources have together. -/
theorem total_of_loaded (loaded : load files shuffles plans = .ok stock)
    (member : plan ∈ plans) :
    ∃ pool records, stock.pools.find? plan.scenario = some pool ∧
      plan.sources.mapM (DataSource.load files) = .ok records ∧
      pool.summary.total = (records.map List.length).sum := by
  obtain ⟨-, -, bound⟩ := foldlM_add_inv shuffles loaded
  obtain ⟨-, pool, made, found⟩ := bound plan member
  obtain ⟨records, order, read, perm, rfl⟩ := of_ofPlan made
  rw [Pool.loadAll_eq_mapM] at read
  cases each : plan.sources.mapM (DataSource.load files) with
  | error fault =>
    rw [each] at read
    cases read
  | ok parts =>
    rw [each] at read
    cases read
    exact ⟨_, parts, found, rfl, perm.length_eq.trans List.length_flatten⟩

/-- Plans make a stock if they are for distinct scenarios and all their sources can be read. It has
a pool for each of them with the records of its sources. Otherwise the first plan that offends
decides the error, even if others, or sources of its own, would fail as well. -/
theorem loadEach_told (files : Files) (shuffles : Shuffles) (plans : List PoolPlan) :
    ((∃ stock, load files shuffles plans = .ok stock) ↔
      (plans.map (·.scenario)).Nodup ∧ ∀ plan ∈ plans, plan.Loads files) ∧
    (∀ stock, load files shuffles plans = .ok stock →
      stock.scenarios = (plans.map (·.scenario)).mergeSort (fun a b => (compare a b).isLE) ∧
      ∀ plan ∈ plans, ∃ pool records, stock.pools.find? plan.scenario = some pool ∧
        plan.sources.mapM (DataSource.load files) = .ok records ∧
        pool.summary.total = (records.map List.length).sum) ∧
    ∀ error, load files shuffles plans = .error error ↔
      ∃ before plan after, plans = before ++ plan :: after ∧
        ((before.map (·.scenario)).Nodup ∧ ∀ earlier ∈ before, earlier.Loads files) ∧
        Offends files (before.map (·.scenario)) plan error := by
  have keys : ∀ {before : List PoolPlan} {mid : Stock}, load files shuffles before = .ok mid →
      ∀ scenario, mid.pools.contains scenario = true ↔ scenario ∈ before.map (·.scenario) :=
    fun loaded _ => Table.mem_keys_iff.symm.trans (keys_of_loaded loaded).mem_iff
  refine ⟨load_eq_ok_iff, fun stock loaded =>
    ⟨scenarios_of_loaded loaded, fun plan member => total_of_loaded loaded member⟩,
    fun error => foldlM_eq_error_iff.trans ⟨?_, ?_⟩⟩
  · rintro ⟨before, plan, after, mid, parts, reached, fails⟩
    exact ⟨before, plan, after, parts, load_eq_ok_iff.mp ⟨mid, reached⟩,
      (add_eq_error_iff _ (keys reached)).mp fails⟩
  · rintro ⟨before, plan, after, parts, sound, offends⟩
    obtain ⟨mid, reached⟩ := load_eq_ok_iff.mpr sound
    exact ⟨before, plan, after, mid, parts, reached,
      (add_eq_error_iff _ (keys reached)).mpr offends⟩

/-- A scenario taken before is the error, though the source cannot be read either. -/
theorem loadEach_told_orders :
    let again : PoolPlan := { scenario := "orders", sources := [.jsonFile "gone"] }
    let plans : List PoolPlan := [
      { scenario := "orders", sources := [.inline [.int 7], .inline []] },
      { scenario := "login", sources := [.inline [.int 1], .inline [.int 2]] }]
    load {} .still (plans ++ [again]) = .error (.duplicateScenario "orders") ∧
      load {} .still [again] = .error (.source "gone" (.file .notFound)) ∧
      ∃ stock, load {} .still plans = .ok stock ∧
        stock.scenarios = ["login", "orders"] ∧
        (stock.pools.find? "login").map (·.summary.total) = some 2 := by
  intro again plans
  have loads : ∀ plan ∈ plans, plan.Loads {} := by
    have all : ∀ plan ∈ plans, ∀ source ∈ plan.sources,
        source.load {} = .ok ((source.load {}).toOption.getD []) := by decide
    exact fun plan member source here => ⟨_, all plan member source here⟩
  have distinct : (plans.map (·.scenario)).Nodup := by decide
  obtain ⟨stock, loaded⟩ := (loadEach_told {} .still plans).1.mpr ⟨distinct, loads⟩
  obtain ⟨sorted, pools⟩ := (loadEach_told {} .still plans).2.1 stock loaded
  refine ⟨?_, ?_, stock, loaded, ?_, ?_⟩
  · exact ((loadEach_told {} .still (plans ++ [again])).2.2 _).mpr
      ⟨plans, again, [], rfl, ⟨distinct, loads⟩, .again (by decide)⟩
  · exact ((loadEach_told {} .still [again]).2.2 _).mpr
      ⟨[], again, [], rfl, ⟨List.nodup_nil, nofun⟩,
        .unread [] [] (.jsonFile "gone") "gone" _ nofun rfl nofun rfl⟩
  · rw [sorted]
    have below : (compare "orders" "login").isLE = false := by decide
    simp [plans, List.mergeSort, List.MergeSort.Internal.splitInTwo, below]
  · obtain ⟨pool, records, found, read, total⟩ := pools _ (.tail _ (.head _))
    cases read
    rw [found, Option.map_some, total]
    rfl

end Stock

end Muster
