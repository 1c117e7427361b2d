import Mathlib.Algebra.Ring.Nat
import Muster.Proofs.Record.HandoutOrder
import Muster.Proofs.Rows

/-!
Requests that run at the same time. Each draws, claims the report if it found the pool at its end,
and writes what it claimed; these are steps of their own, and other requests may run between them.
The end of a pool is still reported at most once, by a request that found it, and it has been
reported when all that found it are done.
-/

namespace Muster

/-- It says that the records of the scenario have run out. -/
def Event.tellsEnd (scenario : ScenarioId) (event : Event) : Bool :=
  event.name = "testdata_exhausted" ∧ event.scenario = some scenario

namespace Stock

variable {s : Stock} {scenario : ScenarioId} {worker : NodeId}

theorem tellsEnd_exhaustedEvent (own : ScenarioId) :
    (exhaustedEvent own worker).tellsEnd scenario = decide (own = scenario) := by
  simp [Event.tellsEnd, exhaustedEvent]

def holds (s : Stock) (scenario : ScenarioId) : Bool := (s.pools.find? scenario).isSome

/-- The end of the scenario's pool was claimed for a report. -/
def reported (s : Stock) (scenario : ScenarioId) : Bool :=
  (s.pools.find? scenario).any (·.exhaustionReported)

theorem holds_draw (other : ScenarioId) :
    (s.draw scenario worker).2.holds other = s.holds other := by
  unfold draw holds
  cases found : s.pools.find? scenario with
  | none => rfl
  | some pool => by_cases own : other = scenario <;> simp [setPool, own, found]

theorem reported_draw (s : Stock) (scenario : ScenarioId) (worker : NodeId) (other : ScenarioId) :
    (s.draw scenario worker).2.reported other = s.reported other := by
  unfold draw reported
  cases found : s.pools.find? scenario with
  | none => rfl
  | some pool =>
    have kept : (pool.draw worker).2.exhaustionReported = pool.exhaustionReported := by
      rcases pool.draw_cases worker with ⟨-, drawn⟩ | ⟨_, _, -, -, drawn⟩ <;> rw [drawn]
    by_cases own : other = scenario <;> simp [setPool, own, found, kept]

theorem holds_of_draw {outcome : DataOutcome} (drawn : (s.draw scenario worker).1 = .ok outcome) :
    s.holds scenario = true := by
  unfold draw at drawn
  unfold holds
  split at drawn
  · cases drawn
  · rename_i pool found
    rw [found]
    rfl

theorem holds_reportExhausted (other : ScenarioId) :
    (s.reportExhausted scenario worker).2.holds other = s.holds other := by
  unfold reportExhausted holds
  cases found : s.pools.find? scenario with
  | none => rfl
  | some pool => by_cases own : other = scenario <;> simp [setPool, own, found]

/-- The first claim sets the flag of the pool, and no other flag is touched. -/
theorem reported_reportExhausted (worker : NodeId) (held : s.holds scenario = true)
    (other : ScenarioId) :
    (s.reportExhausted scenario worker).2.reported other =
      (decide (other = scenario) || s.reported other) := by
  obtain ⟨pool, found⟩ := Option.isSome_iff_exists.mp held
  unfold reportExhausted reported
  by_cases own : other = scenario <;> simp [setPool, found, own, Pool.claimReport]

theorem events_reportExhausted (worker : NodeId) (held : s.holds scenario = true) :
    (s.reportExhausted scenario worker).1 =
      if s.reported scenario then [] else [exhaustedEvent scenario worker] := by
  obtain ⟨pool, found⟩ := Option.isSome_iff_exists.mp held
  cases flag : pool.exhaustionReported <;>
    simp [reportExhausted, reported, found, flag, Pool.claimReport]

theorem reported_loaded {files : Files} {shuffles : Shuffles} {plans : List PoolPlan}
    (loaded : load files shuffles plans = .ok s) (scenario : ScenarioId) :
    s.reported scenario = false := by
  unfold reported
  cases found : s.pools.find? scenario with
  | none => rfl
  | some pool =>
    obtain ⟨_, _, rfl⟩ := new_of_loaded shuffles loaded found
    rfl

end Stock

theorem sum_map_set {α : Type} {rows : List α} {i : Nat} {old row : α} {f : α → Nat}
    (present : rows[i]? = some old) :
    ((rows.set i row).map f).sum + f old = (rows.map f).sum + f row := by
  induction rows generalizing i with
  | nil => cases present
  | cons first rest ih =>
    cases i with
    | zero =>
      obtain rfl := Option.some.inj present
      simp only [List.set_cons_zero, List.map_cons, List.sum_cons]
      omega
    | succ i =>
      have later := ih present
      simp only [List.set_cons_succ, List.map_cons, List.sum_cons]
      omega

/-! ### Requests in parallel -/

namespace Rush

/-- How far a request has come. -/
inductive Phase
  | asked
  /-- found the pool at its end -/
  | ended
  | claimed (due : List Event)
  | done (outcome : Except StockError DataOutcome)
deriving DecidableEq

namespace Phase

def ofDraw : Except StockError DataOutcome → Phase
  | .ok .exhausted => .ended
  | outcome => .done outcome

def foundEnd : Phase → Bool
  | .ended | .claimed _ | .done (.ok .exhausted) => true
  | _ => false

def hasClaimed : Phase → Bool
  | .claimed _ | .done (.ok .exhausted) => true
  | _ => false

def isDone : Phase → Bool
  | .done _ => true
  | _ => false

/-- What is claimed and not yet written. -/
def due : Phase → List Event
  | .claimed due => due
  | _ => []

theorem hasClaimed_of_foundEnd {phase : Phase} (found : phase.foundEnd = true)
    (finished : phase.isDone = true) : phase.hasClaimed = true := by
  cases phase with
  | asked | ended | claimed => cases finished
  | done outcome =>
    rcases outcome with error | (record | _)
    · cases found
    · cases found
    · rfl

end Phase

structure Call where
  scenario : ScenarioId
  worker : NodeId
  phase : Phase := .asked
deriving DecidableEq

structure Entry where
  author : Nat
  event : Event
deriving DecidableEq

inductive Action
  | ask (scenario : ScenarioId) (worker : NodeId)
  | draw (n : Nat)
  | claim (n : Nat)
  | write (n : Nat)
deriving DecidableEq

end Rush

/-- Requests that run at the same time on one stock. -/
structure Rush where
  stock : Stock
  calls : List Rush.Call := []
  log : List Rush.Entry := []
deriving DecidableEq

namespace Rush

def advance (r : Rush) (n : Nat) (call : Call) (phase : Phase) (stock : Stock)
    (events : List Event) : Rush :=
  { stock
    calls := r.calls.set n { call with phase }
    log := r.log ++ events.map (Entry.mk n) }

def ask (r : Rush) (scenario : ScenarioId) (worker : NodeId) : Rush :=
  { r with calls := r.calls ++ [{ scenario, worker }] }

def draw (r : Rush) (n : Nat) : Rush :=
  match r.calls[n]? with
  | some ⟨scenario, worker, .asked⟩ =>
    let drawn := r.stock.draw scenario worker
    r.advance n ⟨scenario, worker, .asked⟩ (.ofDraw drawn.1) drawn.2 []
  | _ => r

def claim (r : Rush) (n : Nat) : Rush :=
  match r.calls[n]? with
  | some ⟨scenario, worker, .ended⟩ =>
    let reported := r.stock.reportExhausted scenario worker
    r.advance n ⟨scenario, worker, .ended⟩ (.claimed reported.1) reported.2 []
  | _ => r

def write (r : Rush) (n : Nat) : Rush :=
  match r.calls[n]? with
  | some ⟨scenario, worker, .claimed due⟩ =>
    r.advance n ⟨scenario, worker, .claimed due⟩ (.done (.ok .exhausted)) r.stock due
  | _ => r

/-- A request that is not at this step does nothing. -/
def step (r : Rush) : Action → Rush
  | .ask scenario worker => r.ask scenario worker
  | .draw n => r.draw n
  | .claim n => r.claim n
  | .write n => r.write n

def run (r : Rush) (actions : List Action) : Rush := actions.foldl step r

def reports (r : Rush) (scenario : ScenarioId) : List Entry :=
  r.log.filter (·.event.tellsEnd scenario)

/-- A request that runs with no other beside it is a request of the stock. -/
theorem run_alone (s : Stock) (scenario : ScenarioId) (worker : NodeId) :
    run { stock := s } [.ask scenario worker, .draw 0, .claim 0, .write 0] =
      { stock := (s.request scenario worker).stock
        calls := [⟨scenario, worker, .done (s.request scenario worker).outcome⟩]
        log := (s.request scenario worker).events.map (Entry.mk 0) } := by
  unfold Stock.request
  cases drawn : s.draw scenario worker with
  | mk outcome t =>
    rcases outcome with error | (record | _) <;>
      simp [run, step, ask, draw, claim, write, advance, drawn, Phase.ofDraw]

/-! ### What every step keeps -/

def Call.owes (scenario : ScenarioId) (call : Call) : Nat :=
  call.phase.due.countP (·.tellsEnd scenario)

/-- What is due or written of a scenario is one report if its end was claimed, and none before. -/
structure Sound (r : Rush) : Prop where
  written : ∀ entry ∈ r.log, ∃ call, r.calls[entry.author]? = some call ∧
    call.phase = .done (.ok .exhausted) ∧
    entry.event = Stock.exhaustedEvent call.scenario call.worker
  due : ∀ call ∈ r.calls, ∀ event ∈ call.phase.due,
    event = Stock.exhaustedEvent call.scenario call.worker
  held : ∀ call ∈ r.calls, call.phase.foundEnd = true → r.stock.holds call.scenario = true
  claimed : ∀ call ∈ r.calls, call.phase.hasClaimed = true →
    r.stock.reported call.scenario = true
  single : ∀ scenario, (r.calls.map (·.owes scenario)).sum + (r.reports scenario).length =
    if r.stock.reported scenario then 1 else 0

variable {r : Rush}

theorem length_reports_advance (n : Nat) (call : Call) (phase : Phase) (stock : Stock)
    (events : List Event) (scenario : ScenarioId) :
    ((r.advance n call phase stock events).reports scenario).length =
      (r.reports scenario).length + events.countP (·.tellsEnd scenario) := by
  simp only [reports, advance, List.filter_append, List.length_append, List.filter_map,
    List.length_map, List.countP_eq_length_filter]
  rfl

/-- A step of one request keeps the balance if it does so for this request and the stock. -/
theorem Sound.advance (sound : r.Sound) {n : Nat} {call : Call} {phase : Phase} {stock : Stock}
    {events : List Event} (here : r.calls[n]? = some call)
    (running : call.phase.isDone = false)
    (holds : ∀ scenario, stock.holds scenario = r.stock.holds scenario)
    (grows : ∀ scenario, r.stock.reported scenario = true → stock.reported scenario = true)
    (due : ∀ event ∈ phase.due, event = Stock.exhaustedEvent call.scenario call.worker)
    (held : phase.foundEnd = true → r.stock.holds call.scenario = true)
    (claimed : phase.hasClaimed = true → stock.reported call.scenario = true)
    (wrote : ∀ event ∈ events, phase = .done (.ok .exhausted) ∧
      event = Stock.exhaustedEvent call.scenario call.worker)
    (balance : ∀ scenario, phase.due.countP (·.tellsEnd scenario) +
        events.countP (·.tellsEnd scenario) + (if r.stock.reported scenario then 1 else 0) =
      call.owes scenario + if stock.reported scenario then 1 else 0) :
    (r.advance n call phase stock events).Sound where
  written := by
    intro entry member
    rcases List.mem_append.mp member with old | new
    · obtain ⟨author, found, done, same⟩ := sound.written entry old
      have apart : n ≠ entry.author := by
        rintro rfl
        rw [here] at found
        rw [Option.some.inj found, done] at running
        cases running
      exact ⟨author, (List.getElem?_set_ne apart).trans found, done, same⟩
    · obtain ⟨event, wrote', rfl⟩ := List.mem_map.mp new
      obtain ⟨done, same⟩ := wrote event wrote'
      exact ⟨{ call with phase }, getElem?_set_same here, done, same⟩
  due := by
    intro other member
    rcases List.mem_or_eq_of_mem_set member with old | rfl
    · exact sound.due other old
    · exact due
  held := by
    intro other member found
    refine (holds _).trans ?_
    rcases List.mem_or_eq_of_mem_set member with old | rfl
    · exact sound.held other old found
    · exact held found
  claimed := by
    intro other member done
    rcases List.mem_or_eq_of_mem_set member with old | rfl
    · exact grows _ (sound.claimed other old done)
    · exact claimed done
  single := by
    intro scenario
    have before := sound.single scenario
    have step := balance scenario
    -- of all requests only this one owes something else than before
    have moved : ((r.calls.set n { call with phase }).map (·.owes scenario)).sum +
        call.owes scenario = (r.calls.map (·.owes scenario)).sum +
          phase.due.countP (·.tellsEnd scenario) := sum_map_set here
    rw [length_reports_advance]
    show ((r.calls.set n { call with phase }).map (·.owes scenario)).sum + _ =
      if stock.reported scenario then 1 else 0
    omega

theorem Sound.ask (sound : r.Sound) (scenario : ScenarioId) (worker : NodeId) :
    (r.ask scenario worker).Sound where
  written := by
    intro entry member
    obtain ⟨author, found, rest⟩ := sound.written entry member
    exact ⟨author, getElem?_append_old found, rest⟩
  due := by
    intro call member
    rcases List.mem_append.mp member with old | new
    · exact sound.due call old
    · rw [List.mem_singleton.mp new]
      exact nofun
  held := by
    intro call member found
    rcases List.mem_append.mp member with old | new
    · exact sound.held call old found
    · rw [List.mem_singleton.mp new] at found
      cases found
  claimed := by
    intro call member done
    rcases List.mem_append.mp member with old | new
    · exact sound.claimed call old done
    · rw [List.mem_singleton.mp new] at done
      cases done
  single := by
    intro other
    have idle : Call.owes other ⟨scenario, worker, .asked⟩ = 0 := rfl
    simp only [Rush.ask, List.map_append, List.map_cons, List.map_nil, List.sum_append,
      List.sum_cons, List.sum_nil, idle, Nat.add_zero]
    exact sound.single other

theorem Sound.draw (sound : r.Sound) (n : Nat) : (r.draw n).Sound := by
  unfold Rush.draw
  split
  · rename_i scenario worker here
    have kept := r.stock.reported_draw scenario worker
    have quiet : (Phase.ofDraw (r.stock.draw scenario worker).1).due = [] ∧
        (Phase.ofDraw (r.stock.draw scenario worker).1).hasClaimed = false := by
      rcases (r.stock.draw scenario worker).1 with error | (record | _) <;> exact ⟨rfl, rfl⟩
    refine sound.advance here rfl Stock.holds_draw ?_ ?_ ?_ ?_ nofun ?_
    · intro other flag
      rwa [kept]
    · rw [quiet.1]
      exact nofun
    · intro found
      rcases drawn : (r.stock.draw scenario worker).1 with error | (record | _)
      · rw [drawn] at found; cases found
      · rw [drawn] at found; cases found
      · exact Stock.holds_of_draw drawn
    · rw [quiet.2]
      exact nofun
    · intro other
      rw [quiet.1, kept]
      rfl
  · exact sound

theorem Sound.claim (sound : r.Sound) (n : Nat) : (r.claim n).Sound := by
  unfold Rush.claim
  split
  · rename_i scenario worker here
    have held : r.stock.holds scenario = true := sound.held _ (List.mem_of_getElem? here) rfl
    have flags := Stock.reported_reportExhausted worker held
    have events := Stock.events_reportExhausted worker held
    refine sound.advance here rfl Stock.holds_reportExhausted ?_ ?_ ?_ ?_ nofun ?_
    · intro other flag
      rw [flags, flag, Bool.or_true]
    · intro event member
      rw [Phase.due, events] at member
      split at member
      · cases member
      · exact List.mem_singleton.mp member
    · exact fun _ => held
    · intro _
      rw [flags]
      simp
    · intro other
      rw [Phase.due, events, flags]
      by_cases own : other = scenario
      · subst own
        cases r.stock.reported other <;>
          simp [Call.owes, Phase.due, Stock.tellsEnd_exhaustedEvent]
      · cases r.stock.reported scenario <;>
          simp [Call.owes, Phase.due, Stock.tellsEnd_exhaustedEvent, own, Ne.symm own]
  · exact sound

theorem Sound.write (sound : r.Sound) (n : Nat) : (r.write n).Sound := by
  unfold Rush.write
  split
  · rename_i scenario worker due here
    have member := List.mem_of_getElem? here
    have own := sound.due _ member
    refine sound.advance here rfl (fun _ => rfl) (fun _ => id) nofun ?_ ?_ ?_ ?_
    · exact fun _ => sound.held _ member rfl
    · exact fun _ => sound.claimed _ member rfl
    · exact fun event wrote => ⟨rfl, own event wrote⟩
    · intro other
      simp [Call.owes, Phase.due]
  · exact sound

theorem Sound.step (sound : r.Sound) (action : Action) : (r.step action).Sound := by
  cases action with
  | ask scenario worker => exact sound.ask scenario worker
  | draw n => exact sound.draw n
  | claim n => exact sound.claim n
  | write n => exact sound.write n

theorem Sound.run (sound : r.Sound) (actions : List Action) : (r.run actions).Sound := by
  induction actions generalizing r with
  | nil => exact sound
  | cons action rest ih => exact ih (sound.step action)

theorem sound_opened {s : Stock} (fresh : ∀ scenario, s.reported scenario = false) :
    Sound { stock := s } := by
  refine ⟨nofun, nofun, nofun, nofun, fun scenario => ?_⟩
  rw [fresh]
  rfl

/-! ### Reports -/

def Call.FoundEnd (scenario : ScenarioId) (call : Call) : Prop :=
  call.scenario = scenario ∧ call.phase.foundEnd = true

instance (scenario : ScenarioId) (call : Call) : Decidable (call.FoundEnd scenario) :=
  inferInstanceAs (Decidable (_ ∧ _))

theorem Sound.length_reports_le (sound : r.Sound) (scenario : ScenarioId) :
    (r.reports scenario).length ≤ 1 := by
  have balance := sound.single scenario
  split at balance <;> omega

theorem Sound.length_reports_eq (sound : r.Sound) {scenario : ScenarioId}
    (found : ∃ call ∈ r.calls, call.FoundEnd scenario)
    (done : ∀ call ∈ r.calls, call.FoundEnd scenario → call.phase.isDone = true) :
    (r.reports scenario).length = 1 := by
  have balance := sound.single scenario
  have flagged : r.stock.reported scenario = true := by
    obtain ⟨⟨_, worker, phase⟩, member, rfl, ended⟩ := found
    have finished := done _ member ⟨rfl, ended⟩
    exact sound.claimed _ member (Phase.hasClaimed_of_foundEnd ended finished)
  -- whoever still had to write a report of the scenario would not be done
  have settled : (r.calls.map (·.owes scenario)).sum = 0 := by
    refine List.sum_eq_zero_iff_forall_eq_nat.mpr fun owed member => ?_
    obtain ⟨call, asked, rfl⟩ := List.mem_map.mp member
    refine List.countP_eq_zero.mpr fun event due tells => ?_
    rw [sound.due call asked event due, Stock.tellsEnd_exhaustedEvent, decide_eq_true_eq] at tells
    cases phase : call.phase with
    | claimed =>
      have finished := done call asked ⟨tells, by rw [phase]; rfl⟩
      rw [phase] at finished
      cases finished
    | asked | ended | done =>
      rw [phase] at due
      cases due
  rw [flagged] at balance
  simpa [settled] using balance

/-- However requests overlap on a stock that was loaded, the end of a pool is reported at most once,
and exactly once when some found it and all that found it are done. Every report comes from a request
that found the end, and names its scenario and worker; a request with a record reports nothing. -/
theorem end_reported_once {files : Files} {shuffles : Shuffles}
    {plans : List PoolPlan} {stock : Stock} (loaded : Stock.load files shuffles plans = .ok stock)
    (actions : List Action) (scenario : ScenarioId) :
    ((run { stock } actions).reports scenario).length ≤ 1 ∧
      ((∃ call ∈ (run { stock } actions).calls, call.FoundEnd scenario) →
        (∀ call ∈ (run { stock } actions).calls, call.FoundEnd scenario →
          call.phase.isDone = true) →
        ((run { stock } actions).reports scenario).length = 1) ∧
      (∀ entry ∈ (run { stock } actions).reports scenario, ∃ call,
        (run { stock } actions).calls[entry.author]? = some call ∧ call.FoundEnd scenario ∧
        entry.event.name = "testdata_exhausted" ∧ entry.event.scenario = some scenario ∧
        entry.event.node = some call.worker) ∧
      ∀ entry ∈ (run { stock } actions).log, ∀ call,
        (run { stock } actions).calls[entry.author]? = some call →
        ∀ record, call.phase ≠ .done (.ok (.record record)) := by
  have sound : (run { stock } actions).Sound :=
    (sound_opened (Stock.reported_loaded loaded)).run actions
  refine ⟨sound.length_reports_le scenario, sound.length_reports_eq, ?_, ?_⟩
  · intro entry member
    obtain ⟨logged, tells⟩ := List.mem_filter.mp member
    obtain ⟨call, here, done, same⟩ := sound.written entry logged
    rw [same, Stock.tellsEnd_exhaustedEvent, decide_eq_true_eq] at tells
    obtain rfl := tells
    exact ⟨call, here, ⟨rfl, by rw [done]; rfl⟩, by rw [same]; rfl, by rw [same]; rfl,
      by rw [same]; rfl⟩
  · intro entry logged call here record got
    obtain ⟨author, found, done, -⟩ := sound.written entry logged
    obtain rfl := Option.some.inj (here.symm.trans found)
    rw [done] at got
    cases got

/-- After two records two requests find the end, and the one that claims the report is the last to
be done. -/
def overlapping : List Action :=
  [.ask "login" "a", .ask "login" "b", .draw 1, .draw 0, .ask "login" "a", .ask "orders" "b",
    .ask "login" "b", .draw 2, .draw 4, .claim 4, .claim 2, .write 2, .draw 3, .write 4]

theorem end_reported_once_overlapping : ∃ stock,
    Stock.load {} .still Stock.loginsAndOrders = .ok stock ∧
      (run { stock } overlapping.dropLast).reports "login" = [] ∧
      ((run { stock } overlapping).reports "login").length = 1 ∧
      ∀ entry ∈ (run { stock } overlapping).reports "login", entry.author = 4 := by
  obtain ⟨stock, loaded, nothing, found, done, author⟩ : ∃ stock,
      Stock.load {} .still Stock.loginsAndOrders = .ok stock ∧
      (run { stock } overlapping.dropLast).reports "login" = [] ∧
      (∃ call ∈ (run { stock } overlapping).calls, call.FoundEnd "login") ∧
      (∀ call ∈ (run { stock } overlapping).calls, call.FoundEnd "login" →
        call.phase.isDone = true) ∧
      ∀ entry ∈ (run { stock } overlapping).reports "login", entry.author = 4 :=
    ⟨_, rfl, by decide, by decide, by decide, by decide⟩
  obtain ⟨-, once, -, -⟩ := end_reported_once loaded overlapping "login"
  exact ⟨stock, loaded, nothing, once found done, author⟩

end Rush

end Muster
