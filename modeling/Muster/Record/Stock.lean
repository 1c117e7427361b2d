import Muster.Event
import Muster.Record.Pool

/-!
The stock of a run: one pool for each scenario that has test data.
-/

namespace Muster

inductive StockError
  | source (path : String) (fault : SourceFault)
  | duplicateScenario (scenario : ScenarioId)
  | unknownScenario (scenario : ScenarioId)
deriving DecidableEq

def StockError.message : StockError → String
  | .source path fault => "test data source failed: " ++ path ++ ": " ++ fault.message
  | .duplicateScenario scenario => "duplicate test data pool for scenario " ++ scenario
  | .unknownScenario scenario => "no test data pool for scenario " ++ scenario

structure Stock where
  pools : Table ScenarioId Pool := ∅
deriving DecidableEq, Inhabited

namespace Stock

/-- Adds the pool of one plan. -/
def add (files : Files) (shuffle : Shuffle) (s : Stock) (plan : PoolPlan) :
    Except StockError Stock :=
  if s.pools.contains plan.scenario then .error (.duplicateScenario plan.scenario)
  else
    match Pool.ofPlan files shuffle plan with
    | .ok pool => .ok ⟨s.pools.insert plan.scenario pool⟩
    | .error (path, fault) => .error (.source path fault)

/-- Loads the plans in turn, each with a shuffle of its own, up to the first that fails. -/
def load (files : Files) (shuffles : Shuffles) (plans : List PoolPlan) : Except StockError Stock :=
  plans.foldlM (fun s plan => s.add files (shuffles plan.scenario) plan) {}

def scenarios (s : Stock) : List ScenarioId := s.pools.keys

def summary (s : Stock) : List PoolSummary := s.pools.values.map Pool.summary

def setPool (s : Stock) (scenario : ScenarioId) (pool : Pool) : Stock :=
  ⟨s.pools.insert scenario pool⟩

/-- Draws the next record of a scenario. -/
def draw (s : Stock) (scenario : ScenarioId) (worker : NodeId) :
    Except StockError DataOutcome × Stock :=
  match s.pools.find? scenario with
  | none => (.error (.unknownScenario scenario), s)
  | some pool =>
    let (outcome, pool) := pool.draw worker
    (.ok outcome, s.setPool scenario pool)

def exhaustedEvent (scenario : ScenarioId) (worker : NodeId) : Event :=
  { name := "testdata_exhausted", level := .info
    message := scenario ++ " has no more test data"
    scenario := some scenario, node := some worker }

/-- A worker that found a pool exhausted reports it, unless that was done before. -/
def reportExhausted (s : Stock) (scenario : ScenarioId) (worker : NodeId) : List Event × Stock :=
  match s.pools.find? scenario with
  | none => ([], s)
  | some pool =>
    let (first, pool) := pool.claimReport
    (if first then [exhaustedEvent scenario worker] else [], s.setPool scenario pool)

/-- What a request draws, the report it may cause, and the stock after it. -/
structure Drawn where
  outcome : Except StockError DataOutcome
  events : List Event
  stock : Stock
deriving DecidableEq

def request (s : Stock) (scenario : ScenarioId) (worker : NodeId) : Drawn :=
  match s.draw scenario worker with
  | (.ok .exhausted, s) =>
    let (events, s) := s.reportExhausted scenario worker
    ⟨.ok .exhausted, events, s⟩
  | (outcome, s) => ⟨outcome, [], s⟩

end Stock

end Muster
