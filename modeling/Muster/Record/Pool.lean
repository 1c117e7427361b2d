import Muster.Message
import Muster.Record.Source
import Muster.Table

/-!
Pools of records. A pool hands its records out in order, each once; a cyclic pool starts over.
-/

namespace Muster

inductive PoolOrder
  | sequential
  | random
deriving DecidableEq, Inhabited

namespace PoolOrder

def name : PoolOrder → String
  | .sequential => "sequential"
  | .random => "random"

def ofName? : String → Option PoolOrder
  | "sequential" => some .sequential
  | "random" => some .random
  | _ => none

def ofJson? (format : Json.Format) (j : Json) : Option PoolOrder :=
  (Json.choiceName? format j).bind ofName?

end PoolOrder

structure PoolPlan where
  scenario : ScenarioId
  order : PoolOrder := .sequential
  cyclic : Bool := false
  sources : List DataSource
deriving DecidableEq

def PoolPlan.toJson (p : PoolPlan) : Json :=
  .ofFields [("scenario", .string p.scenario), ("order", .string p.order.name),
    ("cyclic", .bool p.cyclic), ("sources", .array (p.sources.map DataSource.toJson))]

/-- Some reordering of records. -/
structure Shuffle where
  apply : List Json → List Json
  perm : ∀ records, (apply records).Perm records

/-- The shuffle that leaves every order as it is. -/
def Shuffle.still : Shuffle := ⟨id, List.Perm.refl⟩

/-- Every pool is shuffled on its own. -/
abbrev Shuffles := ScenarioId → Shuffle

def Shuffles.still : Shuffles := fun _ => .still

inductive DataOutcome
  | record (record : Json)
  | exhausted
deriving DecidableEq

structure PoolSummary where
  scenario : ScenarioId
  total : Nat
  served : Nat
  remaining : Option Nat
  perWorker : Table NodeId Nat
deriving DecidableEq

def PoolSummary.toJson (s : PoolSummary) : Json :=
  .ofFields [("scenario", .string s.scenario), ("total", .int s.total), ("served", .int s.served),
    ("remaining", Json.ofOption (fun (n : Nat) => .int n) s.remaining),
    ("per_worker", .ofFields (s.perWorker.entries.map fun (worker, count) =>
      (worker, .int count)))]

structure Pool where
  scenario : ScenarioId
  records : List Json
  cyclic : Bool := false
  served : Nat := 0
  perWorker : Table NodeId Nat := ∅
  exhaustionReported : Bool := false
deriving DecidableEq

namespace Pool

/-- The records of all sources, concatenated in order. -/
def loadAll (files : Files) : List DataSource → Except (String × SourceFault) (List Json)
  | [] => .ok []
  | source :: rest => do
    let records ← source.load files
    return records ++ (← loadAll files rest)

def ofPlan (files : Files) (shuffle : Shuffle) (plan : PoolPlan) :
    Except (String × SourceFault) Pool := do
  let records ← loadAll files plan.sources
  let records := if plan.order = .random then shuffle.apply records else records
  return { scenario := plan.scenario, records, cyclic := plan.cyclic }

/-- The position of the record to hand out next. -/
def position? (p : Pool) : Option Nat :=
  if p.records.isEmpty || (!p.cyclic && p.records.length ≤ p.served) then none
  else some (p.served % p.records.length)

def next? (p : Pool) : Option Json := p.position?.bind fun position => p.records[position]?

/-- Hands the next record out to a worker. -/
def draw (p : Pool) (worker : NodeId) : DataOutcome × Pool :=
  match p.next? with
  | none => (.exhausted, p)
  | some record =>
    (.record record,
      { p with
        served := p.served + 1
        perWorker := p.perWorker.alter worker fun count => count.getD 0 + 1 })

/-- Draws so often for one worker. -/
def drawMany (p : Pool) (worker : NodeId) (count : Nat) : List DataOutcome × Pool :=
  let (drawn, p) := (List.range count).foldl
    (fun (drawn, p) _ =>
      let (outcome, p) := draw p worker
      (outcome :: drawn, p))
    ([], p)
  (drawn.reverse, p)

/-- Exhaustion is reported once; true for the call that may report it. -/
def claimReport (p : Pool) : Bool × Pool :=
  (!p.exhaustionReported, { p with exhaustionReported := true })

def summary (p : Pool) : PoolSummary :=
  { scenario := p.scenario
    total := p.records.length
    served := p.served
    remaining := if p.cyclic then none else some (p.records.length - p.served)
    perWorker := p.perWorker }

end Pool

end Muster
