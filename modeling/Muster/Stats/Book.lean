import Muster.Stats
import Muster.Text.Blank

/-!
The statistics of a run by request name. The first word of a name says to which scenario the
request belongs.
-/

namespace Muster

structure StatsBook where
  entries : Table String RequestStats := ∅
deriving DecidableEq, Inhabited

namespace StatsBook

/-- The entry of a name; a name without entry has empty statistics. -/
def entry (book : StatsBook) (name : String) : RequestStats :=
  (book.entries.find? name).getD {}

def set (book : StatsBook) (name : String) (stats : RequestStats) : StatsBook :=
  ⟨book.entries.insert name stats⟩

def logRequest (book : StatsBook) (name : String) (ms : Millis) : StatsBook :=
  book.set name ((book.entry name).logRequest ms)

def logFailure (book : StatsBook) (name : String) : StatsBook :=
  book.set name (book.entry name).logFailure

/-- The scenario identifier that a request name starts with. -/
def scenarioIdentifier (name : String) : String := Text.firstWord name

/-- The merged entries of one scenario, if it has any. -/
def forScenario (book : StatsBook) (identifier : String) : Option RequestStats :=
  book.entries.entries.foldl
    (fun merged (name, stats) =>
      if scenarioIdentifier name = identifier then some ((merged.getD {}).merge stats)
      else merged)
    none

/-- The merged entries of every scenario, by identifier. -/
def byScenario (book : StatsBook) : Table String RequestStats :=
  book.entries.entries.foldl
    (fun grouped (name, stats) =>
      grouped.alter (scenarioIdentifier name) fun merged => (merged.getD {}).merge stats)
    ∅

def toJson (book : StatsBook) : Json :=
  .object (book.entries.entries.map fun (name, stats) => (name, stats.toJson))

def ofJson? : Json → Option StatsBook
  | .object fields => do
    let pairs ← fields.mapM fun (name, stats) => do
      return (name, ← RequestStats.ofJson? stats)
    return ⟨Table.ofList pairs⟩
  | _ => none

end StatsBook

end Muster
