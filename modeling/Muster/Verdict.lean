import Muster.Catalog
import Muster.Event
import Muster.Stats.Book

/-!
Judging a run: every scenario of the catalog against the statistics of its requests. A failed
scenario stays failed, and so does the run.
-/

namespace Muster

/-- How the process ends. -/
inductive ExitCode
  | success
  | failure
deriving DecidableEq, Inhabited

def ExitCode.code : ExitCode → Nat
  | .success => 0
  | .failure => 1

structure Verdict where
  scenario : String
  status : Status
  reasons : List String
deriving DecidableEq

structure Report where
  verdicts : List Verdict
  unmatched : List String
  exitCode : ExitCode
deriving DecidableEq

namespace Report

def passed (r : Report) : Bool := r.verdicts.all fun v => v.status = .passed

def toJson (r : Report) : Json :=
  .ofFields [("verdicts", .array (r.verdicts.map fun v =>
      .ofFields [("scenario", .string v.scenario), ("status", .string v.status.name),
        ("reasons", .array (v.reasons.map .string))])),
    ("unmatched", .array (r.unmatched.map .string)), ("exit_code", .int r.exitCode.code),
    ("passed", .bool r.passed)]

end Report

namespace Verdict

def noStatistics : String := "no statistics found"

/-- Why a scenario fails in this pass. -/
def reasonsFor (s : Scenario) (book : StatsBook) : List String :=
  match book.forScenario s.identifier with
  | none => [noStatistics]
  | some stats => (s.thresholds.evaluate stats).map Breach.message

/-- The event that reports one reason. -/
def reasonEvent (s : Scenario) (book : StatsBook) (reason : String) : Event :=
  { name :=
      if (book.forScenario s.identifier).isNone then "validation_missing_stats"
      else "validation_threshold_exceeded"
    level := .error
    message := s.name ++ " failed due to " ++ reason
    scenario := some s.name }

def unmatchedEvent (name : String) : Event :=
  { name := "validation_unmatched", level := .error
    message := name ++ " does not match any scenario" }

/-- The scenario after the pass. -/
def judged (s : Scenario) (book : StatsBook) : Scenario :=
  if (reasonsFor s book).isEmpty then s else { s with status := .failed }

def ofScenario (s : Scenario) (book : StatsBook) : Verdict :=
  { scenario := s.name, status := (judged s book).status, reasons := reasonsFor s book }

end Verdict

/-- What a pass leaves behind. -/
structure Pass where
  catalog : Catalog
  exitCode : ExitCode
  report : Report
  events : List Event
deriving DecidableEq

namespace Catalog

/-- The request names that belong to no scenario, in name order. -/
def unmatched (c : Catalog) (book : StatsBook) : List String :=
  book.entries.keys.filter fun name => !c.hasIdentifier (StatsBook.scenarioIdentifier name)

/-- One pass over the catalog, from the exit code so far. -/
def validate (c : Catalog) (book : StatsBook) (exitCode : ExitCode) : Pass :=
  let unmatched := c.unmatched book
  let exitCode :=
    if c.scenarios.all fun s => (Verdict.reasonsFor s book).isEmpty then exitCode else .failure
  { catalog := ⟨c.scenarios.map fun s => Verdict.judged s book⟩
    exitCode
    report :=
      { verdicts := c.scenarios.map fun s => Verdict.ofScenario s book
        unmatched
        exitCode }
    events := unmatched.map Verdict.unmatchedEvent
      ++ c.scenarios.flatMap fun s =>
        (Verdict.reasonsFor s book).map (Verdict.reasonEvent s book) }

end Catalog

end Muster
