import Muster.Json.Reader
import Muster.Json.Writer

/-!
Log events: what a run reports to its operator, and the line that a log file holds for an event.
-/

namespace Muster

inductive Level
  | info
  | warn
  | error
deriving DecidableEq, Repr

namespace Level

def rank : Level → Nat
  | .info => 0
  | .warn => 1
  | .error => 2

def name : Level → String
  | .info => "info"
  | .warn => "warn"
  | .error => "error"

def ofName? : String → Option Level
  | "info" => some .info
  | "warn" => some .warn
  | "error" => some .error
  | _ => none

theorem ofName?_name (level : Level) : ofName? level.name = some level := by
  cases level <;> rfl

end Level

structure Event where
  name : String
  level : Level
  message : String
  scenario : Option String := none
  node : Option String := none
deriving DecidableEq

namespace Event

/-- The fields of an event in the order of a log line. -/
def fields (event : Event) (timestamp : Nat) : List (String × Json) :=
  [("event", .string event.name), ("timestamp_ms", .int timestamp),
    ("level", .string event.level.name), ("message", .string event.message)]
  ++ event.scenario.toList.map (fun s => ("scenario", .string s))
  ++ event.node.toList.map (fun n => ("node", .string n))

/-- The event as one line of JSON, with its line feed. -/
def line (event : Event) (timestamp : Nat) : List Char :=
  '{' :: (Json.renderFields (event.fields timestamp) ++ ['}', '\n'])

/-- Reads an event back from the text of its line. -/
def ofLine? (cs : List Char) : Option Event :=
  match Json.parse? cs with
  | some (.object fields) =>
    match Json.field? "event" fields, Json.field? "level" fields, Json.field? "message" fields with
    | some (.string name), some (.string level), some (.string message) =>
      (Level.ofName? level).map fun level =>
        { name, level, message
          scenario := (Json.field? "scenario" fields).bind fun
            | .string s => some s
            | _ => none
          node := (Json.field? "node" fields).bind fun
            | .string n => some n
            | _ => none }
    | _, _, _ => none
  | _ => none

/-- The message holds the text somewhere. -/
def occursIn (needle : List Char) : List Char → Bool
  | [] => needle.isEmpty
  | c :: rest => needle.isPrefixOf (c :: rest) || occursIn needle rest

/-- Messages of the events at or above a level. -/
def messagesAt (level : Level) (events : List Event) : List String :=
  (events.filter fun event => level.rank ≤ event.level.rank).map (·.message)

def countContaining (needle : String) (events : List Event) : Nat :=
  events.countP fun event => occursIn needle.toList event.message.toList

end Event

end Muster
