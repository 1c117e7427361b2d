import Muster.Millis
import Muster.Table

/-!
Requests that wait for an answer. Each request has an id and two ends: the answering end completes
it once, the caller's end waits for the value within a bound. The ends can go away separately.
-/

namespace Muster

inductive WaitError
  | timeout (bound : Millis)
  | cancelled
deriving DecidableEq

def WaitError.message : WaitError → String
  | .timeout bound => "timed out after " ++ Millis.durationText bound ++ " waiting for a response"
  | .cancelled => "request cancelled"

/-- What the answering end has left for the caller. -/
inductive Reception (α : Type)
  | open
  | filled (value : α)
  | closed
deriving DecidableEq

/-- A bound on a wait and the time at which it runs out. -/
structure Timer where
  bound : Millis
  deadline : Nat
deriving DecidableEq

/-- The caller's end; it has a timer once the caller waits. -/
structure Caller (α : Type) where
  reception : Reception α := .open
  timer : Option Timer := none
deriving DecidableEq

/-- The answering ends that can still complete, and the callers' ends that are still there. -/
structure Pending (α : Type) where
  nextId : Nat := 1
  waiting : List Nat := []
  callers : Table Nat (Caller α) := ∅
deriving DecidableEq, Inhabited

namespace Pending

variable {α : Type}

/-- The number of requests that can still be completed. -/
def size (p : Pending α) : Nat := p.waiting.length

/-- Opens a request under a fresh id. -/
def register (p : Pending α) : Nat × Pending α :=
  (p.nextId,
    { nextId := p.nextId + 1
      waiting := p.waiting ++ [p.nextId]
      callers := p.callers.insert p.nextId {} })

/-- Leaves something at a caller's end, if the caller is still there. -/
def leave (p : Pending α) (id : Nat) (reception : Reception α) : Pending α :=
  match p.callers.find? id with
  | some caller => { p with callers := p.callers.insert id { caller with reception } }
  | none => p

/-- Takes an answering end away. -/
def drop (p : Pending α) (id : Nat) : Pending α :=
  { p with waiting := p.waiting.filter (· ≠ id) }

/-- Completes a request; true if the value reached a caller. -/
def complete (p : Pending α) (id : Nat) (value : α) : Bool × Pending α :=
  if id ∈ p.waiting then
    (p.callers.contains id, (p.drop id).leave id (.filled value))
  else (false, p)

/-- Gives a request up from the answering side; its caller is cancelled. -/
def forget (p : Pending α) (id : Nat) : Pending α :=
  if id ∈ p.waiting then (p.drop id).leave id .closed else p

/-- Cancels every request that can still be completed and says how many there were. -/
def cancelAll (p : Pending α) : Nat × Pending α :=
  (p.size, p.waiting.foldl forget p)

/-- The caller goes away; its answering end stays. True if there was a caller. -/
def abandon (p : Pending α) (id : Nat) : Bool × Pending α :=
  (p.callers.contains id, { p with callers := p.callers.erase id })

/-- The caller begins to wait; false if there is none or it waits already. -/
def wait (p : Pending α) (id : Nat) (bound : Millis) (now : Nat) : Bool × Pending α :=
  match p.callers.find? id with
  | some { reception, timer := none } =>
    let caller := { reception, timer := some ⟨bound, now + bound.toNat⟩ }
    (true, { p with callers := p.callers.insert id caller })
  | _ => (false, p)

/-- How a waiting caller resolves at this time, if it does. A value counts before the bound. -/
def outcome? (p : Pending α) (id : Nat) (now : Nat) : Option (Except WaitError α) :=
  match p.callers.find? id with
  | some { reception, timer := some timer } =>
    match reception with
    | .filled value => some (.ok value)
    | .closed => some (.error .cancelled)
    | .open => if timer.deadline ≤ now then some (.error (.timeout timer.bound)) else none
  | _ => none

/-- A waiting caller resolves and is gone, and with it whatever could still complete it. The expiry
of a wait and the removal of its request are one step: in between nothing could reach the caller any
more, and the request would only still be counted. -/
def resolve (p : Pending α) (id : Nat) (now : Nat) : Option (Except WaitError α × Pending α) :=
  (p.outcome? id now).map fun result =>
    (result, { p.drop id with callers := p.callers.erase id })

/-- The callers that resolve at this time. -/
def resolvable (p : Pending α) (now : Nat) : List Nat :=
  p.callers.keys.filter fun id => (p.outcome? id now).isSome

inductive Action (α : Type)
  | register
  | wait (id : Nat) (bound : Millis) (now : Nat)
  | complete (id : Nat) (value : α)
  | forget (id : Nat)
  | cancelAll
  | abandon (id : Nat)
  | resolve (id : Nat) (now : Nat)
deriving DecidableEq

def step (p : Pending α) : Action α → Pending α
  | .register => p.register.2
  | .wait id bound now => (p.wait id bound now).2
  | .complete id value => (p.complete id value).2
  | .forget id => p.forget id
  | .cancelAll => p.cancelAll.2
  | .abandon id => (p.abandon id).2
  | .resolve id now => ((p.resolve id now).map (·.2)).getD p

end Pending

end Muster
