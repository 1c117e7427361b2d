/-!
The spawn barrier: locked until the last user is spawned, then open with their number.
-/

namespace Muster

/-- A barrier; the number of users is known if the barrier was opened with one. -/
structure Barrier where
  isOpen : Bool := false
  users : Option Nat := none
deriving DecidableEq, Inhabited

namespace Barrier

/-- Locks the barrier and forgets the number of users. -/
def acquire (_ : Barrier) : Barrier := {}

/-- Opens a locked barrier; an open one is left alone. The flag says whether this call opened it. -/
def openWith (b : Barrier) (users : Option Nat) : Bool × Barrier :=
  if b.isOpen then (false, b) else (true, ⟨true, users⟩)

/-- All users are spawned. -/
def release (b : Barrier) (users : Nat) : Bool × Barrier := b.openWith (some users)

/-- The run ends. -/
def forceRelease (b : Barrier) : Bool × Barrier := b.openWith none

inductive Action
  | acquire
  | release (users : Nat)
  | forceRelease
deriving DecidableEq

def step (b : Barrier) : Action → Bool × Barrier
  | .acquire => (false, b.acquire)
  | .release users => b.release users
  | .forceRelease => b.forceRelease

end Barrier

/-- A barrier and those who wait at it, by number. -/
structure Gate where
  barrier : Barrier := {}
  arrived : Nat := 0
  waiting : List Nat := []
deriving DecidableEq, Inhabited

namespace Gate

/-- One more waits, under the next number. -/
def arrive (g : Gate) : Nat × Gate :=
  (g.arrived + 1, { g with arrived := g.arrived + 1, waiting := g.waiting ++ [g.arrived + 1] })

/-- An open barrier lets everyone through. -/
def pass (g : Gate) : List Nat × Gate :=
  if g.barrier.isOpen then (g.waiting, { g with waiting := [] }) else ([], g)

end Gate

end Muster
