import Muster.Event
import Muster.Table
import Muster.Token

/-!
The master's token cache. A refresh of an identity is a flight: later calls for the identity join
it, and everyone who waits for it reads the result it publishes. A flight runs on its own, so
deciding its result, settling it in the slot, reporting a failure and publishing are separate steps
between which anything else may happen.
-/

namespace Muster

/-- How far a refresh has come. -/
inductive Phase
  /-- the call to the token source is running -/
  | calling
  /-- the call has returned and the result is decided -/
  | decided (result : TokenResult)
  /-- the slot has the result -/
  | settled (result : TokenResult)
  /-- a failure is in the log -/
  | reported (result : TokenResult)
  /-- whoever waits can read the result -/
  | published (result : TokenResult)
  | aborted
deriving DecidableEq

structure Flight where
  identity : Identity
  phase : Phase := .calling
deriving DecidableEq

/-- The cache of one identity, and the flight that calls join and a cancellation stops. -/
structure Slot where
  cached : Option AccessToken := none
  flight : Option Nat := none
deriving DecidableEq, Inhabited

structure Issuer where
  policy : TokenPolicy := {}
  slots : Table Identity Slot := ∅
  flights : Table Nat Flight := ∅
  started : Nat := 0
deriving DecidableEq, Inhabited

/-- How a call for a token begins: it has its token, or it waits for a flight. -/
inductive Entry
  | served (token : AccessToken)
  | waits (flight : Nat)
deriving DecidableEq

namespace Issuer

def slot (d : Issuer) (identity : Identity) : Slot := (d.slots.find? identity).getD {}

def setSlot (d : Issuer) (identity : Identity) (slot : Slot) : Issuer :=
  { d with slots := d.slots.insert identity slot }

def setPhase (d : Issuer) (flight : Nat) (phase : Phase) : Issuer :=
  match d.flights.find? flight with
  | some f => { d with flights := d.flights.insert flight { f with phase } }
  | none => d

/-- The flight of the identity, started if there is none. -/
def join (d : Issuer) (identity : Identity) : Nat × Issuer :=
  match (d.slot identity).flight with
  | some flight => (flight, d)
  | none =>
    let flight := d.started
    let slot := { d.slot identity with flight := some flight }
    (flight,
      { d.setSlot identity slot with
        flights := d.flights.insert flight { identity }
        started := d.started + 1 })

/-- A call: a fresh token is served at once. Otherwise the identity is being refreshed from now
on, and a valid token is served meanwhile. -/
def enter (d : Issuer) (identity : Identity) (now : Millis) : Entry × Issuer :=
  match (d.slot identity).cached with
  | some token =>
    if token.isFresh now d.policy.refreshMargin then (.served token, d)
    else
      let (flight, d) := d.join identity
      (if token.isValid now then .served token else .waits flight, d)
  | none =>
    let (flight, d) := d.join identity
    (.waits flight, d)

/-- The result of a refresh whose call to the token source returns at this time. -/
def decide (identity : Identity) (policy : TokenPolicy) (now : Millis) :
    SourceAnswer → TokenResult
  | .ok issued =>
    let token := issued.toAccess now policy.defaultLifetime
    if token.isValid now then .ok token
    else .error (.refreshFailed identity "token issued already expired")
  | .error reason => .error (.refreshFailed identity reason)

/-- The call of a flight to the token source returns. -/
def answer (d : Issuer) (flight : Nat) (answer : SourceAnswer) (now : Millis) :
    Issuer :=
  match d.flights.find? flight with
  | some ⟨identity, .calling⟩ => d.setPhase flight (.decided (decide identity d.policy now answer))
  | _ => d

/-- The slot takes a decided result: a token replaces the cached one, a failure does not. The slot
then has no flight. -/
def settle (d : Issuer) (flight : Nat) : Issuer :=
  match d.flights.find? flight with
  | some ⟨identity, .decided result⟩ =>
    let cached :=
      match result with
      | .ok token => some token
      | .error _ => (d.slot identity).cached
    (d.setSlot identity { cached, flight := none }).setPhase flight (.settled result)
  | _ => d

def failureEvent (error : TokenError) : Event :=
  { name := "token_refresh_failed", level := .error, message := error.message }

/-- A settled failure is reported. -/
def report (d : Issuer) (flight : Nat) : List Event × Issuer :=
  match d.flights.find? flight with
  | some ⟨_, .settled result⟩ =>
    (match result with
      | .ok _ => []
      | .error error => [failureEvent error],
      d.setPhase flight (.reported result))
  | _ => ([], d)

def publish (d : Issuer) (flight : Nat) : Issuer :=
  match d.flights.find? flight with
  | some ⟨_, .reported result⟩ => d.setPhase flight (.published result)
  | _ => d

/-- What someone who waits for the flight reads, once there is something to read. -/
def outcome? (d : Issuer) (flight : Nat) : Option TokenResult :=
  match d.flights.find? flight with
  | some ⟨_, .published result⟩ => some result
  | some ⟨_, .aborted⟩ => some (.error .cancelled)
  | _ => none

/-- Forgets the flight of one identity, and aborts it while its call is running. The
count is one if there was a flight. -/
def cancel (d : Issuer) (identity : Identity) : Nat × Issuer :=
  match (d.slot identity).flight with
  | none => (0, d)
  | some flight =>
    let d := d.setSlot identity { d.slot identity with flight := none }
    (1,
      match d.flights.find? flight with
      | some ⟨_, .calling⟩ => d.setPhase flight .aborted
      | _ => d)

/-- Cancels identity by identity. -/
def cancelAll (d : Issuer) : Nat × Issuer :=
  d.slots.keys.foldl
    (fun (count, d) identity =>
      let (one, d) := d.cancel identity
      (count + one, d))
    (0, d)

/-- The flights whose call is running, oldest first. -/
def calling (d : Issuer) : List (Nat × Identity) :=
  d.flights.entries.filterMap fun (flight, f) =>
    if f.phase = .calling then some (flight, f.identity) else none

inductive Action
  | enter (identity : Identity) (now : Millis)
  | answer (flight : Nat) (answer : SourceAnswer) (now : Millis)
  | settle (flight : Nat)
  | report (flight : Nat)
  | publish (flight : Nat)
  | cancel (identity : Identity)

def step (d : Issuer) : Action → Issuer
  | .enter identity now => (d.enter identity now).2
  | .answer flight answer now => d.answer flight answer now
  | .settle flight => d.settle flight
  | .report flight => (d.report flight).2
  | .publish flight => d.publish flight
  | .cancel identity => (d.cancel identity).2

end Issuer

end Muster
