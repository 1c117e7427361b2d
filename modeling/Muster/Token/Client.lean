import Muster.Event
import Muster.Pending
import Muster.Token.Delivery

/-!
A worker's token client. It serves fresh tokens from its own cache and asks the master for others;
every token that is delivered goes into the cache, whether someone waits for it or not.
-/

namespace Muster

structure TokenClient where
  node : NodeId
  policy : TokenPolicy := {}
  timeout : Millis
  cache : Table Identity AccessToken := ∅
  pending : Pending TokenDelivery := {}
deriving DecidableEq

namespace TokenClient

def cached? (c : TokenClient) (identity : Identity) : Option AccessToken := c.cache.find? identity

/-- The cached token if it is fresh. -/
def fresh? (c : TokenClient) (identity : Identity) (now : Millis) : Option AccessToken :=
  (c.cached? identity).filter fun token => token.isFresh now c.policy.refreshMargin

/-- Opens a request to the master. -/
def register (c : TokenClient) (identity : Identity) : TokenRequest × TokenClient :=
  let (id, pending) := c.pending.register
  (⟨id, identity⟩, { c with pending })

/-- The request could not be sent. -/
def withdraw (c : TokenClient) (id : Nat) : TokenClient :=
  { c with pending := ((c.pending.forget id).abandon id).2 }

/-- Waits for the delivery of a request that was sent. -/
def wait (c : TokenClient) (id : Nat) (time : Nat) : TokenClient :=
  { c with pending := (c.pending.wait id c.timeout time).2 }

/-- What a call for the identity makes of a delivery: the delivered token, if it is still valid. -/
def accept (identity : Identity) (now : Millis) : TokenOutcome → TokenResult
  | .issued token =>
    if token.isValid now then .ok token
    else .error (.refreshFailed identity "delivered token already expired")
  | .failed reason => .error (.refreshFailed identity reason)

/-- The waiting call resolves, if it does at this time. -/
def resolve (c : TokenClient) (identity : Identity) (id : Nat) (time : Nat) (now : Millis) :
    Option (TokenResult × TokenClient) :=
  (c.pending.resolve id time).map fun (result, pending) =>
    (match result with
      | .ok delivery => accept identity now delivery.outcome
      | .error (.timeout _) => .error .timeout
      | .error .cancelled => .error .cancelled,
      { c with pending })

/-- The cache with a delivered token, unless it holds one that expires later. -/
def store (c : TokenClient) (identity : Identity) (token : AccessToken) :
    Table Identity AccessToken :=
  match c.cached? identity with
  | some current =>
    if current.expiresAt ≤ token.expiresAt then c.cache.insert identity token else c.cache
  | none => c.cache.insert identity token

def orphanEvent (c : TokenClient) (id : Nat) : Event :=
  { name := "token_orphan_delivery", level := .warn
    message := "dropping token delivery " ++ toString id ++ " with no waiting request"
    node := some c.node }

/-- Takes a delivery: the cache first, then whoever waits. A delivery that nobody waits for is
reported. -/
def deliver (c : TokenClient) (d : TokenDelivery) : Bool × TokenClient × List Event :=
  let cache :=
    match d.outcome with
    | .issued token => c.store d.identity token
    | .failed _ => c.cache
  let (delivered, pending) := c.pending.complete d.id d
  (delivered, { c with cache, pending }, if delivered then [] else [c.orphanEvent d.id])

def cancelAll (c : TokenClient) : Nat × TokenClient :=
  let (count, pending) := c.pending.cancelAll
  (count, { c with pending })

end TokenClient

end Muster
