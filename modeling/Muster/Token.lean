import Muster.Message
import Muster.Millis

/-!
Access tokens. A token is valid until its expiry, and fresh while more than a margin is left before
that. Fresh tokens are served as they are; a valid one may be served while it is refreshed.
-/

namespace Muster

/-- When tokens are refreshed, and how long one lives that was issued without an expiry. -/
structure TokenPolicy where
  refreshMargin : Millis := 30000
  defaultLifetime : Millis := 300000
deriving DecidableEq, Inhabited

structure AccessToken where
  value : String
  expiresAt : Millis
deriving DecidableEq

namespace AccessToken

def isValid (t : AccessToken) (now : Millis) : Bool := now < t.expiresAt

def isFresh (t : AccessToken) (now margin : Millis) : Bool :=
  Millis.saturatingAdd now margin < t.expiresAt

def toJson (t : AccessToken) : Json :=
  .ofFields [("value", .string t.value), ("expires_at_ms", .int t.expiresAt.toNat)]

def fieldNames : List String := ["value", "expires_at_ms"]

def ofJson? (j : Json) : Option AccessToken := do
  let parts ← Json.Parts.ofJson? j
  guard (parts.fits fieldNames)
  return {
    value := ← parts.field "value" 0 Json.asString?
    expiresAt := ← parts.field "expires_at_ms" 1 Json.asWord? }

end AccessToken

/-- A token as the token source issues it. -/
structure IssuedToken where
  value : String
  expiresAt : Option Millis := none
deriving DecidableEq

/-- The token to cache: without an expiry it lives the default lifetime from now on. -/
def IssuedToken.toAccess (t : IssuedToken) (now lifetime : Millis) : AccessToken :=
  ⟨t.value, t.expiresAt.getD (Millis.saturatingAdd now lifetime)⟩

/-- What the token source answers: a token, or why there is none. -/
abbrev SourceAnswer := Except String IssuedToken

inductive TokenError
  | refreshFailed (identity : Identity) (reason : String)
  | timeout
  | cancelled
  | transport (reason : String)
deriving DecidableEq

def TokenError.message : TokenError → String
  | .refreshFailed identity reason => "token refresh failed for " ++ identity ++ ": " ++ reason
  | .timeout => "token request timed out"
  | .cancelled => "token request cancelled"
  | .transport reason => "token request failed: " ++ reason

abbrev TokenResult := Except TokenError AccessToken

end Muster
