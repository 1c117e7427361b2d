import Muster.Proofs.Attendance
import Muster.Proofs.Token.Moves
import Muster.Proofs.Token.Renewal

/-!
The cache of a token client. Whatever else happens at a client, it caches for an identity the token
that expires last of all that were delivered for it, and of several such the one that came last. So
a late delivery never takes the place of a token that lives longer, and a client that was delivered
a fresh token answers calls by itself.
-/

namespace Muster

namespace TokenClient

variable {c : TokenClient} {identity : Identity} {tokens : List AccessToken}

def run (c : TokenClient) (actions : List Action) : TokenClient := actions.foldl step c

def Action.delivery? : Action → Option TokenDelivery
  | .deliver delivery => some delivery
  | .request .. | .withdraw _ | .wait .. | .cancelAll | .returns .. | .abandon _ => none

def deliveries (actions : List Action) : List TokenDelivery :=
  actions.filterMap Action.delivery?

/-- The tokens that were delivered for an identity, in the order in which they came. -/
def arrivals (identity : Identity) (actions : List Action) : List AccessToken :=
  (deliveries actions).filterMap (tokenFor? identity)

/-- No token of the row expires later than this one, and those after it expire earlier. -/
def LastLongest (tokens : List AccessToken) (token : AccessToken) : Prop :=
  ∃ earlier later, tokens = earlier ++ token :: later ∧
    (∀ other ∈ earlier, other.expiresAt ≤ token.expiresAt) ∧
    ∀ other ∈ later, other.expiresAt < token.expiresAt

theorem LastLongest.mem {token : AccessToken} (longest : LastLongest tokens token) :
    token ∈ tokens := by
  obtain ⟨earlier, later, rfl, -, -⟩ := longest
  exact List.mem_append_right _ List.mem_cons_self

theorem LastLongest.le {token other : AccessToken} (longest : LastLongest tokens token)
    (member : other ∈ tokens) : other.expiresAt ≤ token.expiresAt := by
  obtain ⟨earlier, later, rfl, before, after⟩ := longest
  rcases List.mem_append.mp member with first | rest
  · exact before other first
  · rcases List.mem_cons.mp rest with rfl | last
    · exact UInt64.le_refl _
    · exact UInt64.le_of_lt (after other last)

theorem lastLongest_concat {token : AccessToken}
    (above : ∀ other ∈ tokens, other.expiresAt ≤ token.expiresAt) :
    LastLongest (tokens ++ [token]) token :=
  ⟨tokens, [], rfl, above, nofun⟩

theorem LastLongest.concat {token last : AccessToken} (longest : LastLongest tokens token)
    (below : last.expiresAt < token.expiresAt) : LastLongest (tokens ++ [last]) token := by
  obtain ⟨earlier, later, rfl, before, after⟩ := longest
  refine ⟨earlier, later ++ [last], by simp, before, ?_⟩
  intro other member
  rcases List.mem_append.mp member with old | new
  · exact after other old
  · rw [List.mem_singleton.mp new]
    exact below

/-! ### What a step caches -/

/-- Only a delivery of a token for the identity changes what is cached for it. -/
theorem cached?_step_of_idle {action : Action}
    (idle : action.delivery?.bind (tokenFor? identity) = none) :
    (c.step action).cached? identity = c.cached? identity := by
  cases action with
  | deliver delivery => exact cached?_deliver_of_none idle
  | request wanted now =>
    simp only [step]
    split <;> rfl
  | returns wanted id time now =>
    simp only [step]
    cases resolved : c.resolve wanted id time now with
    | none => rfl
    | some pair =>
      obtain ⟨result, after⟩ := pair
      have cache := (resolve_eq_some resolved).2.2.1
      simp only [Option.map_some, Option.getD_some, cached?, cache]
  | withdraw | wait | cancelAll | abandon => rfl

theorem arrivals_singleton (identity : Identity) (action : Action) :
    arrivals identity [action] = (action.delivery?.bind (tokenFor? identity)).toList := by
  cases delivered : action.delivery? with
  | none => simp [arrivals, deliveries, delivered]
  | some delivery =>
    cases brings : tokenFor? identity delivery <;> simp [arrivals, deliveries, delivered, brings]

theorem arrivals_cons (identity : Identity) (action : Action) (rest : List Action) :
    arrivals identity (action :: rest) = arrivals identity [action] ++ arrivals identity rest := by
  simp only [arrivals, deliveries, ← List.filterMap_append, List.singleton_append]

/-- What the cache has for an identity, going by the tokens that came for it. -/
structure Holds (c : TokenClient) (identity : Identity) (tokens : List AccessToken) : Prop where
  none_iff : c.cached? identity = none ↔ tokens = []
  longest : ∀ {token}, c.cached? identity = some token → LastLongest tokens token

theorem Holds.concat (holds : c.Holds identity tokens) {delivery : TokenDelivery}
    {token : AccessToken} (brings : tokenFor? identity delivery = some token) :
    (c.deliver delivery).2.1.Holds identity (tokens ++ [token]) := by
  rcases cached?_deliver_of_some (c := c) brings with ⟨cached, above⟩ | ⟨held, old, below, cached⟩
  · refine ⟨by simp [cached], ?_⟩
    intro other same
    obtain rfl := Option.some.inj (cached.symm.trans same)
    apply lastLongest_concat
    intro other member
    cases before : c.cached? identity with
    | none =>
      rw [holds.none_iff.mp before] at member
      cases member
    | some held => exact UInt64.le_trans ((holds.longest before).le member) (above held before)
  · refine ⟨by simp [cached], ?_⟩
    intro other same
    obtain rfl := Option.some.inj (cached.symm.trans same)
    exact (holds.longest old).concat below

theorem Holds.step (holds : c.Holds identity tokens) (action : Action) :
    (c.step action).Holds identity (tokens ++ arrivals identity [action]) := by
  rw [arrivals_singleton]
  cases brings : action.delivery?.bind (tokenFor? identity) with
  | none =>
    have same : (c.step action).cached? identity = c.cached? identity :=
      cached?_step_of_idle brings
    rw [Option.toList_none, List.append_nil]
    exact ⟨same ▸ holds.none_iff, fun here => holds.longest (same ▸ here)⟩
  | some token =>
    obtain ⟨delivery, delivered, brings⟩ := Option.bind_eq_some_iff.mp brings
    obtain rfl : action = .deliver delivery := by
      cases action <;> cases delivered
      rfl
    exact holds.concat brings

theorem Holds.run (holds : c.Holds identity tokens) (actions : List Action) :
    (c.run actions).Holds identity (tokens ++ arrivals identity actions) := by
  induction actions generalizing c tokens with
  | nil =>
    rw [show arrivals identity [] = [] from rfl, List.append_nil]
    exact holds
  | cons action rest ih =>
    rw [arrivals_cons, ← List.append_assoc]
    exact ih (holds.step action)

theorem holds_opened (node : NodeId) (policy : TokenPolicy) (timeout : Millis)
    (identity : Identity) : Holds { node, policy, timeout } identity [] :=
  ⟨Iff.intro (fun _ => rfl) fun _ => rfl, nofun⟩

/-! ### Expiries -/

/-- The longest expiry of a row does not depend on its order. -/
theorem LastLongest.expiresAt_eq {others : List AccessToken} {token other : AccessToken}
    (longest : LastLongest tokens token) (also : LastLongest others other)
    (perm : others.Perm tokens) : other.expiresAt = token.expiresAt :=
  UInt64.le_antisymm (longest.le (perm.mem_iff.mp also.mem))
    (also.le (perm.mem_iff.mpr longest.mem))

theorem Holds.expiry_eq (holds : c.Holds identity tokens) {other : TokenClient}
    {others : List AccessToken} (also : other.Holds identity others) (perm : others.Perm tokens) :
    (other.cached? identity).map (·.expiresAt) = (c.cached? identity).map (·.expiresAt) := by
  cases here : c.cached? identity with
  | none =>
    have empty := holds.none_iff.mp here
    have nothing : others = [] := by
      rw [empty] at perm
      exact perm.eq_nil
    rw [also.none_iff.mpr nothing]
  | some token =>
    cases there : other.cached? identity with
    | none =>
      have nothing := also.none_iff.mp there
      rw [nothing] at perm
      rw [holds.none_iff.mpr perm.nil_eq.symm] at here
      cases here
    | some held =>
      exact congrArg some ((holds.longest here).expiresAt_eq (also.longest there) perm)

theorem Holds.grows (holds : c.Holds identity tokens) (actions : List Action) {token : AccessToken}
    (cached : c.cached? identity = some token) :
    ∃ later, (c.run actions).cached? identity = some later ∧
      token.expiresAt ≤ later.expiresAt := by
  have after := holds.run actions
  have member : token ∈ tokens ++ arrivals identity actions :=
    List.mem_append_left _ (holds.longest cached).mem
  cases here : (c.run actions).cached? identity with
  | none =>
    rw [after.none_iff.mp here] at member
    cases member
  | some later => exact ⟨later, rfl, (after.longest here).le member⟩

/-! ### Calls after a delivery -/

theorem fresh?_deliver {delivery : TokenDelivery} {token : AccessToken} {now : Millis}
    (brings : tokenFor? identity delivery = some token)
    (fresh : token.isFresh now c.policy.refreshMargin = true) :
    ∃ held, (c.deliver delivery).2.1.fresh? identity now = some held ∧
      token.expiresAt ≤ held.expiresAt := by
  have lasts : ∀ held : AccessToken, token.expiresAt ≤ held.expiresAt →
      held.isFresh now c.policy.refreshMargin = true := by
    intro held longer
    rw [AccessToken.isFresh_iff] at fresh ⊢
    have longer := UInt64.le_iff_toNat_le.mp longer
    omega
  rcases cached?_deliver_of_some (c := c) brings with ⟨cached, -⟩ | ⟨held, -, below, cached⟩
  · exact ⟨token, Option.filter_eq_some_iff.mpr ⟨cached, fresh⟩, UInt64.le_refl _⟩
  · have longer := UInt64.le_of_lt below
    exact ⟨held, Option.filter_eq_some_iff.mpr ⟨cached, lasts held longer⟩, longer⟩

/-- A call for the identity returns on the spot, with a token that expires no earlier than this
one, and nothing is sent or registered for it. -/
def AnswersOnSpot (r : Run) (id : SiteId) (identity : Identity) (token : AccessToken) : Prop :=
  ∃ number held later, r.requestToken id identity = some (number, later) ∧
    token.expiresAt ≤ held.expiresAt ∧ later.hub = r.hub ∧ later.sites = r.sites ∧
    later.log = r.log ∧ later.returned = r.returned ++ [(number, .token (.ok held))]

theorem answersOnSpot_of_fresh {r : Run} {id : SiteId} {site : Site} {token held : AccessToken}
    (found : r.site? id = some site) (client : site.client = some c)
    (fresh : c.fresh? identity (site.now r.clock) = some held)
    (longer : token.expiresAt ≤ held.expiresAt) : AnswersOnSpot r id identity token := by
  refine ⟨r.made + 1, held, r.dial.2.finish (r.made + 1) (.token (.ok held)), ?_, longer,
    rfl, rfl, rfl, rfl⟩
  simp only [Run.requestToken, found, client, Run.dial, fresh, Option.bind_eq_bind,
    Option.bind_some]
  rfl

theorem answersOnSpot_deliverToken {r : Run} {id : SiteId} {site : Site}
    {delivery : TokenDelivery} {token : AccessToken} (found : r.site? id = some site)
    (client : site.client = some c) (brings : tokenFor? identity delivery = some token)
    (fresh : token.isFresh (site.now r.clock) c.policy.refreshMargin = true) :
    ∃ told after, r.deliverToken id delivery = some (told, after) ∧
      AnswersOnSpot after id identity token := by
  obtain ⟨held, kept, longer⟩ := fresh?_deliver brings fresh
  refine ⟨(c.deliver delivery).1, (r.setSite id
    { site with client := some (c.deliver delivery).2.1 }).record site (c.deliver delivery).2.2,
    ?_, ?_⟩
  · simp only [Run.deliverToken, found, client, Option.bind_eq_bind, Option.bind_some]
    rfl
  · have there := (Run.site?_record _ site (c.deliver delivery).2.2 id).trans
      (Run.site?_setSite found { site with client := some (c.deliver delivery).2.1 })
    apply answersOnSpot_of_fresh there rfl _ longer
    have clock : ((r.setSite id { site with client := some (c.deliver delivery).2.1 }).record site
        (c.deliver delivery).2.2).clock = r.clock := by
      unfold Run.record
      split <;> rfl
    rw [clock]
    exact kept

/-- The cache of a client after these actions, as far as an identity is concerned. -/
structure KeepsLongest (opened : TokenClient) (identity : Identity) (actions : List Action) :
    Prop where
  cached : (opened.run actions).Holds identity (arrivals identity actions)
  grows : ∀ more token, (opened.run actions).cached? identity = some token →
    ∃ later, (opened.run (actions ++ more)).cached? identity = some later ∧
      token.expiresAt ≤ later.expiresAt
  unordered : ∀ others, (deliveries others).Perm (deliveries actions) →
    ((opened.run others).cached? identity).map (·.expiresAt) =
      ((opened.run actions).cached? identity).map (·.expiresAt)
  /-- what does not bring a token for the identity -/
  unchanged : ∀ action, (∀ delivery, action.delivery? = some delivery →
      tokenFor? identity delivery = none) →
    (opened.run (actions ++ [action])).cached? identity = (opened.run actions).cached? identity
  answers : ∀ (r : Run) id site delivery token, r.site? id = some site →
    site.client = some (opened.run actions) → tokenFor? identity delivery = some token →
    token.isFresh (site.now r.clock) opened.policy.refreshMargin = true →
    ∃ told after, r.deliverToken id delivery = some (told, after) ∧
      AnswersOnSpot after id identity token

theorem policy_step (c : TokenClient) (action : Action) : (c.step action).policy = c.policy := by
  cases action with
  | request wanted now =>
    simp only [step]
    split <;> rfl
  | returns wanted id time now =>
    simp only [step, resolve]
    cases c.pending.resolve id time <;> rfl
  | deliver | withdraw | wait | cancelAll | abandon => rfl

theorem policy_run (c : TokenClient) (actions : List Action) :
    (c.run actions).policy = c.policy := by
  induction actions generalizing c with
  | nil => rfl
  | cons action rest ih => exact (ih (c.step action)).trans (policy_step c action)

theorem run_append (c : TokenClient) (actions more : List Action) :
    c.run (actions ++ more) = (c.run actions).run more := List.foldl_append

/-- Whatever is delivered to a client, in whichever order and between whichever calls, it caches
the token that expires last, and of several such the one that came last. -/
theorem cache_keeps_longest_lived (node : NodeId) (policy : TokenPolicy) (timeout : Millis)
    (identity : Identity) (actions : List Action) :
    KeepsLongest { node, policy, timeout } identity actions := by
  have opened := holds_opened node policy timeout identity
  have holds := opened.run actions
  refine ⟨holds, ?_, ?_, ?_, ?_⟩
  · intro more token cached
    rw [run_append]
    exact holds.grows more cached
  · intro others perm
    exact holds.expiry_eq (opened.run others) (perm.filterMap _)
  · intro action idle
    rw [run_append]
    exact cached?_step_of_idle (Option.bind_eq_none_iff.mpr idle)
  · intro r id site delivery token found client brings fresh
    refine answersOnSpot_deliverToken found client brings ?_
    rw [policy_run]
    exact fresh

/-- The second of two tokens with one expiry comes last but for one that expires before both. -/
def crossing (identity : Identity) : List Action :=
  [.deliver ⟨4, identity, .issued ⟨"first", 900⟩⟩, .request identity 100,
    .deliver ⟨0, identity, .issued ⟨"second", 900⟩⟩, .deliver ⟨9, identity, .failed "down"⟩,
    .deliver ⟨1, identity, .issued ⟨"early", 500⟩⟩]

theorem cache_keeps_longest_lived_crossing :
    LastLongest (arrivals "alice" (crossing "alice")) ⟨"second", 900⟩ ∧
      ∃ later, (run { node := "w1", policy := {}, timeout := 50 } (crossing "alice" ++
        [.deliver ⟨2, "alice", .issued ⟨"late", 100⟩⟩])).cached? "alice" = some later ∧
          900 ≤ later.expiresAt := by
  have kept := cache_keeps_longest_lived "w1" {} 50 "alice" (crossing "alice")
  have cached : (run { node := "w1", policy := {}, timeout := 50 } (crossing "alice")).cached?
      "alice" = some ⟨"second", 900⟩ := by decide
  exact ⟨kept.cached.longest cached, kept.grows _ _ cached⟩

end TokenClient

end Muster
