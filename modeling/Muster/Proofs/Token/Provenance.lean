import Mathlib.Algebra.Ring.Nat
import Muster.Proofs.Token.Resolution

/-!
From a token that a client hands out back to the token source. Each token that the source issued has
an action of the run that brought it, and a call is handed only tokens of its identity that are
valid by its own clock.
-/

namespace Muster

/-- The token is the one that the source issued, and lives for the lifetime if that gave no
expiry. -/
structure IssuedToken.Bears (issued : IssuedToken) (moment lifetime : Millis)
    (token : AccessToken) : Prop where
  value : token.value = issued.value
  given : ∀ expiry, issued.expiresAt = some expiry → token.expiresAt = expiry
  lasts : issued.expiresAt = none →
    token.expiresAt.toNat = min (moment.toNat + lifetime.toNat) (2 ^ 64 - 1)

theorem IssuedToken.bears_toAccess (issued : IssuedToken) (moment lifetime : Millis) :
    issued.Bears moment lifetime (issued.toAccess moment lifetime) where
  value := rfl
  given expiry known := by rw [toAccess, known, Option.getD_some]
  lasts unknown := by
    rw [toAccess, unknown, Option.getD_none]
    exact Millis.toNat_saturatingAdd moment lifetime

namespace Issuance

/-- A call for the identity returns with the token at this time by the clock of its client. -/
inductive Hands (s : Issuance) (identity : Identity) (token : AccessToken) (now : Millis) :
    Action → Prop
  | cached (i : Nat)
      (served : (s.call i identity now).served = s.served ++ [(identity, token)]) :
      Hands s identity token now (.call i identity now)
  | waited (number time : Nat) (call : TokenCall) (made : s.calls[number]? = some call)
      (own : call.identity = identity)
      (returned : (s.returns number time now).returned = s.returned ++ [(number, .ok token)]) :
      Hands s identity token now (.returns number time now)

/-- A refresh of the identity that is calling the token source is answered with the token. -/
inductive Refreshed (s : Issuance) (identity : Identity) (token : AccessToken) : Action → Prop
  | answered (k flight : Nat) (issuer : Issuer) (issued : IssuedToken) (moment : Millis)
      (found : s.issuers[k]? = some issuer)
      (calling : issuer.flights.find? flight = some ⟨identity, .calling⟩)
      (bears : issued.Bears moment issuer.policy.defaultLifetime token) :
      Refreshed s identity token (.issue k (.answer flight (.ok issued) moment))

variable {s : Issuance}

/-! ### The answers of the source -/

theorem notes_of_issue {k : Nat} {action : Issuer.Action} {note : SourceNote}
    (said : note ∈ (s.issue k action).answers) :
    note ∈ s.answers ∨ ∃ issuer, s.issuers[k]? = some issuer ∧ note ∈ notesOf issuer action := by
  unfold issue at said
  split at said
  · rename_i issuer found
    rcases List.mem_append.mp said with old | new
    · exact .inl old
    · exact .inr ⟨issuer, found, new⟩
  · exact .inl said

theorem answers_handle (s : Issuance) (index : Nat) (now : Millis) :
    (s.handle index now).answers ⊆ s.answers := by
  have entered : ∀ k identity, (s.issue k (.enter identity now)).answers ⊆ s.answers := by
    intro k identity note said
    rcases notes_of_issue said with old | ⟨issuer, -, none⟩
    · exact old
    · cases none
  unfold handle
  split
  · split
    · dsimp only
      split
      · exact entered _ _
      · exact entered _ _
    · exact List.Subset.refl _
  · exact List.Subset.refl _

theorem note_of_step {action : Action} {note : SourceNote}
    (said : note ∈ (s.step action).answers) :
    note ∈ s.answers ∨ ∃ k issuer issue, action = .issue k issue ∧ s.issuers[k]? = some issuer ∧
      note ∈ notesOf issuer issue := by
  cases action with
  | issue k action =>
    rcases notes_of_issue said with old | ⟨issuer, found, new⟩
    · exact .inl old
    · exact .inr ⟨k, issuer, action, rfl, found, new⟩
  | handle index now => exact .inl (s.answers_handle index now said)
  | _ =>
    refine .inl ?_
    simp only [step, start, close, lose, withClient, call, ask, refuse, wait, finish, send, deliver,
      returns] at said
    repeat' split at said
    all_goals exact said

theorem refreshed_of_notesOf {k : Nat} {issuer : Issuer} {issue : Issuer.Action} {note : SourceNote}
    {issued : IssuedToken} (found : s.issuers[k]? = some issuer)
    (noted : note ∈ notesOf issuer issue) (granted : note.answer = .ok issued) :
    s.Refreshed note.identity (issued.toAccess note.now note.lifetime) (.issue k issue) := by
  unfold notesOf at noted
  split at noted
  · split at noted
    · rename_i flight answer moment _ identity calling
      obtain rfl := List.mem_singleton.mp noted
      obtain rfl : answer = .ok issued := granted
      exact .answered k flight issuer issued moment found calling
        (issued.bears_toAccess moment issuer.policy.defaultLifetime)
    · cases noted
  · cases noted

theorem refreshed_of_step {action : Action} {identity : Identity} {token : AccessToken}
    (issued : (s.step action).Issued identity token) :
    s.Issued identity token ∨ s.Refreshed identity token action := by
  obtain ⟨note, said, rfl, issued, granted, rfl⟩ := issued
  rcases note_of_step said with old | ⟨k, issuer, issue, rfl, found, noted⟩
  · exact .inl ⟨note, old, rfl, issued, granted, rfl⟩
  · exact .inr (refreshed_of_notesOf found noted granted)

theorem refreshed_of_run {actions : List Action} {identity : Identity} {token : AccessToken}
    (issued : (s.run actions).Issued identity token) :
    s.Issued identity token ∨ ∃ front action rest, actions = front ++ action :: rest ∧
      (s.run front).Refreshed identity token action := by
  induction actions generalizing s with
  | nil => exact .inl issued
  | cons action rest ih =>
    rcases ih (s := s.step action) issued with now | ⟨front, later, back, rfl, refreshed⟩
    · rcases refreshed_of_step now with old | refreshed
      · exact .inl old
      · exact .inr ⟨[], action, rest, rfl, refreshed⟩
    · exact .inr ⟨action :: front, later, back, rfl, refreshed⟩

/-! ### Tokens in the hands of a call -/

theorem cached_of_served {i : Nat} {identity : Identity} {now : Millis} {token : AccessToken}
    (served : (s.call i identity now).served = s.served ++ [(identity, token)]) :
    ∃ client, s.clients[i]? = some client ∧ client.fresh? identity now = some token := by
  have more : ∀ {a : Identity × AccessToken}, s.served ≠ s.served ++ [a] := by
    intro a same
    simpa using congrArg List.length same
  unfold call at served
  split at served
  · rename_i client found
    split at served
    · rename_i given fresh
      obtain ⟨-, rfl⟩ := Prod.mk.inj (List.cons.inj (List.append_cancel_left served)).1
      exact ⟨client, found, fresh⟩
    · exact absurd served more
  · exact absurd served more

theorem resolved_of_returned {number time : Nat} {now : Millis} {token : AccessToken}
    {call : TokenCall} (made : s.calls[number]? = some call)
    (returned : (s.returns number time now).returned = s.returned ++ [(number, .ok token)]) :
    ∃ client after, s.clients[call.site]? = some client ∧
      client.resolve call.identity call.id time now = some (.ok token, after) := by
  unfold returns at returned
  simp only [made] at returned
  split at returned
  · rename_i result after reached
    obtain ⟨client, caller, resolved⟩ := Option.bind_eq_some_iff.mp reached
    obtain ⟨-, rfl⟩ := Prod.mk.inj (List.cons.inj (List.append_cancel_left returned)).1
    exact ⟨client, after, caller, resolved⟩
  · have longer := congrArg List.length returned
    simp at longer

theorem issued_of_hands (answered : s.Answered) (own : s.view.OwnReplies) {identity : Identity}
    {token : AccessToken} {now : Millis} {action : Action}
    (hands : s.Hands identity token now action) :
    token.isValid now = true ∧ s.Issued identity token := by
  cases hands with
  | cached i served =>
    obtain ⟨client, found, fresh⟩ := cached_of_served served
    obtain ⟨cached, margin⟩ := Option.filter_eq_some_iff.mp fresh
    exact ⟨Issuer.isValid_of_isFresh margin, answered.tracked.sourced.cached found cached⟩
  | waited number time call made mine returned =>
    obtain ⟨client, after, caller, resolved⟩ := resolved_of_returned made returned
    obtain ⟨-, -, -, delivered⟩ := TokenClient.resolve_eq_some resolved
    obtain ⟨delivery, -, -, valid⟩ := delivered token rfl
    obtain ⟨asked, same, issued⟩ :=
      issued_of_told answered own (told_of_resolve answered made caller resolved)
    obtain rfl := Option.some.inj (made.symm.trans same)
    exact ⟨valid, mine ▸ issued⟩

theorem handed_tokens_refreshed (actions : List Action)
    (distinct : ((run {} actions).clients.map (·.node)).Nodup) {identity : Identity}
    {token : AccessToken} {now : Millis} {action : Action}
    (hands : (run {} actions).Hands identity token now action) :
    token.isValid now = true ∧ ∃ front answer rest, actions = front ++ answer :: rest ∧
      (run {} front).Refreshed identity token answer := by
  have answered := answered_run answered_empty actions
  have own := Correspondence.ownReplies_of_nodup answered.sound (by rwa [nodes_view])
  obtain ⟨valid, issued⟩ := issued_of_hands answered own hands
  refine ⟨valid, ?_⟩
  rcases refreshed_of_run issued with ⟨note, said, -⟩ | refreshed
  · cases said
  · exact refreshed

/-- A client waits for a token whose source gave no expiry. -/
def aliceDelivered : List Action :=
  [.start "master" none (some {}), .start "w1" (some ({}, 1000)) none, .call 0 "alice" 5,
    .ask 0 none, .wait 0 0, .handle 0 10, .issue 0 (.answer 0 (.ok ⟨"token-of-alice", none⟩) 10),
    .issue 0 (.settle 0), .issue 0 (.report 0), .issue 0 (.publish 0), .finish 0, .send 0 false,
    .deliver 0]

/-- The call that waited gets the token, and so does one that finds it in the cache later. -/
theorem handed_tokens_refreshed_twice :
    ∃ token : AccessToken, token = ⟨"token-of-alice", 300010⟩ ∧
      (run {} aliceDelivered).Hands "alice" token 20 (.returns 0 0 20) ∧
      (run {} aliceDelivered).Hands "alice" token 70000 (.call 0 "alice" 70000) ∧
      token.isValid 70000 = true ∧
      ∃ front answer rest, aliceDelivered = front ++ answer :: rest ∧
        (run {} front).Refreshed "alice" token answer := by
  have distinct : ((run {} aliceDelivered).clients.map (·.node)).Nodup := by decide
  have waited : (run {} aliceDelivered).Hands "alice" ⟨"token-of-alice", 300010⟩ 20
      (.returns 0 0 20) := .waited 0 0 ⟨0, 1, "alice"⟩ (by decide) rfl (by decide)
  have cached : (run {} aliceDelivered).Hands "alice" ⟨"token-of-alice", 300010⟩ 70000
      (.call 0 "alice" 70000) := .cached 0 (by decide)
  obtain ⟨valid, refreshed⟩ := handed_tokens_refreshed aliceDelivered distinct cached
  exact ⟨_, rfl, waited, cached, valid, refreshed⟩

end Issuance

end Muster
