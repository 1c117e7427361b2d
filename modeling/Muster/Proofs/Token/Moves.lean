import Muster.Proofs.Hub
import Muster.Proofs.Payload
import Muster.Proofs.Pending
import Muster.Proofs.Rows
import Muster.Proofs.Token.Flights
import Muster.Proofs.Token.Issuance

/-!
What an action does to the issuance of tokens. Every action is a move or two, and each move says
what it found and what it put there.
-/

namespace Muster

namespace TokenClient

theorem fades_wait (c : TokenClient) (id time : Nat) : c.pending.Fades (c.wait id time).pending :=
  c.pending.fades_wait id c.timeout time

theorem fades_cancelAll (c : TokenClient) : c.pending.Fades c.cancelAll.2.pending :=
  c.pending.fades_cancelAll

theorem fades_withdraw (c : TokenClient) (id : Nat) : c.pending.Fades (c.withdraw id).pending :=
  (c.pending.fades_forget id).trans ((c.pending.forget id).fades_abandon id)

/-- A call that resolves with a token was delivered that token, and it is valid. -/
theorem resolve_eq_some {c d : TokenClient} {identity : Identity} {id time : Nat} {now : Millis}
    {result : TokenResult} (resolved : c.resolve identity id time now = some (result, d)) :
    c.pending.Fades d.pending ∧ d.node = c.node ∧ d.cache = c.cache ∧
      ∀ token, result = .ok token → ∃ delivery, c.pending.received? id = some delivery ∧
        delivery.outcome = .issued token ∧ token.isValid now = true := by
  unfold resolve at resolved
  obtain ⟨⟨ended, pending⟩, settled, same⟩ := Option.map_eq_some_iff.mp resolved
  obtain ⟨rfl, rfl⟩ := Prod.mk.inj same
  obtain ⟨came, -⟩ := Pending.resolve_eq_some settled
  refine ⟨Pending.fades_resolve settled, rfl, rfl, fun token good => ?_⟩
  cases ended with
  | error error => cases error <;> cases good
  | ok delivery =>
    refine ⟨delivery, Pending.received?_of_outcome? came, ?_⟩
    dsimp only at good
    unfold accept at good
    split at good
    · rename_i issued outcome
      split at good
      · rename_i valid
        obtain rfl := Except.ok.inj good
        exact ⟨outcome, valid⟩
      · cases good
    · cases good

theorem fresh?_eq_some {c : TokenClient} {identity : Identity} {now : Millis} {token : AccessToken}
    (fresh : c.fresh? identity now = some token) : c.cached? identity = some token :=
  (Option.filter_eq_some_iff.mp fresh).1

/-- What a delivery brings for an identity. -/
def tokenFor? (identity : Identity) (delivery : TokenDelivery) : Option AccessToken :=
  match delivery.outcome with
  | .issued token => if delivery.identity = identity then some token else none
  | .failed _ => none

theorem tokenFor?_eq_some {identity : Identity} {delivery : TokenDelivery} {token : AccessToken}
    (brings : tokenFor? identity delivery = some token) :
    identity = delivery.identity ∧ delivery.outcome = .issued token := by
  unfold tokenFor? at brings
  split at brings
  · rename_i issued outcome
    split at brings
    · rename_i own
      exact ⟨own.symm, outcome.trans (congrArg _ (Option.some.inj brings))⟩
    · cases brings
  · cases brings

theorem cached?_deliver_of_none {c : TokenClient} {identity : Identity} {delivery : TokenDelivery}
    (brings : tokenFor? identity delivery = none) :
    (c.deliver delivery).2.1.cached? identity = c.cached? identity := by
  unfold tokenFor? at brings
  unfold deliver cached?
  cases outcome : delivery.outcome with
  | failed reason => rfl
  | issued token =>
    rw [outcome] at brings
    have apart : identity ≠ delivery.identity := by
      rintro rfl
      simp at brings
    simp only [store]
    split
    · split
      · rw [Table.find?_insert, if_neg apart]
      · rfl
    · rw [Table.find?_insert, if_neg apart]

/-- A token that is delivered is cached, unless the cached one expires later. -/
theorem cached?_deliver_of_some {c : TokenClient} {identity : Identity} {delivery : TokenDelivery}
    {token : AccessToken} (brings : tokenFor? identity delivery = some token) :
    (c.deliver delivery).2.1.cached? identity = some token ∧
        (∀ held, c.cached? identity = some held → held.expiresAt ≤ token.expiresAt) ∨
      ∃ held, c.cached? identity = some held ∧ token.expiresAt < held.expiresAt ∧
        (c.deliver delivery).2.1.cached? identity = some held := by
  obtain ⟨rfl, outcome⟩ := tokenFor?_eq_some brings
  unfold deliver
  simp only [outcome, store, cached?]
  split
  · rename_i held found
    split
    · rename_i later
      left
      refine ⟨by rw [Table.find?_insert, if_pos rfl], ?_⟩
      intro other same
      obtain rfl := Option.some.inj (found.symm.trans same)
      exact later
    · rename_i sooner
      exact .inr ⟨held, found, UInt64.not_le.mp sooner, found⟩
  · rename_i found
    left
    refine ⟨by rw [Table.find?_insert, if_pos rfl], ?_⟩
    intro other same
    cases found.symm.trans same

/-- A token that is cached after a delivery was cached before it, or was delivered. -/
theorem cached?_deliver {c : TokenClient} {d : TokenDelivery} {identity : Identity}
    {token : AccessToken} (cached : (c.deliver d).2.1.cached? identity = some token) :
    c.cached? identity = some token ∨ (identity = d.identity ∧ d.outcome = .issued token) := by
  cases brings : tokenFor? identity d with
  | none => exact .inl ((cached?_deliver_of_none brings).symm.trans cached)
  | some issued =>
    rcases cached?_deliver_of_some (c := c) brings with ⟨same, -⟩ | ⟨held, old, -, same⟩
    · cases same.symm.trans cached
      exact .inr (tokenFor?_eq_some brings)
    · cases same.symm.trans cached
      exact .inl old

end TokenClient

namespace Issuance

/-- The action brings a delivery that was made for an earlier client of the node, while a caller of
the present one waits under its id. -/
def Intrudes (s : Issuance) : Action → Prop
  | .deliver index => ∃ packet delivery client asked, s.transit[index]? = some packet ∧
      TokenDelivery.ofJson? packet.payload = some delivery ∧
      s.clients[packet.site]? = some client ∧ s.calls[packet.dispatch.call]? = some asked ∧
      client.pending.Outstanding delivery.id ∧ asked.site < packet.site
  | _ => False

/-- What may happen; the proposition says that a delivery intrudes. -/
inductive Moves (s : Issuance) : Prop → Issuance → Prop
  | rests (hub : Hub Nat Nat) (pleas : List Plea) (outbox : List Dispatch) (transit : List Packet)
      (bound : ∀ {node site}, hub.bound node consumeToken = .ok site →
        s.hub.bound node consumeToken = .ok site)
      (unheard : pleas ⊆ s.pleas) (unsent : outbox ⊆ s.outbox) (left : transit ⊆ s.transit) :
      Moves s False { s with hub, pleas, outbox, transit }
  | starts (node : NodeId) (client : Option (TokenPolicy × Millis)) (issuer : Option TokenPolicy) :
      Moves s False (s.start node client issuer)
  | eases (i : Nat) (client after : TokenClient) (found : s.clients[i]? = some client)
      (node : after.node = client.node) (cache : after.cache = client.cache)
      (fades : client.pending.Fades after.pending) :
      Moves s False { s with clients := s.clients.set i after }
  | issues (k : Nat) (issuer : Issuer) (action : Issuer.Action)
      (found : s.issuers[k]? = some issuer) :
      Moves s False { s with
        issuers := s.issuers.set k (issuer.step action)
        answers := s.answers ++ notesOf issuer action }
  | serves (i : Nat) (client : TokenClient) (identity : Identity) (token : AccessToken)
      (found : s.clients[i]? = some client) (cached : client.cached? identity = some token) :
      Moves s False { s with served := s.served ++ [(identity, token)] }
  | registers (i : Nat) (client : TokenClient) (identity : Identity)
      (found : s.clients[i]? = some client) :
      Moves s False { s with
        clients := s.clients.set i (client.register identity).2
        calls := s.calls ++ [⟨i, (client.register identity).1.id, identity⟩] }
  | asks (number issuer : Nat) (call : TokenCall) (client : TokenClient)
      (made : s.calls[number]? = some call) (caller : s.clients[call.site]? = some client) :
      Moves s False { s with
        tried := s.tried ++ [number]
        pleas := s.pleas ++
          [⟨number, issuer, client.node, (TokenRequest.mk call.id call.identity).toJson⟩] }
  | refuses (number : Nat) (call : TokenCall) (client : TokenClient) (error : TransportError)
      (made : s.calls[number]? = some call) (caller : s.clients[call.site]? = some client) :
      Moves s False (s.refuse number call client error)
  | answers (index : Nat) (plea : Plea) (request : TokenRequest) (issuer : Issuer)
      (token : AccessToken) (waits : plea ∈ s.pleas)
      (read : TokenRequest.ofJson? plea.payload = some request)
      (found : s.issuers[plea.issuer]? = some issuer)
      (cached : (issuer.slot request.identity).cached = some token) :
      Moves s False { s with
        pleas := s.pleas.eraseIdx index
        outbox := s.outbox ++
          [⟨plea.call, plea.sender, ⟨request.id, request.identity, .issued token⟩⟩] }
  | parks (index : Nat) (plea : Plea) (request : TokenRequest) (issuer : Issuer) (flight : Nat)
      (waits : plea ∈ s.pleas) (read : TokenRequest.ofJson? plea.payload = some request)
      (found : s.issuers[plea.issuer]? = some issuer)
      (recorded : (issuer.slot request.identity).flight = some flight) :
      Moves s False { s with
        pleas := s.pleas.eraseIdx index
        errands := s.errands ++ [⟨plea.call, plea.issuer, plea.sender, request, flight⟩] }
  | finishes (index : Nat) (errand : Errand) (issuer : Issuer) (result : TokenResult)
      (waits : errand ∈ s.errands) (found : s.issuers[errand.issuer]? = some issuer)
      (outcome : issuer.outcome? errand.flight = some result) :
      Moves s False { s with
        errands := s.errands.eraseIdx index
        outbox := s.outbox ++ [⟨errand.call, errand.sender,
          ⟨errand.request.id, errand.request.identity, .ofResult result⟩⟩] }
  | sends (index : Nat) (dispatch : Dispatch) (site : Nat) (waits : dispatch ∈ s.outbox)
      (bound : s.hub.bound dispatch.worker consumeToken = .ok site) :
      Moves s False { s with
        outbox := s.outbox.eraseIdx index
        transit := s.transit ++ [⟨dispatch, site, dispatch.delivery.toJson⟩] }
  | delivers (index : Nat) (packet : Packet) (delivery : TokenDelivery) (client : TokenClient)
      (waits : packet ∈ s.transit) (read : TokenDelivery.ofJson? packet.payload = some delivery)
      (found : s.clients[packet.site]? = some client) :
      Moves s (∃ asked, s.calls[packet.dispatch.call]? = some asked ∧
        client.pending.Outstanding delivery.id ∧ asked.site < packet.site) { s with
        clients := s.clients.set packet.site (client.deliver delivery).2.1
        transit := s.transit.eraseIdx index
        arrivals := s.arrivals ++
          [⟨packet.dispatch, packet.site, delivery, (client.deliver delivery).1⟩] }
  | returns (number time : Nat) (now : Millis) (call : TokenCall) (client after : TokenClient)
      (result : TokenResult) (made : s.calls[number]? = some call)
      (caller : s.clients[call.site]? = some client)
      (resolved : client.resolve call.identity call.id time now = some (result, after)) :
      Moves s False { s with
        clients := s.clients.set call.site after
        returned := s.returned ++ [(number, result)] }

variable (s : Issuance)

theorem moves_self : s.Moves False s :=
  .rests s.hub s.pleas s.outbox s.transit id (List.Subset.refl _) (List.Subset.refl _)
    (List.Subset.refl _)

theorem moves_withClient (i : Nat) (f : TokenClient → TokenClient)
    (node : ∀ client, (f client).node = client.node)
    (cache : ∀ client, (f client).cache = client.cache)
    (fades : ∀ client : TokenClient, client.pending.Fades (f client).pending) :
    s.Moves False (s.withClient i f) := by
  unfold withClient
  split
  · rename_i client found
    exact .eases i client (f client) found (node client) (cache client) (fades client)
  · exact s.moves_self

theorem moves_issue (k : Nat) (action : Issuer.Action) : s.Moves False (s.issue k action) := by
  unfold issue
  split
  · rename_i issuer found
    exact .issues k issuer action found
  · exact s.moves_self

theorem moves_call (i : Nat) (identity : Identity) (now : Millis) :
    s.Moves False (s.call i identity now) := by
  unfold call
  split
  · rename_i client found
    split
    · rename_i token fresh
      exact .serves i client identity token found (TokenClient.fresh?_eq_some fresh)
    · exact .registers i client identity found
  · exact s.moves_self

theorem moves_ask (number : Nat) (refusal : Option TransportError) :
    s.Moves False (s.ask number refusal) := by
  unfold ask
  split
  · exact s.moves_self
  · split
    · rename_i call made
      split
      · rename_i client caller
        split
        · rename_i issuer bound
          exact .asks number issuer call client made caller
        · exact .refuses number call client _ made caller
        · exact .refuses number call client _ made caller
      · exact s.moves_self
    · exact s.moves_self

theorem moves_finish (index : Nat) : s.Moves False (s.finish index) := by
  unfold finish
  split
  · rename_i errand waits
    split
    · rename_i result reached
      obtain ⟨issuer, found, outcome⟩ := Option.bind_eq_some_iff.mp reached
      exact .finishes index errand issuer result (List.mem_of_getElem? waits) found outcome
    · exact s.moves_self
  · exact s.moves_self

theorem moves_send (index : Nat) (refused : Bool) : s.Moves False (s.send index refused) := by
  unfold send
  split
  · rename_i dispatch waits
    split
    · rename_i site bound
      exact .sends index dispatch site (List.mem_of_getElem? waits) bound
    · exact .rests s.hub s.pleas _ s.transit id (List.Subset.refl _) List.eraseIdx_subset
        (List.Subset.refl _)
  · exact s.moves_self

theorem moves_deliver (index : Nat) :
    ∃ late, (late ↔ s.Intrudes (.deliver index)) ∧ s.Moves late (s.deliver index) := by
  unfold deliver
  cases waits : s.transit[index]? with
  | none =>
    refine ⟨False, ⟨False.elim, ?_⟩, s.moves_self⟩
    rintro ⟨packet, -, -, -, here, -⟩
    cases waits.symm.trans here
  | some packet =>
    dsimp only
    split
    · rename_i delivery client read found
      refine ⟨_, ⟨?_, ?_⟩,
        .delivers index packet delivery client (List.mem_of_getElem? waits) read found⟩
      · rintro ⟨asked, made, outstanding, earlier⟩
        exact ⟨packet, delivery, client, asked, waits, read, found, made, outstanding, earlier⟩
      · rintro ⟨other, again, rival, asked, here, reread, refound, made, outstanding, earlier⟩
        obtain rfl := Option.some.inj (waits.symm.trans here)
        obtain rfl := Option.some.inj (read.symm.trans reread)
        obtain rfl := Option.some.inj (found.symm.trans refound)
        exact ⟨asked, made, outstanding, earlier⟩
    · rename_i unread
      refine ⟨False, ⟨False.elim, ?_⟩, .rests s.hub s.pleas s.outbox _ id (List.Subset.refl _)
        (List.Subset.refl _) List.eraseIdx_subset⟩
      rintro ⟨other, delivery, client, -, here, read, found, -⟩
      obtain rfl := Option.some.inj (waits.symm.trans here)
      exact unread delivery client read found

theorem moves_returns (number time : Nat) (now : Millis) :
    s.Moves False (s.returns number time now) := by
  unfold returns
  split
  · rename_i call made
    split
    · rename_i result after reached
      obtain ⟨client, caller, resolved⟩ := Option.bind_eq_some_iff.mp reached
      exact .returns number time now call client after result made caller resolved
    · exact s.moves_self
  · exact s.moves_self

/-- A handler that begins enters its issuer, and takes its request off the way. -/
theorem moves_handle (index : Nat) (now : Millis) :
    ∃ mid, s.Moves False mid ∧ mid.Moves False (s.handle index now) := by
  unfold handle
  split
  · rename_i plea waits
    have waits := List.mem_of_getElem? waits
    split
    · rename_i request issuer read found
      have entered : s.issue plea.issuer (.enter request.identity now) = { s with
          issuers := s.issuers.set plea.issuer (issuer.enter request.identity now).2
          answers := s.answers ++ [] } := by
        simp only [issue, found, Issuer.step, notesOf]
      dsimp only
      split
      · rename_i token served
        -- the token was cached before the call, so the answer can go first and the refresh second
        have cached := (Issuer.served_of_enter served).1
        refine ⟨_, .answers index plea request issuer token waits read found cached, ?_⟩
        rw [entered]
        exact .issues plea.issuer issuer (.enter request.identity now) found
      · rename_i flight parked
        -- the flight may have started by this very call, so here the refresh goes first
        have recorded := Issuer.recorded_of_enter parked
        refine ⟨_, .issues plea.issuer issuer (.enter request.identity now) found, ?_⟩
        rw [entered]
        exact .parks index plea request _ flight waits read (getElem?_set_same found) recorded
    · exact ⟨s, s.moves_self, .rests s.hub _ s.outbox s.transit id List.eraseIdx_subset
        (List.Subset.refl _) (List.Subset.refl _)⟩
  · exact ⟨s, s.moves_self, s.moves_self⟩

theorem step_moves (action : Action) :
    ∃ mid late, s.Moves False mid ∧ (late ↔ s.Intrudes action) ∧
      mid.Moves late (s.step action) := by
  have single : s.Moves False s := s.moves_self
  cases action with
  | start node client issuer => exact ⟨s, False, single, Iff.rfl, .starts node client issuer⟩
  | close node =>
    exact ⟨s, False, single, Iff.rfl, .rests _ s.pleas s.outbox s.transit (Hub.bound_detach rfl)
      (List.Subset.refl _) (List.Subset.refl _) (List.Subset.refl _)⟩
  | cancelAll i =>
    exact ⟨s, False, single, Iff.rfl, s.moves_withClient i _ (fun _ => rfl) (fun _ => rfl)
      TokenClient.fades_cancelAll⟩
  | issue k action => exact ⟨s, False, single, Iff.rfl, s.moves_issue k action⟩
  | call i identity now => exact ⟨s, False, single, Iff.rfl, s.moves_call i identity now⟩
  | ask number refusal => exact ⟨s, False, single, Iff.rfl, s.moves_ask number refusal⟩
  | wait number time =>
    refine ⟨s, False, single, Iff.rfl, ?_⟩
    unfold step wait
    dsimp only
    split
    · rename_i call made
      split
      · exact s.moves_withClient call.site _ (fun _ => rfl) (fun _ => rfl)
          fun client => client.fades_wait call.id time
      · exact s.moves_self
    · exact s.moves_self
  | handle index now =>
    obtain ⟨mid, first, second⟩ := s.moves_handle index now
    exact ⟨mid, False, first, Iff.rfl, second⟩
  | finish index => exact ⟨s, False, single, Iff.rfl, s.moves_finish index⟩
  | send index refused => exact ⟨s, False, single, Iff.rfl, s.moves_send index refused⟩
  | deliver index =>
    obtain ⟨late, same, moves⟩ := s.moves_deliver index
    exact ⟨s, late, single, same, moves⟩
  | lose index =>
    exact ⟨s, False, single, Iff.rfl, .rests s.hub s.pleas s.outbox _ id (List.Subset.refl _)
      (List.Subset.refl _) List.eraseIdx_subset⟩
  | returns number time now =>
    exact ⟨s, False, single, Iff.rfl, s.moves_returns number time now⟩

end Issuance

end Muster
