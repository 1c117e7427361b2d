import Muster.Proofs.Correspondence
import Muster.Proofs.Runs
import Muster.Proofs.Token.Origin

/-!
The issuance of tokens as a correspondence: its clients are seats, its calls leave slips, and the
deliveries that arrive are made for the calls that asked. A call that waited returns with a token
only if a delivery of that token came through to it.
-/

namespace Muster

def Arrival.stamp (a : Arrival) : Stamp TokenDelivery :=
  ⟨a.dispatch.call, a.site, a.delivery.id, a.delivery, a.accepted⟩

namespace Issuance

variable {s t : Issuance} {late : Prop}

def view (s : Issuance) : Correspondence TokenDelivery where
  seats := s.clients.map fun client => ⟨client.node, client.pending⟩
  slips := s.calls.map fun call => ⟨call.site, call.id⟩
  stamps := s.arrivals.map Arrival.stamp

theorem seat_of_client {i : Nat} {client : TokenClient} (found : s.clients[i]? = some client) :
    s.view.seats[i]? = some ⟨client.node, client.pending⟩ := by
  simp only [view, List.getElem?_map, found, Option.map_some]

theorem slip_of_call {number : Nat} {call : TokenCall} (made : s.calls[number]? = some call) :
    s.view.slips[number]? = some ⟨call.site, call.id⟩ := by
  simp only [view, List.getElem?_map, made, Option.map_some]

theorem nodeOf_view (s : Issuance) (i : Nat) : s.view.nodeOf i = s.nodeOf i := by
  simp only [Correspondence.nodeOf, nodeOf, view, List.getElem?_map, Option.map_map]
  rfl

theorem nodes_view (s : Issuance) : s.view.seats.map (·.node) = s.clients.map (·.node) := by
  simp only [view, List.map_map]
  rfl

theorem moves_set {i : Nat} {client : TokenClient} (after : TokenClient)
    (found : s.clients[i]? = some client) (node : after.node = client.node)
    (fades : client.pending.Fades after.pending) (clients : t.clients = s.clients.set i after)
    (calls : t.calls = s.calls) (arrivals : t.arrivals = s.arrivals) :
    s.view.Moves False t.view := by
  have same : t.view = { s.view with
      seats := s.view.seats.set i ⟨client.node, after.pending⟩ } := by
    simp only [view, clients, calls, arrivals, List.map_set, node]
  rw [same]
  exact .fades i _ after.pending (seat_of_client found) fades

theorem moves_start (s : Issuance) (node : NodeId) (client : Option (TokenPolicy × Millis))
    (issuer : Option TokenPolicy) : s.view.Moves False (s.start node client issuer).view := by
  cases client with
  | none =>
    have same : (s.start node none issuer).view = s.view := by
      simp only [view, start, Option.map_none, Option.toList_none, List.append_nil]
    rw [same]
    exact .rests
  | some opened =>
    have same : (s.start node (some opened) issuer).view =
        { s.view with seats := s.view.seats ++ [{ node }] } := by
      simp only [view, start, Option.map_some, Option.toList_some, List.map_append,
        List.map_singleton]
    rw [same]
    exact .starts node

/-- Every move of an issuance is a move of the correspondence, with the same deliveries late. -/
theorem view_moves (tracked : s.Tracked) (moves : s.Moves late t) :
    ∃ tardy, (tardy ↔ late) ∧ s.view.Moves tardy t.view := by
  cases moves with
  | rests | issues | serves | asks | answers | parks | finishes | sends =>
    exact ⟨False, Iff.rfl, .rests⟩
  | starts node client issuer => exact ⟨False, Iff.rfl, s.moves_start node client issuer⟩
  | eases i client after found node _ fades =>
    exact ⟨False, Iff.rfl, moves_set after found node fades rfl rfl rfl⟩
  | registers i client identity found =>
    refine ⟨False, Iff.rfl, ?_⟩
    have opens := Correspondence.Moves.opens i _ (seat_of_client found)
    simp only [view, List.map_set, List.map_append, List.map_cons, List.map_nil]
    exact opens
  | refuses number call client error _ caller =>
    exact ⟨False, Iff.rfl, moves_set (client.withdraw call.id) caller rfl
      (client.fades_withdraw call.id) rfl rfl rfl⟩
  | delivers index packet delivery client waits read found =>
    obtain ⟨⟨due, node, call, made, older⟩, payload⟩ := tracked.transit waits
    rw [payload] at read
    obtain rfl := TokenDelivery.eq_of_ofJson? read
    obtain ⟨asked, same, id, -, home⟩ := due.asks
    obtain rfl := Option.some.inj (made.symm.trans same)
    have owner : some client.node = some packet.dispatch.worker := by
      rw [← node, nodeOf, found, Option.map_some]
    have slip : s.view.slips[packet.dispatch.call]? =
        some ⟨call.site, packet.dispatch.delivery.id⟩ := by
      rw [slip_of_call made, id]
    have comes := Correspondence.Moves.comes packet.site packet.dispatch.call _ _
      packet.dispatch.delivery (seat_of_client found) slip older (by rw [nodeOf_view, home, owner])
    refine ⟨client.pending.Outstanding packet.dispatch.delivery.id ∧ call.site < packet.site,
      ?_, ?_⟩
    · simp only [made, Option.some.injEq, exists_eq_left']
    · simp only [view, List.map_set, List.map_append, List.map_cons, List.map_nil]
      exact comes
  | returns number time now call client after result _ caller resolved =>
    obtain ⟨fades, node, -, -⟩ := TokenClient.resolve_eq_some resolved
    exact ⟨False, Iff.rfl, moves_set after caller node fades rfl rfl rfl⟩

/-! ### Results -/

def Told (s : Issuance) (number : Nat) (token : AccessToken) : Prop :=
  ∃ arrival ∈ s.arrivals, s.view.Reaches arrival.stamp number ∧
    arrival.delivery.outcome = .issued token

/-- Deliveries find callers by their ids, and what a call returns with came through to it. -/
structure Answered (s : Issuance) : Prop where
  tracked : s.Tracked
  sound : s.view.Sound
  returned : ∀ {number token}, (number, .ok token) ∈ s.returned → s.Told number token

theorem answered_empty : Answered {} :=
  ⟨tracked_empty, Correspondence.sound_empty, nofun⟩

theorem Told.grow {number : Nat} {token : AccessToken} (told : s.Told number token)
    (arrivals : s.arrivals ⊆ t.arrivals) (grows : s.view.Grows t.view) : t.Told number token := by
  obtain ⟨arrival, came, reaches, outcome⟩ := told
  exact ⟨arrival, arrivals came, reaches.grow grows, outcome⟩

theorem told_of_resolve (answered : s.Answered) {number time : Nat} {now : Millis}
    {call : TokenCall} {client after : TokenClient} {token : AccessToken}
    (made : s.calls[number]? = some call) (caller : s.clients[call.site]? = some client)
    (resolved : client.resolve call.identity call.id time now = some (.ok token, after)) :
    s.Told number token := by
  obtain ⟨-, -, -, delivered⟩ := TokenClient.resolve_eq_some resolved
  obtain ⟨held, waits, outcome, -⟩ := delivered token rfl
  obtain ⟨stamp, came, reaches, taken⟩ :=
    answered.sound.reaches_of_received (seat_of_client caller) (slip_of_call made) waits
  obtain ⟨arrival, arrived, rfl⟩ := List.mem_map.mp came
  refine ⟨arrival, arrived, reaches, ?_⟩
  rw [show arrival.delivery = held from taken, outcome]

theorem answered_step (answered : s.Answered) (moves : s.Moves late t) : t.Answered := by
  obtain ⟨tardy, -, view⟩ := view_moves answered.tracked moves
  have tracked := tracked_step answered.tracked moves
  have sound := Correspondence.sound_step answered.sound view
  have told : ∀ {number token}, s.Told number token → t.Told number token := fun told =>
    told.grow (grows_of_moves answered.tracked.sourced moves).arrivals
      (Correspondence.grows_of_moves view)
  refine ⟨tracked, sound, fun {number token} ended => ?_⟩
  cases moves with
  | refuses =>
    rcases List.mem_append.mp ended with old | new
    · exact told (answered.returned old)
    · cases List.mem_singleton.mp new
  | returns other time now call client after result made caller resolved =>
    rcases List.mem_append.mp ended with old | new
    · exact told (answered.returned old)
    · obtain ⟨rfl, rfl⟩ := Prod.mk.inj (List.mem_singleton.mp new)
      exact told (told_of_resolve answered made caller resolved)
  | _ => exact told (answered.returned ended)

theorem answered_action (answered : s.Answered) (action : Action) : (s.step action).Answered := by
  obtain ⟨mid, late, first, -, second⟩ := s.step_moves action
  exact answered_step (answered_step answered first) second

theorem answered_run (answered : s.Answered) (actions : List Action) :
    (s.run actions).Answered := by
  induction actions generalizing s with
  | nil => exact answered
  | cons action rest ih => exact ih (answered_action answered action)

/-- A call that gets its own delivery is told a token of its identity. -/
theorem issued_of_told (answered : s.Answered) (own : s.view.OwnReplies) {number : Nat}
    {token : AccessToken} (told : s.Told number token) :
    ∃ call, s.calls[number]? = some call ∧ s.Issued call.identity token := by
  obtain ⟨arrival, came, reaches, outcome⟩ := told
  obtain ⟨⟨due, -⟩, delivery⟩ := answered.tracked.arrivals came
  obtain ⟨call, made, -, identity, -⟩ := due.asks
  -- without this the identity would be that of the call that the delivery was made for
  have mine : arrival.dispatch.call = number := own arrival.stamp number reaches
  rw [mine] at made
  rw [delivery] at outcome
  have issued := due.issued outcome
  rw [show arrival.dispatch.delivery.identity = call.identity from identity.symm] at issued
  exact ⟨call, made, issued⟩

theorem issued_of_returned (answered : s.Answered) (own : s.view.OwnReplies) {number : Nat}
    {token : AccessToken} (returned : (number, .ok token) ∈ s.returned) :
    ∃ call, s.calls[number]? = some call ∧ s.Issued call.identity token :=
  issued_of_told answered own (answered.returned returned)

/-! ### Late deliveries -/

/-- No action of the run brings a late delivery to a caller that waits. -/
def Quiet (s : Issuance) (actions : List Action) : Prop := Avoids step Intrudes s actions

theorem ownReplies_step (answered : s.Answered) (action : Action) :
    (s.step action).view.OwnReplies ↔ s.view.OwnReplies ∧ ¬s.Intrudes action := by
  obtain ⟨mid, late, first, same, second⟩ := s.step_moves action
  obtain ⟨early, never, before⟩ := view_moves answered.tracked first
  have halfway := answered_step answered first
  obtain ⟨tardy, again, after⟩ := view_moves halfway.tracked second
  rw [Correspondence.ownReplies_step halfway.sound after,
    Correspondence.ownReplies_step answered.sound before, never, again, same, not_false_iff,
    and_true]

/-- Every call of a run gets its own deliveries exactly if the run is quiet. -/
theorem ownReplies_run_iff (actions : List Action) :
    (run {} actions).view.OwnReplies ↔ Quiet {} actions := by
  have own : (view {}).OwnReplies := fun stamp number reaches => by cases reaches.came
  rw [run, holds_foldl_iff (P := fun s => s.view.OwnReplies) answered_empty actions
    (fun action answered => answered_action answered action)
    fun action answered => ownReplies_step answered action]
  exact and_iff_right own

end Issuance

end Muster
