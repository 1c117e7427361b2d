import Muster.Proofs.Token.Moves

/-!
Where tokens come from. Every token that an issuer, a client or a delivery has was issued by the
token source for the identity it goes under, and every delivery answers the request that one call
sent: it carries the id and the identity of that call, and reaches a client of the node that asked,
either the one that made the call or one that was started later in its place.
-/

namespace Muster.Issuance

def nodeOf (s : Issuance) (i : Nat) : Option NodeId := (s.clients[i]?).map (·.node)

/-- The token source issued the token for the identity. -/
def Issued (s : Issuance) (identity : Identity) (token : AccessToken) : Prop :=
  ∃ note ∈ s.answers, note.identity = identity ∧
    ∃ issued, note.answer = .ok issued ∧ token = issued.toAccess note.now note.lifetime

/-- The request is the one that its call registered, and comes from the node of the call. -/
def Asks (s : Issuance) (number : Nat) (node : NodeId) (request : TokenRequest) : Prop :=
  ∃ call, s.calls[number]? = some call ∧ call.id = request.id ∧
    call.identity = request.identity ∧ s.nodeOf call.site = some node

def Refreshes (s : Issuance) (k flight : Nat) (identity : Identity) : Prop :=
  ∃ issuer phase, s.issuers[k]? = some issuer ∧
    issuer.flights.find? flight = some ⟨identity, phase⟩

/-- The delivery answers the request of its call. -/
structure Due (s : Issuance) (dispatch : Dispatch) : Prop where
  asks : s.Asks dispatch.call dispatch.worker ⟨dispatch.delivery.id, dispatch.delivery.identity⟩
  issued : ∀ {token}, dispatch.delivery.outcome = .issued token →
    s.Issued dispatch.delivery.identity token

/-- The delivery goes to a client that is not older than the one that asked. -/
structure Routed (s : Issuance) (dispatch : Dispatch) (site : Nat) : Prop where
  due : s.Due dispatch
  node : s.nodeOf site = some dispatch.worker
  since : ∃ call, s.calls[dispatch.call]? = some call ∧ call.site ≤ site

/-- Nothing that was recorded is lost. -/
structure Grows (s t : Issuance) : Prop where
  answers : s.answers ⊆ t.answers
  calls : ∀ {number : Nat} {call}, s.calls[number]? = some call → t.calls[number]? = some call
  nodes : ∀ {i node}, s.nodeOf i = some node → t.nodeOf i = some node
  flights : ∀ {k flight identity}, s.Refreshes k flight identity → t.Refreshes k flight identity
  arrivals : s.arrivals ⊆ t.arrivals

variable {s t : Issuance} {late : Prop}

theorem Issued.grow {identity : Identity} {token : AccessToken} (issued : s.Issued identity token)
    (grows : s.Grows t) : t.Issued identity token := by
  obtain ⟨note, said, rest⟩ := issued
  exact ⟨note, grows.answers said, rest⟩

theorem Asks.grow {number : Nat} {node : NodeId} {request : TokenRequest}
    (asks : s.Asks number node request) (grows : s.Grows t) : t.Asks number node request := by
  obtain ⟨call, made, id, identity, home⟩ := asks
  exact ⟨call, grows.calls made, id, identity, grows.nodes home⟩

theorem Due.grow {dispatch : Dispatch} (due : s.Due dispatch) (grows : s.Grows t) :
    t.Due dispatch :=
  ⟨due.asks.grow grows, fun same => (due.issued same).grow grows⟩

theorem Routed.grow {dispatch : Dispatch} {site : Nat} (routed : s.Routed dispatch site)
    (grows : s.Grows t) : t.Routed dispatch site := by
  obtain ⟨due, node, call, made, older⟩ := routed
  exact ⟨due.grow grows, grows.nodes node, call, grows.calls made, older⟩

/-! ### What is kept -/

/-- Every token that an issuer or a client has was issued for its identity. -/
structure Sourced (s : Issuance) : Prop where
  formed : ∀ {k : Nat} {issuer : Issuer}, s.issuers[k]? = some issuer → issuer.Formed
  backed : ∀ {k : Nat} {issuer : Issuer}, s.issuers[k]? = some issuer →
    issuer.Backed fun _ => s.Issued
  cached : ∀ {i : Nat} {client : TokenClient} {identity token}, s.clients[i]? = some client →
    client.cached? identity = some token → s.Issued identity token
  served : ∀ {identity token}, (identity, token) ∈ s.served → s.Issued identity token

theorem Grows.refl (s : Issuance) : s.Grows s :=
  ⟨List.Subset.refl _, id, id, id, List.Subset.refl _⟩

theorem nodes_set {i : Nat} {client after : TokenClient} (found : s.clients[i]? = some client)
    (node : after.node = client.node) (j : Nat) :
    ((s.clients.set i after)[j]?).map (·.node) = s.nodeOf j := by
  rw [nodeOf, ← List.getElem?_map, ← List.getElem?_map, map_set_same found node]

theorem grows_set {i : Nat} {client : TokenClient} (after : TokenClient)
    (found : s.clients[i]? = some client) (node : after.node = client.node) :
    s.Grows { s with clients := s.clients.set i after } :=
  { Grows.refl s with nodes := fun known => (nodes_set found node _).trans known }

theorem grows_start (s : Issuance) (node : NodeId) (client : Option (TokenPolicy × Millis))
    (issuer : Option TokenPolicy) : s.Grows (s.start node client issuer) := by
  refine { Grows.refl s with nodes := fun {i known} here => ?_, flights := ?_ }
  · obtain ⟨before, found, same⟩ := Option.map_eq_some_iff.mp here
    simp only [nodeOf, start, getElem?_append_old found, Option.map_some, same]
  · rintro k flight identity ⟨holder, phase, found, flies⟩
    exact ⟨holder, phase, getElem?_append_old found, flies⟩

theorem grows_issue (sourced : s.Sourced) {k : Nat} {issuer : Issuer}
    (found : s.issuers[k]? = some issuer) (action : Issuer.Action) :
    s.Grows { s with
      issuers := s.issuers.set k (issuer.step action)
      answers := s.answers ++ notesOf issuer action } := by
  refine { Grows.refl s with answers := List.subset_append_left _ _, flights := ?_ }
  rintro other flight identity ⟨holder, phase, here, flies⟩
  by_cases same : other = k
  · subst same
    obtain rfl := Option.some.inj (found.symm.trans here)
    obtain ⟨after, still⟩ :=
      Issuer.owner_step (sourced.formed found) (issuer.step_moves action) flies
    exact ⟨_, after, getElem?_set_same found, still⟩
  · exact ⟨holder, phase, (List.getElem?_set_ne (Ne.symm same)).trans here, flies⟩

theorem grows_of_moves (sourced : s.Sourced) (moves : s.Moves late t) : s.Grows t := by
  cases moves with
  | rests | serves | asks | answers | parks | finishes | sends => exact { Grows.refl s with }
  | starts node client issuer => exact s.grows_start node client issuer
  | eases i client after found node => exact grows_set after found node
  | issues k issuer action found => exact grows_issue sourced found action
  | registers i client identity found =>
    exact { grows_set (client.register identity).2 found rfl with calls := getElem?_append_old }
  | refuses number call client error made caller =>
    exact { grows_set (client.withdraw call.id) caller rfl with }
  | delivers index packet delivery client _ _ found =>
    exact { grows_set (client.deliver delivery).2.1 found rfl with
      arrivals := List.subset_append_left _ _ }
  | returns number time now call client after result _ caller resolved =>
    exact { grows_set after caller (TokenClient.resolve_eq_some resolved).2.1 with }

/-! ### Tokens -/

structure Tracked (s : Issuance) : Prop where
  sourced : s.Sourced
  pleas : ∀ {plea}, plea ∈ s.pleas →
    ∃ request, s.Asks plea.call plea.sender request ∧ plea.payload = request.toJson
  errands : ∀ {errand}, errand ∈ s.errands → s.Asks errand.call errand.sender errand.request ∧
    s.Refreshes errand.issuer errand.flight errand.request.identity
  outbox : ∀ {dispatch}, dispatch ∈ s.outbox → s.Due dispatch
  transit : ∀ {packet}, packet ∈ s.transit → s.Routed packet.dispatch packet.site ∧
    packet.payload = packet.dispatch.delivery.toJson
  arrivals : ∀ {arrival}, arrival ∈ s.arrivals → s.Routed arrival.dispatch arrival.site ∧
    arrival.delivery = arrival.dispatch.delivery
  bound : s.hub.Latest consumeToken (s.clients.map (·.node))

theorem tracked_empty : Tracked {} where
  sourced := ⟨nofun, nofun, nofun, nofun⟩
  pleas := nofun
  errands := nofun
  outbox := nofun
  transit := nofun
  arrivals := nofun
  bound := nofun

theorem Sourced.extend (sourced : s.Sourced) (grows : s.Grows t)
    (issuers : ∀ {k : Nat} {issuer}, t.issuers[k]? = some issuer → s.issuers[k]? = some issuer ∨
      (issuer.Formed ∧ issuer.Backed fun _ => t.Issued))
    (cached : ∀ {i : Nat} {client : TokenClient} {identity token}, t.clients[i]? = some client →
      client.cached? identity = some token → t.Issued identity token ∨
        ∃ before, s.clients[i]? = some before ∧ before.cached? identity = some token)
    (served : ∀ {identity token}, (identity, token) ∈ t.served →
      (identity, token) ∈ s.served ∨ t.Issued identity token) : t.Sourced := by
  refine ⟨fun found => ?_, fun found => ?_, fun found here => ?_, fun given => ?_⟩
  · rcases issuers found with old | ⟨formed, -⟩
    · exact sourced.formed old
    · exact formed
  · rcases issuers found with old | ⟨-, backed⟩
    · exact (sourced.backed old).mono fun issued => issued.grow grows
    · exact backed
  · rcases cached found here with issued | ⟨before, old, same⟩
    · exact issued
    · exact (sourced.cached old same).grow grows
  · rcases served given with old | issued
    · exact (sourced.served old).grow grows
    · exact issued

theorem cached_set {i j : Nat} {client after changed : TokenClient} {identity : Identity}
    {token : AccessToken} (found : s.clients[i]? = some client)
    (cache : after.cache = client.cache) (here : (s.clients.set i after)[j]? = some changed)
    (cached : changed.cached? identity = some token) :
    ∃ before, s.clients[j]? = some before ∧ before.cached? identity = some token := by
  rcases getElem?_set_cases found here with ⟨rfl, rfl⟩ | ⟨-, old⟩
  · rw [TokenClient.cached?, cache] at cached
    exact ⟨client, found, cached⟩
  · exact ⟨changed, old, cached⟩

theorem Sourced.set (sourced : s.Sourced) (grows : s.Grows t) {i : Nat} {client : TokenClient}
    (after : TokenClient) (found : s.clients[i]? = some client)
    (cache : after.cache = client.cache) (clients : t.clients = s.clients.set i after)
    (issuers : t.issuers = s.issuers) (served : t.served = s.served) : t.Sourced := by
  refine sourced.extend grows (fun here => .inl (issuers ▸ here)) (fun here cached => .inr ?_)
    fun given => .inl (served ▸ given)
  rw [clients] at here
  exact cached_set found cache here cached

theorem issued_of_notesOf {issuer : Issuer} {flight : Nat} {identity : Identity}
    {answer : SourceAnswer} {now : Millis} {token : AccessToken}
    (notes : notesOf issuer (.answer flight answer now) ⊆ t.answers)
    (calling : issuer.flights.find? flight = some ⟨identity, .calling⟩)
    (decided : Issuer.decide identity issuer.policy now answer = .ok token) :
    t.Issued identity token := by
  obtain ⟨issued, said, same, -⟩ := Issuer.decide_eq_ok decided
  refine ⟨⟨identity, answer, now, issuer.policy.defaultLifetime⟩, notes ?_, rfl, issued, said, same⟩
  simp only [notesOf, calling, List.mem_singleton]

theorem sourced_issue (sourced : s.Sourced) {k : Nat} {issuer : Issuer}
    (found : s.issuers[k]? = some issuer) (action : Issuer.Action) :
    Sourced { s with
      issuers := s.issuers.set k (issuer.step action)
      answers := s.answers ++ notesOf issuer action } := by
  have grows := grows_issue sourced found action
  refine sourced.extend grows (fun here => ?_) (fun here cached => .inr ⟨_, here, cached⟩) .inl
  rcases getElem?_set_cases found here with ⟨rfl, rfl⟩ | ⟨-, old⟩
  · have moves := issuer.step_moves action
    -- what the flights had come to is issued already, and a new result is in the new notes
    refine .inr ⟨Issuer.formed_step (sourced.formed found) moves, ?_⟩
    have backed := (sourced.backed found).mono fun issued => Issued.grow issued grows
    refine Issuer.backed_step backed moves fun same calling decided => ?_
    subst same
    exact issued_of_notesOf (List.subset_append_right _ _) calling decided
  · exact .inl old

theorem sourced_start (sourced : s.Sourced) (node : NodeId)
    (client : Option (TokenPolicy × Millis)) (issuer : Option TokenPolicy) :
    (s.start node client issuer).Sourced := by
  refine sourced.extend (s.grows_start node client issuer) (fun here => ?_)
    (fun here cached => .inr ?_) .inl
  · rcases getElem?_append_toList here with old | ⟨-, new⟩
    · exact .inl old
    · obtain ⟨policy, -, rfl⟩ := Option.map_eq_some_iff.mp new
      exact .inr ⟨Issuer.formed_empty policy, Issuer.backed_empty policy⟩
  · rcases getElem?_append_toList here with old | ⟨-, new⟩
    · exact ⟨_, old, cached⟩
    · obtain ⟨opened, -, rfl⟩ := Option.map_eq_some_iff.mp new
      cases cached

theorem sourced_deliver (sourced : s.Sourced) {site : Nat} {client : TokenClient}
    {delivery : TokenDelivery} (found : s.clients[site]? = some client)
    (issued : ∀ {token}, delivery.outcome = .issued token → s.Issued delivery.identity token)
    (grows : s.Grows t) (clients : t.clients = s.clients.set site (client.deliver delivery).2.1)
    (issuers : t.issuers = s.issuers) (served : t.served = s.served) : t.Sourced := by
  refine sourced.extend grows (fun here => .inl (issuers ▸ here)) (fun here cached => ?_)
    fun given => .inl (served ▸ given)
  rw [clients] at here
  rcases getElem?_set_cases found here with ⟨rfl, rfl⟩ | ⟨-, old⟩
  · rcases TokenClient.cached?_deliver cached with before | ⟨rfl, outcome⟩
    · exact .inr ⟨client, found, before⟩
    · exact .inl ((issued outcome).grow grows)
  · exact .inr ⟨_, old, cached⟩

theorem sourced_step (tracked : s.Tracked) (moves : s.Moves late t) : t.Sourced := by
  have sourced := tracked.sourced
  have grows := grows_of_moves sourced moves
  cases moves with
  | rests | asks | answers | parks | finishes | sends =>
    exact sourced.extend grows .inl (fun here cached => .inr ⟨_, here, cached⟩) .inl
  | starts node client issuer => exact sourced_start sourced node client issuer
  | eases i client after found _ cache => exact sourced.set grows after found cache rfl rfl rfl
  | issues k issuer action found => exact sourced_issue sourced found action
  | serves i client identity token found cached =>
    refine sourced.extend grows .inl (fun here cached => .inr ⟨_, here, cached⟩) fun given => ?_
    rcases List.mem_append.mp given with old | new
    · exact .inl old
    · obtain ⟨rfl, rfl⟩ := Prod.mk.inj (List.mem_singleton.mp new)
      exact .inr ((sourced.cached found cached).grow grows)
  | registers i client identity found =>
    exact sourced.set grows (client.register identity).2 found rfl rfl rfl rfl
  | refuses number call client error made caller =>
    exact sourced.set grows (client.withdraw call.id) caller rfl rfl rfl rfl
  | delivers index packet delivery client waits read found =>
    obtain ⟨routed, payload⟩ := tracked.transit waits
    rw [payload] at read
    obtain rfl := TokenDelivery.eq_of_ofJson? read
    -- the cache takes the delivery under its own identity, whoever it resolves
    exact sourced_deliver sourced found routed.due.issued grows rfl rfl rfl
  | returns number time now call client after result _ caller resolved =>
    obtain ⟨-, -, cache, -⟩ := TokenClient.resolve_eq_some resolved
    exact sourced.set grows after caller cache rfl rfl rfl

/-! ### Requests and deliveries -/

theorem find?_handlersOf_client (site : Nat) (issuer : Option Nat) :
    (handlersOf (some site) issuer).find? consumeToken = some ⟨site, true⟩ := by
  have apart : consumeToken ≠ produceToken := by decide
  cases issuer <;> simp [handlersOf, Table.ofList, apart]

theorem find?_handlersOf_none (issuer : Option Nat) :
    (handlersOf none issuer).find? consumeToken = none := by
  have apart : consumeToken ≠ produceToken := by decide
  cases issuer <;> simp [handlersOf, Table.ofList, apart]

theorem latest_start (latest : s.hub.Latest consumeToken (s.clients.map (·.node)))
    (node : NodeId) (client : Option (TokenPolicy × Millis)) (issuer : Option TokenPolicy) :
    (s.start node client issuer).hub.Latest consumeToken
      ((s.start node client issuer).clients.map (·.node)) := by
  cases client with
  | none =>
    have gone := find?_handlersOf_none (issuer.map fun _ => s.issuers.length)
    simp only [start, Option.map_none, Option.toList_none, List.append_nil]
    exact latest.mono (Hub.bound_detach gone)
  | some opened =>
    have found := find?_handlersOf_client s.clients.length (issuer.map fun _ => s.issuers.length)
    simp only [start, Option.map_some, Option.toList_some, List.map_append, List.map_singleton]
    refine latest.attach ?_
    rw [List.length_map, found]

theorem Tracked.extend (tracked : s.Tracked) (grows : s.Grows t) (sourced : t.Sourced)
    (pleas : ∀ {plea}, plea ∈ t.pleas → plea ∈ s.pleas ∨
      ∃ request, t.Asks plea.call plea.sender request ∧ plea.payload = request.toJson)
    (errands : ∀ {errand}, errand ∈ t.errands → errand ∈ s.errands ∨
      (t.Asks errand.call errand.sender errand.request ∧
        t.Refreshes errand.issuer errand.flight errand.request.identity))
    (outbox : ∀ {dispatch}, dispatch ∈ t.outbox → dispatch ∈ s.outbox ∨ t.Due dispatch)
    (transit : ∀ {packet}, packet ∈ t.transit → packet ∈ s.transit ∨
      (t.Routed packet.dispatch packet.site ∧ packet.payload = packet.dispatch.delivery.toJson))
    (arrivals : ∀ {arrival}, arrival ∈ t.arrivals → arrival ∈ s.arrivals ∨
      (t.Routed arrival.dispatch arrival.site ∧ arrival.delivery = arrival.dispatch.delivery))
    (bound : t.hub.Latest consumeToken (t.clients.map (·.node))) : t.Tracked := by
  refine ⟨sourced, fun waits => ?_, fun waits => ?_, fun waits => ?_, fun sent => ?_,
    fun arrived => ?_, bound⟩
  · rcases pleas waits with old | new
    · obtain ⟨request, asks, payload⟩ := tracked.pleas old
      exact ⟨request, asks.grow grows, payload⟩
    · exact new
  · rcases errands waits with old | new
    · obtain ⟨asks, refreshes⟩ := tracked.errands old
      exact ⟨asks.grow grows, grows.flights refreshes⟩
    · exact new
  · rcases outbox waits with old | new
    · exact (tracked.outbox old).grow grows
    · exact new
  · rcases transit sent with old | new
    · obtain ⟨routed, payload⟩ := tracked.transit old
      exact ⟨routed.grow grows, payload⟩
    · exact new
  · rcases arrivals arrived with old | new
    · obtain ⟨routed, delivery⟩ := tracked.arrivals old
      exact ⟨routed.grow grows, delivery⟩
    · exact new

theorem Tracked.asks (tracked : s.Tracked) {plea : Plea} {request : TokenRequest}
    (waits : plea ∈ s.pleas) (read : TokenRequest.ofJson? plea.payload = some request) :
    s.Asks plea.call plea.sender request := by
  obtain ⟨sent, asks, payload⟩ := tracked.pleas waits
  rw [payload] at read
  rw [TokenRequest.eq_of_ofJson? read]
  exact asks

theorem refreshes_of_recorded (sourced : s.Sourced) {k flight : Nat} {issuer : Issuer}
    {identity : Identity} (found : s.issuers[k]? = some issuer)
    (recorded : (issuer.slot identity).flight = some flight) : s.Refreshes k flight identity := by
  obtain ⟨phase, here, -⟩ := (sourced.formed found).inFlight recorded
  exact ⟨issuer, phase, found, here⟩

/-- What a flight comes to is issued for the identity that it refreshes. -/
theorem issued_of_outcome? (sourced : s.Sourced) {k flight : Nat} {issuer : Issuer}
    {identity : Identity} {result : TokenResult} {token : AccessToken}
    (refreshes : s.Refreshes k flight identity) (found : s.issuers[k]? = some issuer)
    (outcome : issuer.outcome? flight = some result)
    (issued : TokenOutcome.ofResult result = .issued token) : s.Issued identity token := by
  cases result with
  | error => cases issued
  | ok given =>
    obtain rfl := TokenOutcome.issued.inj issued
    obtain ⟨holder, phase, here, flies⟩ := refreshes
    obtain rfl := Option.some.inj (found.symm.trans here)
    obtain ⟨owner, published⟩ := Issuer.published_of_outcome? outcome
    obtain ⟨rfl, rfl⟩ := Flight.mk.inj (Option.some.inj (flies.symm.trans published))
    exact (sourced.backed found).results published rfl

/-- A delivery that is sent goes to the last client of the node that asked. -/
theorem routed_of_bound (tracked : s.Tracked) {dispatch : Dispatch} {site : Nat}
    (due : s.Due dispatch) (bound : s.hub.bound dispatch.worker consumeToken = .ok site) :
    s.Routed dispatch site := by
  obtain ⟨own, latest⟩ := tracked.bound dispatch.worker site bound
  simp only [List.getElem?_map] at own latest
  obtain ⟨call, made, -, -, home⟩ := due.asks
  exact ⟨due, own, call, made, latest call.site home⟩

theorem tracked_step (tracked : s.Tracked) (moves : s.Moves late t) : t.Tracked := by
  have grows := grows_of_moves tracked.sourced moves
  have sourced := sourced_step tracked moves
  cases moves with
  | rests hub pleas outbox transit bound unheard unsent left =>
    exact tracked.extend grows sourced (fun waits => .inl (unheard waits)) .inl
      (fun waits => .inl (unsent waits)) (fun sent => .inl (left sent)) .inl
      (tracked.bound.mono bound)
  | starts node client issuer =>
    exact tracked.extend grows sourced .inl .inl .inl .inl .inl
      (latest_start tracked.bound node client issuer)
  | eases i client after found node =>
    exact tracked.extend grows sourced .inl .inl .inl .inl .inl
      (tracked.bound.set found node)
  | issues | serves => exact tracked.extend grows sourced .inl .inl .inl .inl .inl tracked.bound
  | registers i client identity found =>
    exact tracked.extend grows sourced .inl .inl .inl .inl .inl
      (tracked.bound.set found rfl)
  | asks number issuer call client made caller =>
    refine tracked.extend grows sourced (fun waits => ?_) .inl .inl .inl .inl tracked.bound
    rcases List.mem_append.mp waits with old | new
    · exact .inl old
    · obtain rfl := List.mem_singleton.mp new
      have home : s.nodeOf call.site = some client.node := by rw [nodeOf, caller, Option.map_some]
      exact .inr ⟨⟨call.id, call.identity⟩, ⟨call, made, rfl, rfl, home⟩, rfl⟩
  | refuses number call client error made caller =>
    exact tracked.extend grows sourced .inl .inl .inl .inl .inl
      (tracked.bound.set caller rfl)
  | answers index plea request issuer token waits read found cached =>
    refine tracked.extend grows sourced (fun waits => .inl (List.eraseIdx_subset waits)) .inl
      (fun {dispatch} waiting => ?_) .inl .inl tracked.bound
    rcases List.mem_append.mp waiting with old | new
    · exact .inl old
    · obtain rfl := List.mem_singleton.mp new
      obtain ⟨flight, issued⟩ := (tracked.sourced.backed found).cached cached
      refine .inr (Due.grow ⟨tracked.asks waits read, fun {given} same => ?_⟩ grows)
      obtain rfl := TokenOutcome.issued.inj same
      exact issued
  | parks index plea request issuer flight waits read found recorded =>
    refine tracked.extend grows sourced (fun waits => .inl (List.eraseIdx_subset waits))
      (fun {errand} waiting => ?_) .inl .inl .inl tracked.bound
    rcases List.mem_append.mp waiting with old | new
    · exact .inl old
    · obtain rfl := List.mem_singleton.mp new
      have refreshes := refreshes_of_recorded tracked.sourced found recorded
      exact .inr ⟨(tracked.asks waits read).grow grows, grows.flights refreshes⟩
  | finishes index errand issuer result waits found outcome =>
    refine tracked.extend grows sourced .inl (fun waits => .inl (List.eraseIdx_subset waits))
      (fun {dispatch} waiting => ?_) .inl .inl tracked.bound
    rcases List.mem_append.mp waiting with old | new
    · exact .inl old
    · obtain rfl := List.mem_singleton.mp new
      obtain ⟨asks, refreshes⟩ := tracked.errands waits
      exact .inr (Due.grow ⟨asks, issued_of_outcome? tracked.sourced refreshes found outcome⟩ grows)
  | sends index dispatch site waits bound =>
    refine tracked.extend grows sourced .inl .inl (fun waits => .inl (List.eraseIdx_subset waits))
      (fun {packet} sent => ?_) .inl tracked.bound
    rcases List.mem_append.mp sent with old | new
    · exact .inl old
    · obtain rfl := List.mem_singleton.mp new
      have routed := routed_of_bound tracked (tracked.outbox waits) bound
      exact .inr ⟨routed.grow grows, rfl⟩
  | delivers index packet delivery client waits read found =>
    refine tracked.extend grows sourced .inl .inl .inl
      (fun sent => .inl (List.eraseIdx_subset sent)) (fun {arrival} arrived => ?_)
      (tracked.bound.set found rfl)
    rcases List.mem_append.mp arrived with old | new
    · exact .inl old
    · obtain rfl := List.mem_singleton.mp new
      obtain ⟨routed, payload⟩ := tracked.transit waits
      rw [payload] at read
      exact .inr ⟨routed.grow grows, TokenDelivery.eq_of_ofJson? read⟩
  | returns number time now call client after result made caller resolved =>
    obtain ⟨-, node, -, -⟩ := TokenClient.resolve_eq_some resolved
    exact tracked.extend grows sourced .inl .inl .inl .inl .inl
      (tracked.bound.set caller node)

end Muster.Issuance
