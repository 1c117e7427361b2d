import Muster.Proofs.Payload
import Muster.Proofs.Record.Moves
import Muster.Proofs.Rows

/-!
Where replies come from. Every reply that is on its way or has arrived was drawn for a request that
one call submitted, carries the id and the scenario of that call, and reaches a requester of the
worker that asked: the one that made the call, or one that was started later in its place.
-/

namespace Muster.Supply

def workerOf (s : Supply) (i : Nat) : Option NodeId := (s.sites[i]?).map (·.worker)

def ask? (s : Supply) (k number : Nat) : Option Ask :=
  (s.stations[k]?).bind fun station => station.asks[number]?

def Drew (s : Supply) (k : Nat) (draw : Draw) : Prop :=
  ∃ station, s.stations[k]? = some station ∧ draw ∈ station.draws

/-- The accepted request is the one that its call registered. -/
def Asked (s : Supply) (ask : Ask) : Prop :=
  ask.call ∈ s.tried ∧ ∃ call, s.calls[ask.call]? = some call ∧ call.id = ask.request.id ∧
    call.scenario = ask.request.scenario ∧ s.workerOf call.site = some ask.request.worker

/-- The reply of the draw goes to a requester that is not older than the one that asked. -/
structure Routed (s : Supply) (k : Nat) (draw : Draw) (site : Nat) : Prop where
  drew : s.Drew k draw
  worker : s.workerOf site = some draw.worker
  since : ∃ call, s.calls[draw.call]? = some call ∧ call.site ≤ site

/-- Nothing that was recorded is lost. -/
structure Grows (s t : Supply) : Prop where
  drew : ∀ {k draw}, s.Drew k draw → t.Drew k draw
  calls : ∀ {number : Nat} {call}, s.calls[number]? = some call → t.calls[number]? = some call
  worker : ∀ {i node}, s.workerOf i = some node → t.workerOf i = some node
  tried : s.tried ⊆ t.tried
  receipts : s.receipts ⊆ t.receipts

variable {s t : Supply} {late : Prop}

theorem Asked.grow {ask : Ask} (asked : s.Asked ask) (grows : s.Grows t) : t.Asked ask := by
  obtain ⟨tried, call, made, id, scenario, worker⟩ := asked
  exact ⟨grows.tried tried, call, grows.calls made, id, scenario, grows.worker worker⟩

theorem Routed.grow {k site : Nat} {draw : Draw} (routed : s.Routed k draw site)
    (grows : s.Grows t) : t.Routed k draw site := by
  obtain ⟨drew, worker, call, made, older⟩ := routed
  exact ⟨grows.drew drew, grows.worker worker, call, grows.calls made, older⟩

/-! ### What moves keep -/

theorem workerOf_set {sites : List (Requester Nat)} {i : Nat} {site after : Requester Nat}
    (found : sites[i]? = some site) (worker : after.worker = site.worker) (j : Nat) :
    ((sites.set i after)[j]?).map (·.worker) = (sites[j]?).map (·.worker) := by
  rw [← List.getElem?_map, ← List.getElem?_map, map_set_same found worker]

theorem drew_set {k other : Nat} {station after : Station} {draw : Draw}
    (found : s.stations[k]? = some station) (kept : station.draws ⊆ after.draws)
    (drew : s.Drew other draw) :
    ∃ station, (s.stations.set k after)[other]? = some station ∧ draw ∈ station.draws := by
  obtain ⟨before, here, member⟩ := drew
  by_cases same : other = k
  · subst same
    obtain rfl := Option.some.inj (found.symm.trans here)
    exact ⟨after, getElem?_set_same found, kept member⟩
  · exact ⟨before, by rw [List.getElem?_set_ne (Ne.symm same), here], member⟩

theorem Grows.refl (s : Supply) : s.Grows s :=
  ⟨id, id, id, List.Subset.refl _, List.Subset.refl _⟩

theorem grows_set {i : Nat} {site : Requester Nat} (after : Requester Nat)
    (found : s.sites[i]? = some site) (worker : after.worker = site.worker) :
    s.Grows { s with sites := s.sites.set i after } where
  drew := id
  calls := id
  worker known := (workerOf_set found worker _).trans known
  tried := List.Subset.refl _
  receipts := List.Subset.refl _

theorem grows_of_moves (moves : s.Moves late t) : s.Grows t := by
  cases moves with
  | rests => exact { Grows.refl s with }
  | opens stock =>
    refine { Grows.refl s with drew := fun {k draw} drew => ?_ }
    obtain ⟨station, found, member⟩ := drew
    exact ⟨station, getElem?_append_old found, member⟩
  | adjusts k station after found _ _ draws =>
    exact { Grows.refl s with drew := drew_set found (fun _ => by rw [draws]; exact id) }
  | starts node link timeout =>
    refine { Grows.refl s with worker := fun {i known} here => ?_ }
    obtain ⟨site, found, same⟩ := Option.map_eq_some_iff.mp here
    simp only [workerOf, start, getElem?_append_old found, Option.map_some, same]
  | eases i site after found worker => exact grows_set after found worker
  | requests i site scenario found =>
    exact { grows_set (site.register scenario).2 found rfl with
      calls := getElem?_append_old }
  | submits number call site k station after _ _ _ _ found accepted =>
    obtain rfl := Station.submit_eq_ok accepted
    exact { Grows.refl s with
      drew := drew_set found (List.Subset.refl _)
      tried := List.subset_append_left _ _ }
  | refuses number call site error _ caller =>
    exact { grows_set (site.withdraw call.id) caller rfl with
      tried := List.subset_append_left _ _ }
  | serves k number station after draw found done =>
    refine { Grows.refl s with drew := drew_set found ?_ }
    exact Station.draws_subset done
  | sends => exact { Grows.refl s with }
  | delivers index parcel response site _ _ found =>
    exact { grows_set (site.deliver response).2.1 found rfl with
      receipts := List.subset_append_left _ _ }
  | returns number time call site after result _ caller resolved =>
    exact { grows_set after caller (Requester.resolve_eq_some resolved).2.1 with }

/-! ### Requests and draws -/

/-- Every station fits its requests, which calls registered, each at most once. -/
structure Stocked (s : Supply) : Prop where
  sound : ∀ {k : Nat} {station : Station}, s.stations[k]? = some station → station.Sound
  asked : ∀ {k number ask}, s.ask? k number = some ask → s.Asked ask
  once : ∀ {k number ask l other again}, s.ask? k number = some ask →
    s.ask? l other = some again → ask.call = again.call → k = l ∧ number = other

theorem ask?_eq_some {k number : Nat} {ask : Ask} (found : s.ask? k number = some ask) :
    ∃ station, s.stations[k]? = some station ∧ station.asks[number]? = some ask :=
  Option.bind_eq_some_iff.mp found

theorem ask?_append {stations : List Station} {stock : Stock} {k number : Nat} {ask : Ask}
    (found : ((stations ++ [{ dispenser := { stock } }])[k]?).bind
      (fun station : Station => station.asks[number]?) = some ask) :
    (stations[k]?).bind (fun station => station.asks[number]?) = some ask := by
  obtain ⟨station, here, held⟩ := Option.bind_eq_some_iff.mp found
  rcases getElem?_append_cases here with old | ⟨-, rfl⟩
  · rw [old]; exact held
  · cases held

theorem ask?_set {stations : List Station} {i k number : Nat} {station after : Station}
    (present : stations[i]? = some station) (same : after.asks = station.asks) :
    ((stations.set i after)[k]?).bind (fun station => station.asks[number]?) =
      (stations[k]?).bind fun station => station.asks[number]? := by
  by_cases own : k = i
  · subst own
    rw [getElem?_set_same present, present, Option.bind_some, Option.bind_some, same]
  · rw [List.getElem?_set_ne (Ne.symm own)]

theorem Stocked.set (stocked : s.Stocked) (grows : s.Grows t) {k : Nat} {station after : Station}
    (found : s.stations[k]? = some station) (sound : after.Sound)
    (asks : after.asks = station.asks) (stations : t.stations = s.stations.set k after) :
    t.Stocked := by
  have same : ∀ l number, t.ask? l number = s.ask? l number := by
    intro l number
    simp only [ask?, stations, ask?_set found asks]
  refine ⟨fun {l other} here => ?_, fun {l number ask} here => ?_, ?_⟩
  · rw [stations] at here
    rcases getElem?_set_cases found here with ⟨-, rfl⟩ | ⟨-, old⟩
    · exact sound
    · exact stocked.sound old
  · rw [same] at here
    exact (stocked.asked here).grow grows
  · intro l number ask m other again first second
    rw [same] at first second
    exact stocked.once first second

theorem Stocked.submit (stocked : s.Stocked) (grows : s.Grows t) {k number : Nat} {call : DataCall}
    {site : Requester Nat} {station after : Station} (untried : number ∉ s.tried)
    (made : s.calls[number]? = some call) (caller : s.sites[call.site]? = some site)
    (found : s.stations[k]? = some station)
    (accepted : station.submit number ⟨call.id, call.scenario, site.worker⟩ = .ok after)
    (stations : t.stations = s.stations.set k after) (tried : number ∈ t.tried) : t.Stocked := by
  have asks : after.asks = station.asks ++ [⟨number, ⟨call.id, call.scenario, site.worker⟩⟩] := by
    rw [Station.submit_eq_ok accepted]
  -- a request is an old one or the one that was just accepted
  have cases : ∀ {l other ask}, t.ask? l other = some ask → s.ask? l other = some ask ∨
      (l = k ∧ other = station.asks.length ∧
        ask = ⟨number, ⟨call.id, call.scenario, site.worker⟩⟩) := by
    intro l other ask here
    obtain ⟨holder, there, held⟩ := ask?_eq_some here
    rw [stations] at there
    rcases getElem?_set_cases found there with ⟨rfl, rfl⟩ | ⟨-, old⟩
    · rw [asks] at held
      rcases getElem?_append_cases held with older | ⟨last, new⟩
      · exact .inl (by simp only [ask?, found, Option.bind_some, older])
      · exact .inr ⟨rfl, last, new⟩
    · exact .inl (by simp only [ask?, old, Option.bind_some, held])
  have worker : t.workerOf call.site = some site.worker :=
    grows.worker (by simp only [workerOf, caller, Option.map_some])
  refine ⟨fun {l other} here => ?_, fun {l other ask} here => ?_, ?_⟩
  · rw [stations] at here
    rcases getElem?_set_cases found here with ⟨-, rfl⟩ | ⟨-, old⟩
    · exact Station.sound_submit (stocked.sound found) accepted
    · exact stocked.sound old
  · rcases cases here with old | ⟨-, -, rfl⟩
    · exact (stocked.asked old).grow grows
    · exact ⟨tried, call, grows.calls made, rfl, rfl, worker⟩
  · intro l other ask m another again first second same
    rcases cases first with old | ⟨rfl, rfl, rfl⟩ <;>
      rcases cases second with older | ⟨rfl, rfl, rfl⟩
    · exact stocked.once old older same
    · have tried := (stocked.asked old).1
      rw [show ask.call = number from same] at tried
      exact absurd tried untried
    · have tried := (stocked.asked older).1
      rw [show again.call = number from same.symm] at tried
      exact absurd tried untried
    · exact ⟨rfl, rfl⟩

theorem Stocked.keep (stocked : s.Stocked) (grows : s.Grows t)
    (stations : t.stations = s.stations) : t.Stocked := by
  have same : ∀ k number, t.ask? k number = s.ask? k number := by
    intro k number
    simp only [ask?, stations]
  refine ⟨fun {k station} here => ?_, fun {k number ask} here => ?_, ?_⟩
  · rw [stations] at here
    exact stocked.sound here
  · rw [same] at here
    exact (stocked.asked here).grow grows
  · intro k number ask l other again first second
    rw [same] at first second
    exact stocked.once first second

theorem stocked_step (stocked : s.Stocked) (moves : s.Moves late t) : t.Stocked := by
  have grows := grows_of_moves moves
  cases moves with
  | rests => exact stocked.keep grows rfl
  | opens stock fresh =>
    refine ⟨fun {k station} here => ?_, fun {k number ask} here => ?_, ?_⟩
    · rcases getElem?_append_cases here with old | ⟨-, rfl⟩
      · exact stocked.sound old
      · exact Station.sound_opened fresh
    · exact (stocked.asked (ask?_append here)).grow grows
    · intro k number ask l other again first second
      exact stocked.once (ask?_append first) (ask?_append second)
  | adjusts k station after found sound asks =>
    exact stocked.set grows found (sound (stocked.sound found)) asks rfl
  | starts => exact stocked.keep grows rfl
  | eases => exact stocked.keep grows rfl
  | requests => exact stocked.keep grows rfl
  | submits number call site k station after untried made caller _ found accepted =>
    exact stocked.submit grows untried made caller found accepted rfl (by simp)
  | refuses => exact stocked.keep grows rfl
  | serves k number station after draw found done =>
    have sound := stocked.sound found
    exact stocked.set grows found (Station.sound_serve sound done)
      (Station.serves_of_serve sound done).asks rfl
  | sends => exact stocked.keep grows rfl
  | delivers => exact stocked.keep grows rfl
  | returns => exact stocked.keep grows rfl

/-- A draw answers the call that it was made for. -/
theorem Stocked.call_of_drew (stocked : s.Stocked) {k : Nat} {draw : Draw} (drew : s.Drew k draw) :
    ∃ call, s.calls[draw.call]? = some call ∧ call.id = draw.response.id ∧
      call.scenario = draw.scenario ∧ s.workerOf call.site = some draw.worker := by
  obtain ⟨station, found, member⟩ := drew
  obtain ⟨ask, here, same, answers⟩ := (stocked.sound found).asked draw member
  have present : s.ask? k draw.number = some ask := by
    simp only [ask?, found, Option.bind_some, here]
  obtain ⟨-, call, made, id, scenario, worker⟩ := stocked.asked present
  rw [same] at made
  exact ⟨call, made, id.trans answers.id.symm, scenario.trans answers.scenario.symm,
    by rw [worker, answers.worker]⟩

theorem Stocked.drew_once (stocked : s.Stocked) {k l : Nat} {draw other : Draw}
    (first : s.Drew k draw) (second : s.Drew l other) (same : draw.call = other.call) :
    k = l ∧ draw = other := by
  obtain ⟨station, found, member⟩ := first
  obtain ⟨rival, there, present⟩ := second
  obtain ⟨ask, here, made, -⟩ := (stocked.sound found).asked draw member
  obtain ⟨again, held, remade, -⟩ := (stocked.sound there).asked other present
  have one : s.ask? k draw.number = some ask := by simp only [ask?, found, Option.bind_some, here]
  have two : s.ask? l other.number = some again := by
    simp only [ask?, there, Option.bind_some, held]
  obtain ⟨rfl, number⟩ := stocked.once one two (made.trans (same.trans remade.symm))
  obtain rfl := Option.some.inj (found.symm.trans there)
  exact ⟨rfl, (stocked.sound found).once draw member other present number⟩

/-! ### Replies on their way -/

def Carried (s : Supply) (parcel : Parcel) : Prop :=
  s.Routed parcel.station parcel.draw parcel.site ∧ parcel.payload = parcel.draw.response.toJson

def Arrived (s : Supply) (receipt : Receipt) : Prop :=
  s.Routed receipt.station receipt.draw receipt.site ∧ receipt.response = receipt.draw.response

structure Tracked (s : Supply) : Prop where
  stocked : s.Stocked
  outbox : ∀ {k draw}, (k, draw) ∈ s.outbox → s.Drew k draw
  transit : ∀ {parcel}, parcel ∈ s.transit → s.Carried parcel
  receipts : ∀ {receipt}, receipt ∈ s.receipts → s.Arrived receipt
  bound : s.hub.Latest consumeTestdata (s.sites.map (·.worker))

theorem tracked_empty : Tracked {} where
  stocked := ⟨nofun, nofun, nofun⟩
  outbox := nofun
  transit := nofun
  receipts := nofun
  bound := nofun

theorem find?_handlersOf (site : Nat) :
    (handlersOf site).find? consumeTestdata = some ⟨site, true⟩ := by
  simp [handlersOf, Table.ofList]

theorem workers_start (s : Supply) (node : NodeId) (link : Option Nat) (timeout : Millis) :
    (s.start node link timeout).sites.map (·.worker) = s.sites.map (·.worker) ++ [node] := by
  rw [start, List.map_append, List.map_singleton]

theorem Tracked.extend (tracked : s.Tracked) (grows : s.Grows t) (stocked : t.Stocked)
    (outbox : ∀ {k draw}, (k, draw) ∈ t.outbox → (k, draw) ∈ s.outbox ∨ t.Drew k draw)
    (transit : ∀ {parcel}, parcel ∈ t.transit → parcel ∈ s.transit ∨ t.Carried parcel)
    (receipts : ∀ {receipt}, receipt ∈ t.receipts → receipt ∈ s.receipts ∨ t.Arrived receipt)
    (bound : t.hub.Latest consumeTestdata (t.sites.map (·.worker))) : t.Tracked := by
  refine ⟨stocked, fun waits => ?_, fun sent => ?_, fun arrived => ?_, bound⟩
  · rcases outbox waits with old | new
    · exact grows.drew (tracked.outbox old)
    · exact new
  · rcases transit sent with old | new
    · obtain ⟨routed, payload⟩ := tracked.transit old
      exact ⟨routed.grow grows, payload⟩
    · exact new
  · rcases receipts arrived with old | new
    · obtain ⟨routed, response⟩ := tracked.receipts old
      exact ⟨routed.grow grows, response⟩
    · exact new

theorem tracked_step (tracked : s.Tracked) (moves : s.Moves late t) : t.Tracked := by
  have grows := grows_of_moves moves
  have stocked := stocked_step tracked.stocked moves
  cases moves with
  | rests hub outbox transit bound unsent left =>
    exact tracked.extend grows stocked (fun waits => .inl (unsent waits))
      (fun sent => .inl (left sent)) .inl (tracked.bound.mono bound)
  | opens | adjusts | submits =>
    exact tracked.extend grows stocked .inl .inl .inl tracked.bound
  | starts node link timeout =>
    refine tracked.extend grows stocked .inl .inl .inl ?_
    rw [workers_start]
    refine tracked.bound.attach ?_
    rw [List.length_map, find?_handlersOf]
  | eases i site after found worker =>
    exact tracked.extend grows stocked .inl .inl .inl (tracked.bound.set found worker)
  | requests i site scenario found =>
    exact tracked.extend grows stocked .inl .inl .inl (tracked.bound.set found rfl)
  | refuses number call site error made caller =>
    exact tracked.extend grows stocked .inl .inl .inl (tracked.bound.set caller rfl)
  | serves k number station after draw found done =>
    refine tracked.extend grows stocked (fun {l other} waits => ?_) .inl .inl
      tracked.bound
    rcases List.mem_append.mp waits with old | new
    · exact .inl old
    · obtain ⟨rfl, rfl⟩ := Prod.mk.inj (List.mem_singleton.mp new)
      have serves := Station.serves_of_serve (tracked.stocked.sound found) done
      exact .inr ⟨after, getElem?_set_same found, by simp [serves.draws]⟩
  | sends index k draw site waits bound =>
    refine tracked.extend grows stocked (fun waits => .inl (List.eraseIdx_subset waits))
      (fun {parcel} sent => ?_) .inl tracked.bound
    rcases List.mem_append.mp sent with old | new
    · exact .inl old
    · obtain rfl := List.mem_singleton.mp new
      -- the node is bound to its last requester, and the one that asked is not younger
      have drew := tracked.outbox waits
      obtain ⟨own, latest⟩ := tracked.bound draw.worker site bound
      simp only [List.getElem?_map] at own latest
      obtain ⟨call, made, -, -, worker⟩ := tracked.stocked.call_of_drew drew
      exact .inr ⟨⟨drew, own, call, made, latest call.site worker⟩, rfl⟩
  | delivers index parcel response site waits read found =>
    refine tracked.extend grows stocked .inl (fun sent => .inl (List.eraseIdx_subset sent))
      (fun {receipt} arrived => ?_) (tracked.bound.set found rfl)
    rcases List.mem_append.mp arrived with old | new
    · exact .inl old
    · obtain rfl := List.mem_singleton.mp new
      obtain ⟨routed, payload⟩ := tracked.transit waits
      rw [payload] at read
      exact .inr ⟨routed.grow grows, DataResponse.eq_of_ofJson? read⟩
  | returns number time call site after result made caller resolved =>
    obtain ⟨-, worker, -, -⟩ := Requester.resolve_eq_some resolved
    exact tracked.extend grows stocked .inl .inl .inl (tracked.bound.set caller worker)

end Muster.Supply
