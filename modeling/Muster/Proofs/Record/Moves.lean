import Muster.Proofs.Hub
import Muster.Proofs.Pending
import Muster.Proofs.Record.Supply

/-!
What an action does to a supply. Every action is one of a few moves, and each move says what it
found and what it put there.
-/

namespace Muster

namespace Requester

variable {ℓ : Type}

theorem fades_wait (r : Requester ℓ) (id time : Nat) :
    r.pending.Fades (r.wait id time).pending :=
  r.pending.fades_wait id r.timeout time

theorem fades_cancelAll (r : Requester ℓ) : r.pending.Fades r.cancelAll.2.pending :=
  r.pending.fades_cancelAll

theorem fades_withdraw (r : Requester ℓ) (id : Nat) : r.pending.Fades (r.withdraw id).pending :=
  (r.pending.fades_forget id).trans ((r.pending.forget id).fades_abandon id)

theorem resolve_eq_some {r t : Requester ℓ} {id time : Nat} {result : DataResult}
    (resolved : r.resolve id time = some (result, t)) :
    r.pending.Fades t.pending ∧ t.worker = r.worker ∧ t.link = r.link ∧
      ∀ outcome, result = .ok outcome →
        ∃ reply, r.pending.received? id = some reply ∧ accept reply = .ok outcome := by
  unfold resolve at resolved
  obtain ⟨⟨ended, pending⟩, settled, same⟩ := Option.map_eq_some_iff.mp resolved
  obtain ⟨rfl, rfl⟩ := Prod.mk.inj same
  obtain ⟨came, -⟩ := Pending.resolve_eq_some settled
  refine ⟨Pending.fades_resolve settled, rfl, rfl, fun outcome good => ?_⟩
  cases ended with
  | ok reply => exact ⟨reply, Pending.received?_of_outcome? came, good⟩
  | error error => cases error <;> cases good

end Requester

namespace Supply

/-- The action brings a reply that was drawn for an earlier requester, while a caller of the present
one waits under its id. -/
def Intrudes (s : Supply) : Action → Prop
  | .deliver index => ∃ parcel response site asked, s.transit[index]? = some parcel ∧
      DataResponse.ofJson? parcel.payload = some response ∧
      s.sites[parcel.site]? = some site ∧ s.calls[parcel.draw.call]? = some asked ∧
      site.pending.Outstanding response.id ∧ asked.site < parcel.site
  | _ => False

/-- What may happen; the proposition says that a reply intrudes. -/
inductive Moves (s : Supply) : Prop → Supply → Prop
  | rests (hub : Hub Nat Nat) (outbox : List (Nat × Draw)) (transit : List Parcel)
      (bound : ∀ {node site}, hub.bound node consumeTestdata = .ok site →
        s.hub.bound node consumeTestdata = .ok site)
      (unsent : outbox ⊆ s.outbox) (left : transit ⊆ s.transit) :
      Moves s False { s with hub, outbox, transit }
  | opens (stock : Stock) (fresh : stock.Untouched) :
      Moves s False { s with stations := s.stations ++ [{ dispenser := { stock } }] }
  | adjusts (k : Nat) (station after : Station) (found : s.stations[k]? = some station)
      (sound : station.Sound → after.Sound) (asks : after.asks = station.asks)
      (draws : after.draws = station.draws) :
      Moves s False { s with stations := s.stations.set k after }
  | starts (node : NodeId) (link : Option Nat) (timeout : Millis) :
      Moves s False (s.start node link timeout)
  | eases (i : Nat) (site after : Requester Nat) (found : s.sites[i]? = some site)
      (worker : after.worker = site.worker) (link : after.link = site.link)
      (fades : site.pending.Fades after.pending) :
      Moves s False { s with sites := s.sites.set i after }
  | requests (i : Nat) (site : Requester Nat) (scenario : ScenarioId)
      (found : s.sites[i]? = some site) :
      Moves s False { s with
        sites := s.sites.set i (site.register scenario).2
        calls := s.calls ++ [⟨i, (site.register scenario).1.id, scenario⟩] }
  | submits (number : Nat) (call : DataCall) (site : Requester Nat) (k : Nat)
      (station after : Station) (untried : number ∉ s.tried) (made : s.calls[number]? = some call)
      (caller : s.sites[call.site]? = some site) (linked : site.link = some k)
      (found : s.stations[k]? = some station)
      (accepted : station.submit number ⟨call.id, call.scenario, site.worker⟩ = .ok after) :
      Moves s False { s with stations := s.stations.set k after, tried := s.tried ++ [number] }
  | refuses (number : Nat) (call : DataCall) (site : Requester Nat) (error : TransportError)
      (made : s.calls[number]? = some call) (caller : s.sites[call.site]? = some site) :
      Moves s False (s.refuse number call site error)
  | serves (k number : Nat) (station after : Station) (draw : Draw)
      (found : s.stations[k]? = some station) (done : station.serve number = some (draw, after)) :
      Moves s False { s with stations := s.stations.set k after, outbox := s.outbox ++ [(k, draw)] }
  | sends (index k : Nat) (draw : Draw) (site : Nat) (waits : (k, draw) ∈ s.outbox)
      (bound : s.hub.bound draw.worker consumeTestdata = .ok site) :
      Moves s False { s with
        outbox := s.outbox.eraseIdx index
        transit := s.transit ++ [⟨k, draw, site, draw.response.toJson⟩] }
  | delivers (index : Nat) (parcel : Parcel) (response : DataResponse) (site : Requester Nat)
      (waits : parcel ∈ s.transit) (read : DataResponse.ofJson? parcel.payload = some response)
      (found : s.sites[parcel.site]? = some site) :
      Moves s (∃ asked, s.calls[parcel.draw.call]? = some asked ∧
        site.pending.Outstanding response.id ∧ asked.site < parcel.site) { s with
        sites := s.sites.set parcel.site (site.deliver response).2.1
        transit := s.transit.eraseIdx index
        receipts := s.receipts ++
          [⟨parcel.station, parcel.draw, parcel.site, response, (site.deliver response).1⟩] }
  | returns (number time : Nat) (call : DataCall) (site after : Requester Nat)
      (result : DataResult) (made : s.calls[number]? = some call)
      (caller : s.sites[call.site]? = some site)
      (resolved : site.resolve call.id time = some (result, after)) :
      Moves s False { s with
        sites := s.sites.set call.site after
        returned := s.returned ++ [(number, result)] }

variable (s : Supply)

theorem moves_self : s.Moves False s :=
  .rests s.hub s.outbox s.transit id (List.Subset.refl _) (List.Subset.refl _)

theorem moves_withStation (k : Nat) (f : Station → Station)
    (sound : ∀ station : Station, station.Sound → (f station).Sound)
    (asks : ∀ station, (f station).asks = station.asks)
    (draws : ∀ station, (f station).draws = station.draws) : s.Moves False (s.withStation k f) := by
  unfold withStation
  split
  · rename_i station found
    exact .adjusts k station (f station) found (sound station) (asks station) (draws station)
  · exact s.moves_self

theorem moves_withSite (i : Nat) (f : Requester Nat → Requester Nat)
    (worker : ∀ site, (f site).worker = site.worker) (link : ∀ site, (f site).link = site.link)
    (fades : ∀ site : Requester Nat, site.pending.Fades (f site).pending) :
    s.Moves False (s.withSite i f) := by
  unfold withSite
  split
  · rename_i site found
    exact .eases i site (f site) found (worker site) (link site) (fades site)
  · exact s.moves_self

theorem moves_submit (number : Nat) (refusal : Option TransportError) :
    s.Moves False (s.submit number refusal) := by
  unfold submit
  split
  · exact s.moves_self
  · rename_i untried
    split
    · rename_i call made
      split
      · rename_i site caller
        split
        · rename_i k station reached
          obtain ⟨_, linked, there⟩ := Option.bind_eq_some_iff.mp reached
          obtain ⟨_, found, same⟩ := Option.map_eq_some_iff.mp there
          obtain ⟨rfl, rfl⟩ := Prod.mk.inj same
          split
          · rename_i after accepted
            exact .submits number call site _ _ after untried made caller linked found accepted
          · exact .refuses number call site _ made caller
          · exact .refuses number call site _ made caller
        · exact s.moves_self
      · exact s.moves_self
    · exact s.moves_self

theorem moves_serve (k number : Nat) : s.Moves False (s.serve k number) := by
  unfold serve
  split
  · rename_i station found
    split
    · rename_i draw after done
      exact .serves k number station after draw found done
    · exact s.moves_self
  · exact s.moves_self

theorem moves_send (index : Nat) (refused : Bool) : s.Moves False (s.send index refused) := by
  unfold send
  split
  · rename_i k draw waits
    split
    · rename_i site bound
      exact .sends index k draw site (List.mem_of_getElem? waits) bound
    · exact .rests s.hub _ s.transit id List.eraseIdx_subset (List.Subset.refl _)
  · exact s.moves_self

theorem moves_deliver (index : Nat) :
    ∃ late, (late ↔ s.Intrudes (.deliver index)) ∧ s.Moves late (s.deliver index) := by
  unfold deliver
  cases waits : s.transit[index]? with
  | none =>
    refine ⟨False, ⟨False.elim, ?_⟩, s.moves_self⟩
    rintro ⟨parcel, -, -, -, here, -⟩
    cases waits.symm.trans here
  | some parcel =>
    dsimp only
    split
    · rename_i response site read found
      refine ⟨_, ⟨?_, ?_⟩,
        .delivers index parcel response site (List.mem_of_getElem? waits) read found⟩
      · rintro ⟨asked, made, outstanding, earlier⟩
        exact ⟨parcel, response, site, asked, waits, read, found, made, outstanding, earlier⟩
      · rintro ⟨other, again, rival, asked, here, reread, refound, made, outstanding, earlier⟩
        obtain rfl := Option.some.inj (waits.symm.trans here)
        obtain rfl := Option.some.inj (read.symm.trans reread)
        obtain rfl := Option.some.inj (found.symm.trans refound)
        exact ⟨asked, made, outstanding, earlier⟩
    · rename_i unread
      refine ⟨False, ⟨False.elim, ?_⟩,
        .rests s.hub s.outbox _ id (List.Subset.refl _) List.eraseIdx_subset⟩
      rintro ⟨other, response, site, -, here, read, found, -⟩
      obtain rfl := Option.some.inj (waits.symm.trans here)
      exact unread response site read found

theorem moves_returns (number time : Nat) : s.Moves False (s.returns number time) := by
  unfold returns
  split
  · rename_i call made
    split
    · rename_i result after reached
      obtain ⟨site, caller, resolved⟩ := Option.bind_eq_some_iff.mp reached
      exact .returns number time call site after result made caller resolved
    · exact s.moves_self
  · exact s.moves_self

theorem step_moves (action : Action) :
    ∃ late, (late ↔ s.Intrudes action) ∧ s.Moves late (s.step action) := by
  cases action with
  | openStation files shuffles plans =>
    refine ⟨False, Iff.rfl, ?_⟩
    unfold step openStation
    dsimp only
    split
    · rename_i stock loaded
      exact .opens stock (Stock.load_untouched loaded)
    · exact s.moves_self
  | work k action =>
    exact ⟨False, Iff.rfl, s.moves_withStation k _
      (fun _ sound => Station.sound_work sound action) (fun _ => rfl) (fun _ => rfl)⟩
  | shutdown k =>
    exact ⟨False, Iff.rfl, s.moves_withStation k _
      (fun _ sound => Station.sound_shutdown sound) (fun _ => rfl) (fun _ => rfl)⟩
  | start node link timeout => exact ⟨False, Iff.rfl, .starts node link timeout⟩
  | close node =>
    exact ⟨False, Iff.rfl, .rests _ s.outbox s.transit (Hub.bound_detach rfl)
      (List.Subset.refl _) (List.Subset.refl _)⟩
  | cancelAll i =>
    exact ⟨False, Iff.rfl, s.moves_withSite i _ (fun _ => rfl) (fun _ => rfl)
      Requester.fades_cancelAll⟩
  | request i scenario =>
    refine ⟨False, Iff.rfl, ?_⟩
    unfold step request
    dsimp only
    split
    · rename_i site found
      split
      · exact .requests i site scenario found
      · exact s.moves_self
    · exact s.moves_self
  | submit number refusal => exact ⟨False, Iff.rfl, s.moves_submit number refusal⟩
  | wait number time =>
    refine ⟨False, Iff.rfl, ?_⟩
    unfold step wait
    dsimp only
    split
    · rename_i call made
      split
      · exact s.moves_withSite call.site _ (fun _ => rfl) (fun _ => rfl)
          fun site => site.fades_wait call.id time
      · exact s.moves_self
    · exact s.moves_self
  | look k number =>
    refine ⟨False, Iff.rfl, s.moves_withStation k _
      (fun _ sound => Station.sound_look sound number) ?_ ?_⟩
    all_goals
      intro station
      unfold Station.look
      split <;> rfl
  | serve k number => exact ⟨False, Iff.rfl, s.moves_serve k number⟩
  | send index refused => exact ⟨False, Iff.rfl, s.moves_send index refused⟩
  | deliver index => exact s.moves_deliver index
  | lose index =>
    exact ⟨False, Iff.rfl, .rests s.hub s.outbox _ id (List.Subset.refl _) List.eraseIdx_subset⟩
  | returns number time => exact ⟨False, Iff.rfl, s.moves_returns number time⟩

end Supply

end Muster
