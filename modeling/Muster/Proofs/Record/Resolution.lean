import Muster.Proofs.Correspondence
import Muster.Proofs.Record.Provenance
import Muster.Proofs.Runs

/-!
A supply as a correspondence: its requesters are seats, its calls leave slips, and the replies that
arrive are made for the calls that the draws were made for. A call returns with a record, or with
the news that there is none, only if such a reply came through to it.
-/

namespace Muster

def Receipt.stamp (r : Receipt) : Stamp DataReply :=
  ⟨r.draw.call, r.site, r.response.id, r.response.reply, r.accepted⟩

namespace Supply

variable {s t : Supply} {late : Prop}

def view (s : Supply) : Correspondence DataReply where
  seats := s.sites.map fun site => ⟨site.worker, site.pending⟩
  slips := s.calls.map fun call => ⟨call.site, call.id⟩
  stamps := s.receipts.map Receipt.stamp

theorem seat_of_site {i : Nat} {site : Requester Nat} (found : s.sites[i]? = some site) :
    s.view.seats[i]? = some ⟨site.worker, site.pending⟩ := by
  simp only [view, List.getElem?_map, found, Option.map_some]

theorem slip_of_call {number : Nat} {call : DataCall} (made : s.calls[number]? = some call) :
    s.view.slips[number]? = some ⟨call.site, call.id⟩ := by
  simp only [view, List.getElem?_map, made, Option.map_some]

theorem nodeOf_view (s : Supply) (i : Nat) : s.view.nodeOf i = s.workerOf i := by
  simp only [Correspondence.nodeOf, workerOf, view, List.getElem?_map, Option.map_map]
  rfl

theorem nodes_view (s : Supply) : s.view.seats.map (·.node) = s.sites.map (·.worker) := by
  rw [view, List.map_map]
  rfl

theorem moves_set {i : Nat} {site : Requester Nat} (after : Requester Nat)
    (found : s.sites[i]? = some site)
    (worker : after.worker = site.worker) (fades : site.pending.Fades after.pending)
    (sites : t.sites = s.sites.set i after) (calls : t.calls = s.calls)
    (receipts : t.receipts = s.receipts) : s.view.Moves False t.view := by
  have same : t.view = { s.view with
      seats := s.view.seats.set i ⟨site.worker, after.pending⟩ } := by
    simp only [view, sites, calls, receipts, List.map_set, worker]
  rw [same]
  exact .fades i _ after.pending (seat_of_site found) fades

/-- Every move of a supply is a move of the correspondence, with the same replies late. -/
theorem view_moves (tracked : s.Tracked) (moves : s.Moves late t) :
    ∃ tardy, (tardy ↔ late) ∧ s.view.Moves tardy t.view := by
  cases moves with
  | rests | opens | adjusts | submits | serves | sends => exact ⟨False, Iff.rfl, .rests⟩
  | starts node link timeout =>
    refine ⟨False, Iff.rfl, ?_⟩
    have same : (s.start node link timeout).view =
        { s.view with seats := s.view.seats ++ [{ node }] } := by
      simp only [view, start, List.map_append, List.map_cons, List.map_nil]
    rw [same]
    exact .starts node
  | eases i site after found worker _ fades =>
    exact ⟨False, Iff.rfl, moves_set after found worker fades rfl rfl rfl⟩
  | requests i site scenario found =>
    refine ⟨False, Iff.rfl, ?_⟩
    have opens := Correspondence.Moves.opens i _ (seat_of_site found)
    simp only [view, List.map_set, List.map_append, List.map_cons, List.map_nil]
    exact opens
  | refuses number call site error _ caller =>
    exact ⟨False, Iff.rfl,
      moves_set (site.withdraw call.id) caller rfl (site.fades_withdraw call.id) rfl rfl
        rfl⟩
  | delivers index parcel response site waits read found =>
    obtain ⟨⟨drew, worker, call, made, older⟩, payload⟩ := tracked.transit waits
    rw [payload] at read
    obtain rfl := DataResponse.eq_of_ofJson? read
    obtain ⟨asked, same, id, -, home⟩ := tracked.stocked.call_of_drew drew
    obtain rfl := Option.some.inj (made.symm.trans same)
    have owner : some site.worker = some parcel.draw.worker := by
      rw [← worker, workerOf, found, Option.map_some]
    have slip : s.view.slips[parcel.draw.call]? = some ⟨call.site, parcel.draw.response.id⟩ := by
      rw [slip_of_call made, id]
    have comes := Correspondence.Moves.comes parcel.site parcel.draw.call _ _
      parcel.draw.response.reply (seat_of_site found) slip older (by rw [nodeOf_view, home, owner])
    refine ⟨site.pending.Outstanding parcel.draw.response.id ∧ call.site < parcel.site, ?_, ?_⟩
    · simp only [made, Option.some.injEq, exists_eq_left']
    · simp only [view, List.map_set, List.map_append, List.map_cons, List.map_nil]
      exact comes
  | returns number time call site after result _ caller resolved =>
    obtain ⟨fades, worker, -, -⟩ := Requester.resolve_eq_some resolved
    exact ⟨False, Iff.rfl, moves_set after caller worker fades rfl rfl rfl⟩

/-! ### Results -/

def Told (s : Supply) (number : Nat) (outcome : DataOutcome) : Prop :=
  ∃ receipt ∈ s.receipts, s.view.Reaches receipt.stamp number ∧
    Requester.accept receipt.response.reply = .ok outcome

/-- Replies find callers by their ids, and what a call returns with came through to it. -/
structure Answered (s : Supply) : Prop where
  tracked : s.Tracked
  sound : s.view.Sound
  returned : ∀ {number outcome}, (number, .ok outcome) ∈ s.returned → s.Told number outcome

theorem answered_empty : Answered {} :=
  ⟨tracked_empty, Correspondence.sound_empty, nofun⟩

theorem Told.grow {number : Nat} {outcome : DataOutcome} (told : s.Told number outcome)
    (receipts : s.receipts ⊆ t.receipts) (grows : s.view.Grows t.view) :
    t.Told number outcome := by
  obtain ⟨receipt, arrived, reaches, same⟩ := told
  exact ⟨receipt, receipts arrived, reaches.grow grows, same⟩

theorem told_of_resolve (answered : s.Answered) {number time : Nat} {call : DataCall}
    {site after : Requester Nat} {outcome : DataOutcome} (made : s.calls[number]? = some call)
    (caller : s.sites[call.site]? = some site)
    (resolved : site.resolve call.id time = some (.ok outcome, after)) :
    s.Told number outcome := by
  obtain ⟨-, -, -, reply⟩ := Requester.resolve_eq_some resolved
  obtain ⟨held, waits, same⟩ := reply outcome rfl
  obtain ⟨stamp, came, reaches, taken⟩ :=
    answered.sound.reaches_of_received (seat_of_site caller) (slip_of_call made) waits
  obtain ⟨receipt, arrived, rfl⟩ := List.mem_map.mp came
  refine ⟨receipt, arrived, reaches, ?_⟩
  rw [show receipt.response.reply = held from taken, same]

theorem answered_step (answered : s.Answered) (moves : s.Moves late t) : t.Answered := by
  obtain ⟨tardy, -, view⟩ := view_moves answered.tracked moves
  have tracked := tracked_step answered.tracked moves
  have sound := Correspondence.sound_step answered.sound view
  have told : ∀ {number outcome}, s.Told number outcome → t.Told number outcome := fun told =>
    told.grow (grows_of_moves moves).receipts (Correspondence.grows_of_moves view)
  refine ⟨tracked, sound, fun {number outcome} ended => ?_⟩
  cases moves with
  | refuses =>
    rcases List.mem_append.mp ended with old | new
    · exact told (answered.returned old)
    · cases List.mem_singleton.mp new
  | returns other time call site after result made caller resolved =>
    rcases List.mem_append.mp ended with old | new
    · exact told (answered.returned old)
    · obtain ⟨rfl, rfl⟩ := Prod.mk.inj (List.mem_singleton.mp new)
      exact told (told_of_resolve answered made caller resolved)
  | _ => exact told (answered.returned ended)

theorem answered_action (answered : s.Answered) (action : Action) : (s.step action).Answered := by
  obtain ⟨late, -, moves⟩ := s.step_moves action
  exact answered_step answered moves

theorem answered_run (answered : s.Answered) (actions : List Action) :
    (s.run actions).Answered := by
  induction actions generalizing s with
  | nil => exact answered
  | cons action rest ih => exact ih (answered_action answered action)

/-! ### Late replies -/

/-- No action of the run brings a late reply to a caller that waits. -/
def Quiet (s : Supply) (actions : List Action) : Prop := Avoids step Intrudes s actions

theorem ownReplies_step (answered : s.Answered) (action : Action) :
    (s.step action).view.OwnReplies ↔ s.view.OwnReplies ∧ ¬s.Intrudes action := by
  obtain ⟨late, same, moves⟩ := s.step_moves action
  obtain ⟨tardy, again, view⟩ := view_moves answered.tracked moves
  rw [Correspondence.ownReplies_step answered.sound view, again, same]

/-- Every call of a run gets its own replies exactly if the run is quiet. -/
theorem ownReplies_run_iff (actions : List Action) :
    (run {} actions).view.OwnReplies ↔ Quiet {} actions := by
  have own : (view {}).OwnReplies := fun stamp number reaches => by cases reaches.came
  rw [run, holds_foldl_iff (P := fun s => s.view.OwnReplies) answered_empty actions
    (fun action answered => answered_action answered action)
    fun action answered => ownReplies_step answered action]
  exact and_iff_right own

end Supply

end Muster
