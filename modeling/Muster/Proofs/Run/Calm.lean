import Muster.Proofs.Catalog
import Muster.Proofs.Run.Ending

/-!
What leaves the barriers alone: every process keeps its barrier, and none is reported to have
opened.
-/

namespace Muster

def Event.isRelease (event : Event) : Bool := event.name = "barrier_released"

/-- Events that report anything but the opening of a barrier. -/
def Apart (events : List Event) : Prop := ∀ event ∈ events, event.isRelease = false

theorem apart_nil : Apart [] := nofun

theorem apart_singleton {event : Event} (apart : event.isRelease = false) : Apart [event] :=
  fun _ member => List.mem_singleton.mp member ▸ apart

theorem Apart.append {events more : List Event} (first : Apart events) (second : Apart more) :
    Apart (events ++ more) :=
  fun event member => (List.mem_append.mp member).elim (first event) (second event)

theorem Apart.countP {events : List Event} (apart : Apart events) :
    events.countP Event.isRelease = 0 :=
  List.countP_eq_zero.mpr fun event member => Bool.eq_false_iff.mp (apart event member)

theorem apart_of_name {events : List Event} {name : String}
    (named : ∀ event ∈ events, event.name = name) (other : name ≠ "barrier_released") :
    Apart events :=
  fun event member => decide_eq_false fun same => other ((named event member).symm.trans same)

/-! ### Other events -/

/-- A consumer reports nothing but a delivery that nobody waits for. -/
theorem Requester.name_of_deliver (r : Requester Link) (response : DataResponse) :
    ∀ event ∈ (r.deliver response).2.2, event.name = "testdata_orphan_response" := by
  intro event member
  unfold deliver at member
  dsimp only at member
  split at member
  · cases member
  · rw [List.mem_singleton.mp member]
    rfl

theorem TokenClient.name_of_deliver (c : TokenClient) (delivery : TokenDelivery) :
    ∀ event ∈ (c.deliver delivery).2.2, event.name = "token_orphan_delivery" := by
  intro event member
  unfold deliver at member
  dsimp only at member
  split at member
  · cases member
  · rw [List.mem_singleton.mp member]
    rfl

theorem Requester.apart_deliver (r : Requester Link) (response : DataResponse) :
    Apart (r.deliver response).2.2 :=
  apart_of_name (r.name_of_deliver response) (by decide)

theorem TokenClient.apart_deliver (c : TokenClient) (delivery : TokenDelivery) :
    Apart (c.deliver delivery).2.2 :=
  apart_of_name (c.name_of_deliver delivery) (by decide)

theorem Stock.apart_reportExhausted (s : Stock) (scenario : ScenarioId) (worker : NodeId) :
    Apart (s.reportExhausted scenario worker).1 := by
  unfold reportExhausted
  split
  · exact apart_nil
  · dsimp only
    split
    · exact apart_singleton (by rfl)
    · exact apart_nil

theorem Stock.apart_request (s : Stock) (scenario : ScenarioId) (worker : NodeId) :
    Apart (s.request scenario worker).events := by
  unfold request
  split
  · exact apart_reportExhausted _ scenario worker
  · exact apart_nil

theorem Dispenser.apart_serve {d e : Dispenser} {barrier : Barrier} {number : Nat}
    {served : Served} (done : d.serve barrier number = some (served, e)) :
    Apart served.events := by
  unfold serve at done
  split at done
  · obtain ⟨request, -, same⟩ := Option.map_eq_some_iff.mp done
    obtain ⟨rfl, -⟩ := Prod.mk.inj same
    exact d.stock.apart_request request.scenario request.worker
  · cases done

theorem Issuer.apart_report (d : Issuer) (flight : Nat) : Apart (d.report flight).1 := by
  unfold report
  repeat' split
  all_goals first | exact apart_nil | exact apart_singleton (by rfl)

theorem Catalog.apart_validate (c : Catalog) (book : StatsBook) (exitCode : ExitCode) :
    Apart (c.validate book exitCode).events := by
  refine Apart.append (fun event member => ?_) fun event member => ?_
  · obtain ⟨name, -, rfl⟩ := List.mem_map.mp member
    rfl
  · obtain ⟨s, -, member⟩ := List.mem_flatMap.mp member
    obtain ⟨reason, -, rfl⟩ := List.mem_map.mp member
    unfold Verdict.reasonEvent
    split <;> rfl

theorem Setup.apart_link (s : Setup) (connect : Connector) (id : SiteId) (hasDispenser : Bool) :
    Apart (s.link connect id hasDispenser).2 := by
  unfold link
  split
  · exact apart_nil
  · split
    · exact apart_nil
    · split
      · dsimp only
        split
        · exact apart_nil
        · exact (apart_singleton (by rfl)).append (apart_singleton (by rfl))
      · exact apart_singleton (by rfl)

theorem Setup.apart_assemble {setup : Setup} {files : Files} {shuffles : Shuffles}
    {connect : Connector} {registry : Registry Handler} {id : SiteId} {site : Site}
    {events : List Event}
    (assembled : setup.assemble files shuffles connect registry id = .ok (site, events)) :
    Apart events := by
  unfold assemble at assembled
  obtain ⟨catalog, -, assembled⟩ := ok_of_bind assembled
  obtain ⟨dispenser, -, assembled⟩ := ok_of_bind assembled
  dsimp only at assembled
  generalize linked : (if setup.role.isWorkerSide = true then
    setup.link connect id dispenser.isSome else (none, [])) = pair at assembled
  obtain ⟨link, unlinked⟩ := pair
  obtain ⟨-, rfl⟩ := Prod.mk.inj (Except.ok.inj assembled)
  refine Apart.append ?_ ?_
  · split
    · exact apart_singleton (by rfl)
    · exact apart_nil
  · split at linked
    · have reported := setup.apart_link connect id dispenser.isSome
      rwa [linked] at reported
    · obtain ⟨-, rfl⟩ := Prod.mk.inj linked
      exact apart_nil

theorem Site.apart_teardown (s : Site) (hub : Hub Handler Link) :
    Apart (s.teardown hub).2.2.2 := by
  refine Apart.append (Apart.append ?_ ?_) (apart_singleton (by rfl))
  · intro event member
    obtain ⟨pool, -, rfl⟩ := List.mem_map.mp member
    rfl
  · split
    · exact apart_nil
    · exact apart_singleton (by rfl)

theorem Site.barrier_attach {s t : Site} {hub after : Hub Handler Link}
    {table : HandlerTable Handler} (attached : s.attach hub table = .ok (t, after)) :
    t.barrier = s.barrier := by
  unfold attach at attached
  split at attached <;> cases attached
  rfl

theorem Site.barrier_cancelData (s : Site) : s.cancelData.2.barrier = s.barrier := by
  unfold cancelData
  split <;> rfl

theorem Site.barrier_cancelTokens (s : Site) : s.cancelTokens.2.barrier = s.barrier := by
  unfold cancelTokens
  split <;> rfl

theorem Site.barrier_cancelRefreshes (s : Site) : s.cancelRefreshes.2.barrier = s.barrier := by
  unfold cancelRefreshes
  split <;> rfl

theorem Site.barrier_stopDispenser (s : Site) : s.stopDispenser.2.barrier = s.barrier := by
  unfold stopDispenser
  split <;> rfl

/-- A teardown forces the barrier that the site had, whatever else it ends. -/
theorem Site.barrier_teardown (s : Site) (hub : Hub Handler Link) :
    (s.teardown hub).1.barrierForced = s.barrier.forceRelease.1 ∧
      (s.teardown hub).2.1.barrier = s.barrier.forceRelease.2 := by
  have kept : s.cancelData.2.cancelTokens.2.cancelRefreshes.2.stopDispenser.2.barrier =
      s.barrier := by
    rw [barrier_stopDispenser, barrier_cancelRefreshes, barrier_cancelTokens, barrier_cancelData]
  unfold teardown
  dsimp only
  rw [kept]
  split
  · rename_i attached
    exact ⟨rfl, barrier_attach attached⟩
  · exact ⟨rfl, rfl⟩

namespace Run

variable {r s t : Run} {id : SiteId}

/-! ### Acts that leave the barriers alone -/

/-- Every process keeps its barrier, and none is reported to have opened. -/
structure Calm (r s : Run) : Prop where
  kept : ∀ {id site}, r.site? id = some site →
    ∃ later, s.site? id = some later ∧ later.barrier = site.barrier
  log : s.log.countP Event.isRelease = r.log.countP Event.isRelease

theorem calm_of_eq (sites : s.sites = r.sites) (log : s.log = r.log) : Calm r s where
  kept found := ⟨_, by rw [site?, sites]; exact found, rfl⟩
  log := by rw [log]

theorem Calm.refl (r : Run) : Calm r r := calm_of_eq rfl rfl

theorem Calm.trans (first : Calm r s) (second : Calm s t) : Calm r t where
  kept found := by
    obtain ⟨mid, here, same⟩ := first.kept found
    obtain ⟨later, there, still⟩ := second.kept here
    exact ⟨later, there, still.trans same⟩
  log := second.log.trans first.log

theorem calm_setSite {site next : Site} (found : r.site? id = some site)
    (same : next.barrier = site.barrier) : Calm r (r.setSite id next) where
  kept {other before} here := by
    by_cases own : other = id
    · subst own
      obtain rfl := Option.some.inj (found.symm.trans here)
      exact ⟨next, site?_setSite found next, same⟩
    · exact ⟨before, by rw [site?, setSite, List.getElem?_set_ne (Ne.symm own)]; exact here, rfl⟩
  log := rfl

theorem calm_log {events : List Event} (r : Run) (apart : Apart events) :
    Calm r { r with log := r.log ++ events } where
  kept found := ⟨_, found, rfl⟩
  log := by rw [List.countP_append, apart.countP, Nat.add_zero]

theorem calm_record {events : List Event} (r : Run) (site : Site) (apart : Apart events) :
    Calm r (r.record site events) := by
  unfold record
  split
  · exact calm_log r apart
  · exact .refl r

end Run

end Muster
