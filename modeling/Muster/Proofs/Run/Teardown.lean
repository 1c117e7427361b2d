import Muster.Proofs.Run.Calls

/-!
The end of a process in a run. From any state that can be reached, with whatever is on its way, it
leaves the process at rest; who waited is cancelled, the dispenser is closed for good, and the
summary counts what was cancelled.
-/

namespace Muster.Run

variable {r s : Run} {entered : Option SiteId} {id : SiteId} {site : Site}

theorem Turn.grows (turn : Turn entered r s) :
    ∃ scope, scope.entered = entered ∧ Grows scope r s := by
  cases turn with
  | goes grows => exact ⟨_, rfl, grows⟩
  | answers _ grows => exact ⟨_, rfl, grows⟩
  | holds _ grows => exact ⟨_, rfl, grows⟩
  | returns _ _ _ _ grows => exact ⟨_, rfl, grows⟩

/-! ### What is final -/

/-- A flight that is aborted stays so. -/
theorem aborted_acts {flight : Nat} (fits : r.Fits)
    (aborted : r.standing? (.issue id flight) = some .cancelled) (list : List Act) :
    (r.acts list).standing? (.issue id flight) = some .cancelled := by
  refine (acts_induction (motive := fun r => r.Fits ∧
    r.standing? (.issue id flight) = some .cancelled) ?_ ⟨fits, aborted⟩ list).2
  rintro r act ⟨fits, aborted⟩
  obtain ⟨scope, -, grows⟩ := (turn_act fits act).grows
  exact ⟨grows.fits, grows.cancelled nofun aborted⟩

/-- A dispenser that has stopped stays as it is. -/
theorem dispenser_acts (fits : r.Fits) (found : r.site? id = some site)
    (ended : ∀ dispenser ∈ site.dispenser, dispenser.Ended) (list : List Act) :
    ∃ later, (r.acts list).site? id = some later ∧ later.dispenser = site.dispenser := by
  refine (acts_induction (motive := fun r => r.Fits ∧ ∃ later,
    r.site? id = some later ∧ later.dispenser = site.dispenser) ?_ ⟨fits, site, found, rfl⟩ list).2
  rintro r act ⟨fits, before, here, same⟩
  obtain ⟨scope, -, grows⟩ := (turn_act fits act).grows
  obtain ⟨later, there, steps⟩ := grows.kept here
  refine ⟨grows.fits, later, there, ?_⟩
  cases has : site.dispenser with
  | none => exact Site.rel_none steps.dispenser (same.trans has)
  | some dispenser =>
    obtain ⟨kept, still, rests⟩ := Site.rel_some steps.dispenser (same.trans has)
    rw [still, rests (ended dispenser has)]

theorem refused_of_ended (found : r.site? id = some site)
    (ended : ∀ dispenser ∈ site.dispenser, dispenser.Ended) (request : DataRequest) :
    r.submit (.dispenser id) request = .error (.sendFailed Dispenser.stoppedReason) := by
  cases has : site.dispenser with
  | none => simp only [submit, found, Option.bind_some, has, Option.map_none]
  | some dispenser =>
    simp only [submit, found, Option.bind_some, has, Option.map_some, Dispenser.submit,
      if_pos (ended dispenser has).stopped]
    rfl

/-! ### The teardown -/

/-- The call has returned as cancelled and in no other way, or it can return and returns so. -/
def Cancels (r : Run) (number : Nat) (call : Call) : Prop :=
  (∀ result, (number, result) ∈ r.returned ↔ result = call.cancelled) ∨
    (∀ result, (number, result) ∉ r.returned) ∧ ∃ next, r.step (.returns number) = some next ∧
      next.returned = r.returned ++ [(number, call.cancelled)]

theorem cancels_of_cutOff {number : Nat} {call : Call} (sound : r.Sound)
    (cut : r.CutOff number call) : r.Cancels number call := by
  rcases cut with ⟨found, cancelled⟩ | ⟨-, -, results⟩
  · exact .inr ⟨sound.unreturned found, returns_of_cancelled sound.fits found cancelled⟩
  · exact .inl results

/-- The end of a process: what it finds, what it leaves, and what stays so whatever is done
later. -/
structure TornDown (r : Run) (id : SiteId) (site : Site) (summary : Site.Teardown) (after : Run) :
    Prop where
  counted : summary.cancelled = (r.waiters id).length + site.refreshing
  pools : summary.pools = site.pools
  forced : summary.barrierForced = true ↔ site.barrier.isOpen = false
  table : after.hub.tables.find? site.node = some ∅
  again : ∃ same, after.teardown id = some (⟨0, summary.pools, false⟩, same)
  rests : ∃ ended, after.site? id = some ended ∧ ended.AtRest ∧ ended.pools = summary.pools ∧
    ∀ list, ∃ later, (after.acts list).site? id = some later ∧ later.dispenser = ended.dispenser
  refused : ∀ list request, (after.acts list).submit (.dispenser id) request =
    .error (.sendFailed Dispenser.stoppedReason)
  calls : ∀ number call, r.calls.find? number = some call → call.site = id →
    r.standing? call = some .waits → ∀ list, (after.acts list).Cancels number call
  flights : ∀ flight, r.standing? (.issue id flight) = some .waits →
    ∀ list, (after.acts list).flightOutcome? id flight = some (.error .cancelled)

theorem sound_teardown (sound : r.Sound) {summary : Site.Teardown}
    (ends : r.teardown id = some (summary, s)) : s.Sound := by
  have turn : Turn none r (((r.teardown id).map (·.2)).getD r) := turn_teardown sound.fits
  rw [ends] at turn
  exact sound_turn sound turn

theorem teardown_settles (reached : r.Reachable) (found : r.site? id = some site) :
    ∃ summary after, r.teardown id = some (summary, after) ∧ r.TornDown id site summary after := by
  have sound := sound_of_reachable reached
  have fits := sound.fits.sites found
  obtain ⟨log, ends⟩ := teardown_eq sound.fits found
  refine ⟨_, _, ends, ?_⟩
  obtain ⟨after, left⟩ : ∃ after : Run, after =
    { r.setSite id site.ended with hub := r.hub.attach site.node ∅, log } := ⟨_, rfl⟩
  rw [← left] at ends ⊢
  have later := sound_teardown sound ends
  have here : after.site? id = some site.ended := by
    rw [left]
    exact site?_setSite found site.ended
  have rest := Site.atRest_ended fits
  have cancelled : ∀ {call : Call}, call.site = id → r.standing? call = some .waits →
      after.standing? call = some .cancelled := by
    rintro call rfl waits
    rw [standing?, found] at waits
    rw [standing?, here]
    exact Site.cancelled_ended fits waits
  refine ⟨?_, rfl, ?_, ?_, ?_, ⟨site.ended, here, rest, site.pools_ended, ?_⟩, ?_, ?_, ?_⟩
  · rw [length_waiters sound found]
  · simp
  · rw [left]
    exact (Table.find?_insert ..).trans (if_pos rfl)
  · obtain ⟨again, same⟩ := teardown_eq later.fits here
    rw [rest.data, rest.tokens, rest.refreshing, rest.barrier, site.pools_ended] at same
    exact ⟨_, same⟩
  · exact dispenser_acts later.fits here rest.dispenser
  · intro list request
    obtain ⟨last, there, same⟩ := dispenser_acts later.fits here rest.dispenser list
    exact refused_of_ended there (same ▸ rest.dispenser) request
  · intro number call held own waits list
    have kept : after.calls.find? number = some call := by rw [left]; exact held
    exact cancels_of_cutOff (sound_acts later list)
      (cutOff_acts later (.inl ⟨kept, cancelled own waits⟩) list)
  · intro flight waits list
    exact flightOutcome?_of_cancelled (aborted_acts later.fits (cancelled rfl waits) list)

/-- A process that does everything itself. -/
def shopSetup : Setup :=
  { role := .local, node := "shop", hasTokenSource := true, logged := false
    config := { scenarios := [{ name := "login", identifier := some "1"
                                data := some { sources := [.inline [.string "ann"]] } }] } }

def shop : Site :=
  { role := .local, node := "shop", logged := false, barrier := Barrier.acquire {}
    effective := shopSetup.handlers {} 0
    dispenser := (shopSetup.dispenser {} .still).toOption.join
    requester := some { worker := "shop", link := some (.dispenser 0), timeout := 30000 }
    client := some { node := "shop", policy := {}, timeout := 30000 }
    issuer := some { policy := {} }
    catalog := ⟨[{ name := "login", identifier := "1" }]⟩ }

def openShop : Run :=
  { hub := ({ master := "shop" } : Hub Handler Link).attach "shop" shop.effective, sites := [shop] }

theorem start_shop : (begin "shop").act (.start {} .still shopSetup) = openShop := by
  have valid : shopSetup.config.check = .ok () := by decide +kernel
  have made : shopSetup.config.catalog = .ok ⟨[{ name := "login", identifier := "1" }]⟩ :=
    (Config.catalog_of_check valid).1
  show ((begin "shop").start {} .still shopSetup).2 = openShop
  unfold start startVia Setup.assemble
  rw [made]
  rfl

/-- Whatever is done first in the open shop can be reached. -/
theorem reachable_shop (list : List Act) : (openShop.acts list).Reachable :=
  ⟨"shop", .start {} .still shopSetup :: list, congrArg (·.acts list) start_shop.symm⟩

/-- A record and a token are waited for, and two refreshes run. -/
def busyShop : Run :=
  openShop.acts [.requestData 0 "login", .requestToken 0 "alice", .move (.handle 0),
    .requestIssue 0 "bob"]

theorem teardown_settles_busy : busyShop.Reachable ∧ ∃ site, busyShop.site? 0 = some site ∧
    busyShop.waiters 0 = [(1, .data 0 1), (2, .token 0 "alice" 1)] ∧ site.refreshing = 2 ∧
    ∃ summary after, busyShop.teardown 0 = some (summary, after) ∧
      busyShop.TornDown 0 site summary after ∧ summary.cancelled = 4 ∧
      summary.barrierForced = true := by
  have reached : busyShop.Reachable := reachable_shop _
  obtain ⟨site, found⟩ := Option.isSome_iff_exists.mp
    (show (busyShop.site? 0).isSome = true by decide +kernel)
  obtain ⟨summary, after, ends, torn⟩ := teardown_settles reached found
  have waiters : busyShop.waiters 0 = [(1, .data 0 1), (2, .token 0 "alice" 1)] := by
    decide +kernel
  have refreshing : (busyShop.site? 0).map Site.refreshing = some 2 := by decide +kernel
  have locked : (busyShop.site? 0).map (·.barrier.isOpen) = some false := by decide +kernel
  rw [found] at refreshing locked
  have two := Option.some.inj refreshing
  refine ⟨reached, site, found, waiters, two, summary, after, ends, torn, ?_,
    torn.forced.mpr (Option.some.inj locked)⟩
  rw [torn.counted, waiters, two]
  rfl

end Muster.Run
