import Muster.Proofs.Run.Acts
import Muster.Proofs.Standing

/-!
What an act does to a run. A process goes on or a new one starts; beside that one call at most is
answered at once, begins to wait, or returns. Whoever waits goes on waiting until it is handed a
value or cancelled, and a dispenser that has stopped does not change any more.
-/

namespace Muster

/-! ### Calls and where they wait -/

/-- The place of a call in the table of its process. -/
inductive Place
  | data (site : SiteId) (id : Nat)
  | token (site : SiteId) (id : Nat)
deriving DecidableEq

namespace Call

def site : Call → SiteId
  | .data id _ | .token id _ _ | .issue id _ => id

/-- Calls to the distributor wait for a flight, and may share it. -/
def place? : Call → Option Place
  | .data id request => some (.data id request)
  | .token id _ request => some (.token id request)
  | .issue _ _ => none

/-- What the call returns if it is cancelled. -/
def cancelled : Call → CallResult
  | .data _ _ => .data (.error .cancelled)
  | .token _ _ _ | .issue _ _ => .token (.error .cancelled)

end Call

def Phase.standing : Phase → Standing
  | .published _ => .handed
  | .aborted => .cancelled
  | .calling | .decided _ | .settled _ | .reported _ => .waits

def Issuer.standing? (d : Issuer) (flight : Nat) : Option Standing :=
  (d.flights.find? flight).map fun f => f.phase.standing

namespace Site

def standing? (s : Site) : Call → Option Standing
  | .data _ request => s.requester.bind fun requester => requester.pending.standing? request
  | .token _ _ request => s.client.bind fun client => client.pending.standing? request
  | .issue _ flight => s.issuer.bind fun issuer => issuer.standing? flight

end Site

def Run.standing? (r : Run) (call : Call) : Option Standing :=
  (r.site? call.site).bind fun site => site.standing? call

/-! ### Processes -/

/-- What an act may do beside letting processes go on. -/
structure Scope where
  gone : Option Place := none
  opened : Option Place := none
  entered : Option SiteId := none

namespace Dispenser

/-- It accepts nothing and serves nothing. -/
structure Ended (d : Dispenser) : Prop where
  stopped : d.stopped = true
  empty : d.parked = ∅

def Steps (d e : Dispenser) : Prop := d.Ended → e = d

theorem Steps.trans {d e f : Dispenser} (first : d.Steps e) (second : e.Steps f) : d.Steps f := by
  intro ended
  obtain rfl := first ended
  exact second ended

theorem ended_shutdown (d : Dispenser) : d.shutdown.Ended := ⟨rfl, rfl⟩

theorem steps_shutdown (d : Dispenser) : d.Steps d.shutdown := by
  rintro ⟨stopped, empty⟩
  rw [shutdown, ← empty, ← stopped]

theorem steps_submit {d e : Dispenser} {request : DataRequest}
    (submitted : d.submit request = .ok e) : d.Steps e := by
  intro ended
  rw [submit, if_pos ended.stopped] at submitted
  cases submitted

theorem steps_serve {d e : Dispenser} {barrier : Barrier} {number : Nat} {served : Served}
    (done : d.serve barrier number = some (served, e)) : d.Steps e := by
  intro ended
  simp [serve, ended.stopped] at done

end Dispenser

namespace Site

/-- The parts of a process fit, and it can attach to the hub. -/
structure Fits (s : Site) : Prop where
  attaches : s.attachesLeft = none
  requester : ∀ requester ∈ s.requester, requester.pending.Fits
  client : ∀ client ∈ s.client, client.pending.Fits
  issuer : ∀ issuer ∈ s.issuer, issuer.Steady

/-- The process goes on, as far as calls and refreshes can tell. -/
structure Steps (scope : Scope) (id : SiteId) (s t : Site) : Prop where
  node : t.node = s.node
  attaches : t.attachesLeft = none
  requester : Option.Rel (fun a b => a.pending.Steps (fun n => scope.gone = some (.data id n))
    (fun n => scope.opened = some (.data id n)) b.pending) s.requester t.requester
  client : Option.Rel (fun a b => a.pending.Steps (fun n => scope.gone = some (.token id n))
    (fun n => scope.opened = some (.token id n)) b.pending) s.client t.client
  issuer : Option.Rel (Issuer.Steps (scope.entered = some id)) s.issuer t.issuer
  dispenser : Option.Rel Dispenser.Steps s.dispenser t.dispenser

theorem rel_some {α β : Type} {R : α → β → Prop} {before : Option α} {after : Option β} {a : α}
    (rel : Option.Rel R before after) (has : before = some a) : ∃ b, after = some b ∧ R a b := by
  cases rel with
  | none => cases has
  | some related =>
    obtain rfl := Option.some.inj has
    exact ⟨_, rfl, related⟩

theorem rel_none {α β : Type} {R : α → β → Prop} {before : Option α} {after : Option β}
    (rel : Option.Rel R before after) (none : before = none) : after = .none := by
  cases rel with
  | none => rfl
  | some => cases none

theorem rel_of_some {α β : Type} {R : α → β → Prop} {before : Option α} {after : Option β} {b : β}
    (rel : Option.Rel R before after) (has : after = some b) :
    ∃ a, before = some a ∧ R a b := by
  cases rel with
  | none => cases has
  | some related =>
    obtain rfl := Option.some.inj has
    exact ⟨_, rfl, related⟩

theorem rel_refl {α : Type} {R : α → α → Prop} {part : Option α} (refl : ∀ a ∈ part, R a a) :
    Option.Rel R part part := by
  cases part with
  | none => exact .none
  | some a => exact .some (refl a rfl)

theorem rel_trans {α : Type} {R : α → α → Prop} {first second third : Option α}
    (trans : ∀ {a b c}, R a b → R b c → R a c) (before : Option.Rel R first second)
    (after : Option.Rel R second third) : Option.Rel R first third := by
  cases before with
  | none => exact after
  | some related =>
    cases after with
    | some next => exact .some (trans related next)

theorem rel_map {α β : Type} {R : α → β → Prop} {part : Option α} {f : α → β}
    (next : ∀ a ∈ part, R a (f a)) : Option.Rel R part (part.map f) := by
  cases part with
  | none => exact .none
  | some a => exact .some (next a rfl)

variable {scope : Scope} {id : SiteId} {s t : Site}

theorem Steps.refl (fits : s.Fits) : Steps scope id s s where
  node := rfl
  attaches := fits.attaches
  requester := rel_refl fun requester has => .refl (fits.requester requester has)
  client := rel_refl fun client has => .refl (fits.client client has)
  issuer := rel_refl fun issuer has => .refl (fits.issuer issuer has)
  dispenser := rel_refl fun _ _ _ => rfl

theorem Steps.trans {u : Site} (first : Steps scope id s t) (second : Steps scope id t u) :
    Steps scope id s u where
  node := second.node.trans first.node
  attaches := second.attaches
  requester := rel_trans Pending.Steps.trans first.requester second.requester
  client := rel_trans Pending.Steps.trans first.client second.client
  issuer := rel_trans Issuer.Steps.trans first.issuer second.issuer
  dispenser := rel_trans Dispenser.Steps.trans first.dispenser second.dispenser

theorem Steps.fits (steps : Steps scope id s t) : t.Fits where
  attaches := steps.attaches
  requester requester has := by
    obtain ⟨before, found, next⟩ := rel_of_some steps.requester has
    exact next.fits
  client client has := by
    obtain ⟨before, found, next⟩ := rel_of_some steps.client has
    exact next.fits
  issuer issuer has := by
    obtain ⟨before, found, next⟩ := rel_of_some steps.issuer has
    exact next.steady

/-- Whoever waits goes on waiting, or gets something; whoever has something keeps it. -/
theorem Steps.standing (steps : Steps scope id s t) {call : Call} {standing : Standing}
    (here : call.site = id) (stays : ∀ place ∈ call.place?, scope.gone ≠ some place)
    (stands : s.standing? call = some standing) :
    ∃ later, t.standing? call = some later ∧ (standing ≠ .waits → later = standing) := by
  subst here
  cases call with
  | data id request =>
    obtain ⟨requester, has, stands⟩ := Option.bind_eq_some_iff.mp stands
    obtain ⟨later, keeps, next⟩ := rel_some steps.requester has
    obtain ⟨standing, still, same⟩ := next.keeps (stays _ rfl) stands
    exact ⟨standing, by simp only [standing?, keeps, Option.bind_some, still], same⟩
  | token id identity request =>
    obtain ⟨client, has, stands⟩ := Option.bind_eq_some_iff.mp stands
    obtain ⟨later, keeps, next⟩ := rel_some steps.client has
    obtain ⟨standing, still, same⟩ := next.keeps (stays _ rfl) stands
    exact ⟨standing, by simp only [standing?, keeps, Option.bind_some, still], same⟩
  | issue id flight =>
    obtain ⟨issuer, has, stands⟩ := Option.bind_eq_some_iff.mp stands
    obtain ⟨later, keeps, next⟩ := rel_some steps.issuer has
    obtain ⟨f, found, rfl⟩ := Option.map_eq_some_iff.mp stands
    obtain ⟨g, still, same⟩ := next.keeps found
    refine ⟨g.phase.standing, ?_, fun finished => ?_⟩
    · simp only [standing?, keeps, Option.bind_some, Issuer.standing?, still, Option.map_some]
    · rw [same fun calling => finished (by rw [calling]; rfl)]

/-- Nobody begins to wait but in the place that is opened. -/
theorem Steps.back (steps : Steps scope id s t) {call : Call} {place : Place}
    (here : call.site = id) (placed : call.place? = some place)
    (waits : t.standing? call = some .waits) :
    s.standing? call = some .waits ∨ scope.opened = some place := by
  subst here
  cases call with
  | data id request =>
    obtain ⟨requester, has, waits⟩ := Option.bind_eq_some_iff.mp waits
    obtain ⟨before, had, next⟩ := rel_of_some steps.requester has
    obtain rfl := Option.some.inj placed
    refine (next.back waits).imp (fun waited => ?_) (fun opened => opened)
    simp only [standing?, had, Option.bind_some, waited]
  | token id identity request =>
    obtain ⟨client, has, waits⟩ := Option.bind_eq_some_iff.mp waits
    obtain ⟨before, had, next⟩ := rel_of_some steps.client has
    obtain rfl := Option.some.inj placed
    refine (next.back waits).imp (fun waited => ?_) (fun opened => opened)
    simp only [standing?, had, Option.bind_some, waited]
  | issue => cases placed

end Site

namespace Run

/-- The parts of every process fit, and the token source answers nobody ahead. -/
structure Fits (r : Run) : Prop where
  sites : ∀ {id site}, r.site? id = some site → site.Fits
  queued : r.tokenSource.queued = []

/-- Processes go on, and new ones start with nobody waiting. -/
structure Grows (scope : Scope) (r s : Run) : Prop where
  kept : ∀ {id site}, r.site? id = some site →
    ∃ later, s.site? id = some later ∧ site.Steps scope id later
  born : ∀ {id site}, s.site? id = some site → r.site? id = none →
    site.Fits ∧ ∀ call, site.standing? call = none
  queued : s.tokenSource.queued = []

/-- An act, as far as the calls of the run can tell. -/
inductive Turn (entered : Option SiteId) (r s : Run) : Prop
  | goes (grows : Grows { entered } r s) (made : s.made = r.made) (calls : s.calls = r.calls)
      (returned : s.returned = r.returned)
  | answers (result : CallResult) (grows : Grows { entered } r s) (made : s.made = r.made + 1)
      (calls : s.calls = r.calls.erase (r.made + 1))
      (returned : s.returned = r.returned ++ [(r.made + 1, result)])
  | holds (call : Call) (grows : Grows { entered, opened := call.place? } r s)
      (fresh : call.place?.isSome = true → r.standing? call = none)
      (waits : s.standing? call = some .waits) (made : s.made = r.made + 1)
      (calls : s.calls = r.calls.insert (r.made + 1) call) (returned : s.returned = r.returned)
  | returns (number : Nat) (call : Call) (result : CallResult)
      (found : r.calls.find? number = some call)
      (grows : Grows { entered, gone := call.place? } r s)
      (gone : call.place?.isSome = true → s.standing? call = none)
      (cancelled : r.standing? call = some .cancelled → result = call.cancelled)
      (made : s.made = r.made) (calls : s.calls = r.calls.erase number)
      (returned : s.returned = r.returned ++ [(number, result)])

variable {scope : Scope} {r s : Run} {id : SiteId} {site : Site}

theorem Grows.refl (fits : r.Fits) : Grows scope r r :=
  ⟨fun found => ⟨_, found, .refl (fits.sites found)⟩,
    fun found none => absurd (found.symm.trans none) nofun, fits.queued⟩

theorem Grows.fits (grows : Grows scope r s) : s.Fits := by
  refine ⟨fun {id site} found => ?_, grows.queued⟩
  cases before : r.site? id with
  | none => exact (grows.born found before).1
  | some old =>
    obtain ⟨later, here, steps⟩ := grows.kept before
    obtain rfl := Option.some.inj (here.symm.trans found)
    exact steps.fits

theorem Grows.congr (grows : Grows scope r s) {t : Run} (sites : t.sites = s.sites)
    (source : t.tokenSource.queued = s.tokenSource.queued) : Grows scope r t :=
  ⟨fun found => by rw [site?, sites]; exact grows.kept found,
    fun found => grows.born (by rw [site?, ← sites]; exact found), source.trans grows.queued⟩

theorem site?_setSite_ne (r : Run) {other : SiteId} (apart : other ≠ id) (next : Site) :
    (r.setSite id next).site? other = r.site? other := List.getElem?_set_ne (Ne.symm apart)

theorem setSite_comm (r : Run) {other : SiteId} (apart : other ≠ id) (first second : Site) :
    (r.setSite other first).setSite id second = (r.setSite id second).setSite other first := by
  simp only [setSite, List.set_comm _ _ apart]

/-- One process goes on and the others rest. -/
theorem grows_setSite (fits : r.Fits) {next : Site} (found : r.site? id = some site)
    (steps : site.Steps scope id next) : Grows scope r (r.setSite id next) := by
  refine ⟨fun {other before} here => ?_, fun {other after} here none => ?_, fits.queued⟩
  · by_cases same : other = id
    · subst same
      obtain rfl := Option.some.inj (found.symm.trans here)
      exact ⟨next, getElem?_set_same found, steps⟩
    · refine ⟨before, ?_, .refl (fits.sites here)⟩
      exact (r.site?_setSite_ne same next).trans here
  · rcases getElem?_set_cases found here with ⟨rfl, -⟩ | ⟨-, old⟩
    · rw [found] at none
      cases none
    · cases none.symm.trans old

end Run

end Muster
