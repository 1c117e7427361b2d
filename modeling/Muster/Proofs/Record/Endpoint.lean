import Muster.Proofs.Record.Station

/-!
The endpoint of a dispenser. A request that is accepted goes through a channel to a loop, which
starts a task for it. The task waits at the barrier; a turn in which it finds the barrier open takes
it to its end, and it draws and replies in that turn unless the endpoint was shut down. The loop and
the tasks are dropped some time after a shutdown, and may have turns until then.
-/

namespace Muster

structure Endpoint where
  dispenser : Dispenser
  barrier : Barrier := {}
  /-- the accepted requests, by number -/
  requests : List DataRequest := []
  channel : List Nat := []
  tasks : List Nat := []
  draws : List (Nat × Dispenser.Served) := []
  replies : List (Nat × Dispenser.Served) := []
  log : List Event := []
deriving DecidableEq

namespace Endpoint

inductive Action
  | submit (request : DataRequest)
  | receive
  | turn (number : Nat) (refusal : Option TransportError)
  | work (action : Barrier.Action)
  | shutdown
  | drop

variable (e : Endpoint)

def submit (request : DataRequest) : Except TransportError Endpoint :=
  (e.dispenser.submit request).map fun dispenser =>
    { e with
      dispenser
      requests := e.requests ++ [request]
      channel := e.channel ++ [e.dispenser.accepted] }

def receive : Endpoint :=
  match e.channel with
  | number :: rest => { e with channel := rest, tasks := e.tasks ++ [number] }
  | [] => e

def answer (number : Nat) (served : Dispenser.Served) : Option TransportError → Endpoint
  | none => { e with replies := e.replies ++ [(number, served)] }
  | some error => { e with log := e.log ++ [Dispenser.replyFailedEvent served error] }

/-- A task has its turn. At a locked barrier it goes on waiting. -/
def turn (number : Nat) (refusal : Option TransportError) : Endpoint :=
  if number ∈ e.tasks ∧ e.barrier.isOpen = true then
    match e.dispenser.serve e.barrier number with
    | some (served, dispenser) =>
      answer { e with
        dispenser
        tasks := e.tasks.erase number
        draws := e.draws ++ [(number, served)]
        log := e.log ++ served.events } number served refusal
    | none => { e with tasks := e.tasks.erase number }
  else e

def shutdown : Endpoint := { e with dispenser := e.dispenser.shutdown }

def drop : Endpoint := if e.dispenser.stopped then { e with channel := [], tasks := [] } else e

def step : Action → Endpoint
  | .submit request =>
    match e.submit request with
    | .ok next => next
    | .error _ => e
  | .receive => e.receive
  | .turn number refusal => e.turn number refusal
  | .work action => { e with barrier := (e.barrier.step action).2 }
  | .shutdown => e.shutdown
  | .drop => e.drop

def run (e : Endpoint) (actions : List Action) : Endpoint := actions.foldl step e

def stockAfter (stock : Stock) (draws : List (Nat × Dispenser.Served)) : Stock :=
  draws.foldl (fun stock draw =>
    (stock.request draw.2.response.scenario draw.2.worker).stock) stock

def outcomeOf (stock : Stock) (draw : Nat × Dispenser.Served) : Except StockError DataOutcome :=
  (stock.request draw.2.response.scenario draw.2.worker).outcome

structure Answers (served : Dispenser.Served) (request : DataRequest) : Prop where
  worker : served.worker = request.worker
  id : served.response.id = request.id
  scenario : served.response.scenario = request.scenario

/-! ### Moves -/

theorem running_of_serve {d after : Dispenser} {barrier : Barrier} {number : Nat}
    {served : Dispenser.Served} (done : d.serve barrier number = some (served, after)) :
    barrier.isOpen = true ∧ d.stopped = false ∧ after.stopped = false := by
  unfold Dispenser.serve at done
  split at done
  · rename_i ready
    obtain ⟨opened, running⟩ : barrier.isOpen = true ∧ d.stopped = false := by simpa using ready
    obtain ⟨request, -, same⟩ := Option.map_eq_some_iff.mp done
    obtain ⟨-, rfl⟩ := Prod.mk.inj same
    exact ⟨opened, running, running⟩
  · cases done

variable {e} {f : Endpoint} {stock : Stock}

inductive Moves (e : Endpoint) : Endpoint → Prop
  | rests (barrier : Barrier) (channel tasks : List Nat)
      (kept : (channel ++ tasks).Sublist (e.channel ++ e.tasks)) :
      Moves e { e with barrier, channel, tasks }
  | receives (number : Nat) (rest : List Nat) (next : e.channel = number :: rest) :
      Moves e { e with channel := rest, tasks := e.tasks ++ [number] }
  | accepts (request : DataRequest) (running : e.dispenser.stopped = false) :
      Moves e { e with
        dispenser := { e.dispenser with
          parked := e.dispenser.parked.insert e.dispenser.accepted request
          accepted := e.dispenser.accepted + 1 }
        requests := e.requests ++ [request]
        channel := e.channel ++ [e.dispenser.accepted] }
  | serves (number : Nat) (served : Dispenser.Served) (dispenser : Dispenser)
      (replies : List (Nat × Dispenser.Served)) (log : List Event) (waits : number ∈ e.tasks)
      (done : e.dispenser.serve e.barrier number = some (served, dispenser))
      (replied : replies = e.replies ∨ replies = e.replies ++ [(number, served)]) :
      Moves e { e with
        dispenser, replies, log
        tasks := e.tasks.erase number
        draws := e.draws ++ [(number, served)] }
  | stops : Moves e e.shutdown

theorem submit_eq_ok {request : DataRequest} (accepted : e.submit request = .ok f) :
    e.dispenser.stopped = false ∧ f = { e with
      dispenser := { e.dispenser with
        parked := e.dispenser.parked.insert e.dispenser.accepted request
        accepted := e.dispenser.accepted + 1 }
      requests := e.requests ++ [request]
      channel := e.channel ++ [e.dispenser.accepted] } := by
  unfold submit Dispenser.submit at accepted
  split at accepted
  · cases accepted
  · rename_i running
    exact ⟨Bool.eq_false_iff.mpr running, (Except.ok.inj accepted).symm⟩

theorem moves_self (e : Endpoint) : e.Moves e :=
  .rests e.barrier e.channel e.tasks (List.Sublist.refl _)

theorem moves_turn (e : Endpoint) (number : Nat) (refusal : Option TransportError) :
    e.Moves (e.turn number refusal) := by
  unfold turn
  split
  · rename_i ready
    obtain ⟨waits, -⟩ := ready
    split
    · rename_i served dispenser done
      cases refusal with
      | none =>
        exact .serves number served dispenser _ _ waits done (.inr rfl)
      | some error =>
        exact .serves number served dispenser _ _ waits done (.inl rfl)
    · exact .rests e.barrier e.channel _
        ((List.Sublist.refl _).append List.erase_sublist)
  · exact e.moves_self

theorem step_moves (e : Endpoint) (action : Action) : e.Moves (e.step action) := by
  cases action with
  | submit request =>
    cases submitted : e.submit request with
    | error _ => simpa only [step, submitted] using e.moves_self
    | ok next =>
      obtain ⟨running, rfl⟩ := submit_eq_ok submitted
      simpa only [step, submitted] using Moves.accepts request running
  | receive =>
    unfold step receive
    dsimp only
    split
    · rename_i number rest next
      exact .receives number rest next
    · exact e.moves_self
  | turn number refusal => exact e.moves_turn number refusal
  | work action => exact .rests _ e.channel e.tasks (List.Sublist.refl _)
  | shutdown => exact .stops
  | drop =>
    unfold step drop
    dsimp only
    split
    · exact .rests e.barrier [] [] (List.nil_sublist _)
    · exact e.moves_self

/-! ### The draws of an endpoint -/

/-- Each draw is made once, for an accepted request and as that request asks, and the stock is the
first one after these draws. -/
structure Faithful (stock : Stock) (e : Endpoint) : Prop where
  once : (e.draws.map Prod.fst).Nodup
  replied : e.replies.Sublist e.draws
  asked : ∀ draw ∈ e.draws, ∃ request, e.requests[draw.1]? = some request ∧ Answers draw.2 request
  drawn : e.dispenser.stock = stockAfter stock e.draws
  handed : ∀ place draw, e.draws[place]? = some draw → draw.2.response.reply =
    Dispenser.replyOf (outcomeOf (stockAfter stock (e.draws.take place)) draw)

/-- While the endpoint runs, every request in its channel and tasks waits to be drawn for. -/
structure Sound (stock : Stock) (e : Endpoint) : Prop extends Faithful stock e where
  counted : e.requests.length = e.dispenser.accepted
  parked : ∀ {number request}, e.dispenser.parked.find? number = some request →
    e.requests[number]? = some request
  undrawn : ∀ {number request}, e.dispenser.parked.find? number = some request →
    number ∉ e.draws.map Prod.fst
  apart : (e.channel ++ e.tasks).Nodup
  below : ∀ number ∈ e.channel ++ e.tasks, number < e.dispenser.accepted
  waits : e.dispenser.stopped = false → ∀ number ∈ e.channel ++ e.tasks,
    ∃ request, e.dispenser.parked.find? number = some request

theorem sound_opened (stock : Stock) (barrier : Barrier) :
    Sound stock { dispenser := { stock }, barrier } where
  once := List.nodup_nil
  replied := List.Sublist.refl _
  asked := nofun
  drawn := rfl
  handed := nofun
  counted := rfl
  parked found := by cases found
  undrawn found := by cases found
  apart := List.nodup_nil
  below := nofun
  waits := nofun

theorem Sound.rest {barrier : Barrier} {channel tasks : List Nat} (sound : Sound stock e)
    (kept : ∀ number ∈ channel ++ tasks, number ∈ e.channel ++ e.tasks)
    (apart : (channel ++ tasks).Nodup) : Sound stock { e with barrier, channel, tasks } :=
  { sound with
    apart
    below := fun number member => sound.below number (kept number member)
    waits := fun running number member => sound.waits running number (kept number member) }

theorem Sound.accept (sound : Sound stock e) (request : DataRequest)  :
    Sound stock { e with
      dispenser := { e.dispenser with
        parked := e.dispenser.parked.insert e.dispenser.accepted request
        accepted := e.dispenser.accepted + 1 }
      requests := e.requests ++ [request]
      channel := e.channel ++ [e.dispenser.accepted] } := by
  have older : ∀ {number : Nat} {request' : DataRequest}, e.requests[number]? = some request' →
      (e.requests ++ [request])[number]? = some request' := by
    intro number request' found
    exact getElem?_append_old found
  have queued : (e.channel ++ [e.dispenser.accepted] ++ e.tasks).Perm
      (e.dispenser.accepted :: (e.channel ++ e.tasks)) := by
    rw [List.append_assoc]
    exact List.perm_middle
  have fresh : e.dispenser.accepted ∉ e.channel ++ e.tasks := fun member =>
    Nat.lt_irrefl _ (sound.below _ member)
  refine { sound with asked := ?_, counted := ?_, parked := ?_, undrawn := ?_, apart := ?_,
                      below := ?_, waits := ?_ }
  · intro draw member
    obtain ⟨request', here, answers⟩ := sound.asked draw member
    exact ⟨request', older here, answers⟩
  · simp [sound.counted]
  · intro number other found
    simp only [Table.find?_insert] at found
    split at found
    · rename_i latest
      subst latest
      rw [← sound.counted, ← Option.some.inj found]
      simp
    · exact older (sound.parked found)
  · intro number other found drawn
    simp only [Table.find?_insert] at found
    split at found
    · -- the number is new, so it is above every number that was drawn
      rename_i latest
      obtain ⟨draw, member, same⟩ := List.mem_map.mp drawn
      obtain ⟨request', here, -⟩ := sound.asked draw member
      have below := (List.getElem?_eq_some_iff.mp here).1
      rw [sound.counted] at below
      omega
    · exact sound.undrawn found drawn
  · exact queued.nodup_iff.mpr (List.nodup_cons.mpr ⟨fresh, sound.apart⟩)
  · intro number member
    rcases List.mem_cons.mp (queued.mem_iff.mp member) with rfl | old
    · exact Nat.lt_succ_self _
    · exact Nat.lt_succ_of_lt (sound.below number old)
  · intro running number member
    simp only [Table.find?_insert]
    rcases List.mem_cons.mp (queued.mem_iff.mp member) with rfl | old
    · exact ⟨request, if_pos rfl⟩
    · split
      · exact ⟨request, rfl⟩
      · exact sound.waits running number old

section Serving

variable {number : Nat} {served : Dispenser.Served} {dispenser : Dispenser}
  {replies : List (Nat × Dispenser.Served)} {log : List Event}

theorem Sound.serve_faithful (sound : Sound stock e)
    (done : e.dispenser.serve e.barrier number = some (served, dispenser))
    (replied : replies = e.replies ∨ replies = e.replies ++ [(number, served)]) :
    Faithful stock { e with
      dispenser, replies, log
      tasks := e.tasks.erase number
      draws := e.draws ++ [(number, served)] } := by
  obtain ⟨request, found, worker, id, scenario, reply, drawn, -⟩ := Dispenser.serve_eq_some done
  refine ⟨?_, ?_, ?_, ?_, ?_⟩
  · rw [List.map_append, List.nodup_append]
    refine ⟨sound.once, List.nodup_cons.mpr ⟨List.not_mem_nil, List.nodup_nil⟩, ?_⟩
    intro one old other new
    obtain rfl := List.mem_singleton.mp new
    exact fun same => sound.undrawn found (same ▸ old)
  · rcases replied with rfl | rfl
    · exact sound.replied.trans (List.sublist_append_left _ _)
    · exact sound.replied.append (List.Sublist.refl _)
  · intro draw member
    rcases List.mem_append.mp member with old | new
    · exact sound.asked draw old
    · obtain rfl := List.mem_singleton.mp new
      exact ⟨request, sound.parked found, worker, id, scenario⟩
  · rw [drawn, sound.drawn]
    simp only [stockAfter, List.foldl_append, List.foldl_cons, List.foldl_nil, scenario, worker]
  · intro place draw here
    rcases getElem?_append_cases here with old | ⟨rfl, rfl⟩
    · have earlier := (List.getElem?_eq_some_iff.mp old).1
      rw [List.take_append_of_le_length (Nat.le_of_lt earlier)]
      exact sound.handed place draw old
    · rw [List.take_left, ← sound.drawn]
      simp only [outcomeOf, scenario, worker, reply]

theorem Sound.serve (sound : Sound stock e) (waiting : number ∈ e.tasks)
    (done : e.dispenser.serve e.barrier number = some (served, dispenser))
    (replied : replies = e.replies ∨ replies = e.replies ++ [(number, served)]) :
    Sound stock { e with
      dispenser, replies, log
      tasks := e.tasks.erase number
      draws := e.draws ++ [(number, served)] } := by
  obtain ⟨request, found, -, -, -, -, -, accepted, parked⟩ := Dispenser.serve_eq_some done
  obtain ⟨-, running, -⟩ := running_of_serve done
  have kept : (e.channel ++ e.tasks.erase number).Sublist (e.channel ++ e.tasks) :=
    (List.Sublist.refl _).append List.erase_sublist
  have still : ∀ {other request'}, dispenser.parked.find? other = some request' →
      other ≠ number ∧ e.dispenser.parked.find? other = some request' := by
    intro other request' held
    rw [parked, Table.find?_erase] at held
    split at held
    · cases held
    · rename_i different
      exact ⟨different, held⟩
  refine ⟨sound.serve_faithful done replied, ?_, ?_, ?_, sound.apart.sublist kept, ?_, ?_⟩
  · rw [sound.counted, accepted]
  · intro other request' held
    exact sound.parked (still held).2
  · intro other request' held
    obtain ⟨different, before⟩ := still held
    rw [List.map_append, List.mem_append, not_or]
    exact ⟨sound.undrawn before, fun new => different (List.mem_singleton.mp new)⟩
  · intro other member
    rw [accepted]
    exact sound.below other (kept.subset member)
  · -- no other task has the number, so the request of every other task still waits
    intro _ other member
    obtain ⟨request', held⟩ := sound.waits running other (kept.subset member)
    refine ⟨request', ?_⟩
    rw [parked, Table.find?_erase]
    split
    · rename_i same
      subst same
      obtain ⟨-, tasks, disjoint⟩ := List.nodup_append.mp sound.apart
      rcases List.mem_append.mp member with queued | left
      · exact absurd rfl (disjoint _ queued _ waiting)
      · exact absurd left tasks.not_mem_erase
    · exact held

end Serving

theorem Sound.moves (sound : Sound stock e) (moves : e.Moves f) : Sound stock f := by
  cases moves with
  | rests barrier channel tasks kept =>
    exact sound.rest (fun _ member => kept.subset member) (sound.apart.sublist kept)
  | receives number rest next =>
    have moved : (rest ++ (e.tasks ++ [number])).Perm (e.channel ++ e.tasks) := by
      rw [next, ← List.append_assoc]
      exact List.perm_append_singleton number (rest ++ e.tasks)
    exact sound.rest (fun _ member => moved.mem_iff.mp member) (moved.nodup_iff.mpr sound.apart)
  | accepts request => exact sound.accept request
  | serves number served dispenser replies log waiting done replied =>
    exact sound.serve waiting done replied
  | stops =>
    exact { sound with parked := nofun, undrawn := nofun, waits := nofun }

theorem sound_run (sound : Sound stock e) (actions : List Action) :
    Sound stock (e.run actions) := by
  induction actions generalizing e with
  | nil => exact sound
  | cons action rest ih => exact ih (sound.moves (e.step_moves action))

/-! ### Rest -/

/-- Nothing is drawn and no reply is sent between two states. -/
structure Still (e f : Endpoint) : Prop where
  stock : f.dispenser.stock = e.dispenser.stock
  draws : f.draws = e.draws
  replies : f.replies = e.replies

theorem Moves.still_or_open (moves : e.Moves f) :
    e.Still f ∨ e.barrier.isOpen = true ∧ e.dispenser.stopped = false := by
  cases moves with
  | rests => exact .inl ⟨rfl, rfl, rfl⟩
  | receives => exact .inl ⟨rfl, rfl, rfl⟩
  | accepts => exact .inl ⟨rfl, rfl, rfl⟩
  | serves number served dispenser replies log waiting done =>
    obtain ⟨opened, running, -⟩ := running_of_serve done
    exact .inr ⟨opened, running⟩
  | stops => exact .inl ⟨rfl, rfl, rfl⟩

theorem Moves.stopped (moves : e.Moves f) (stopped : e.dispenser.stopped = true) :
    f.dispenser.stopped = true := by
  cases moves with
  | rests => exact stopped
  | receives => exact stopped
  | accepts request running => exact absurd stopped (Bool.eq_false_iff.mp running)
  | serves number served dispenser replies log waiting done =>
    obtain ⟨-, running, -⟩ := running_of_serve done
    exact absurd stopped (Bool.eq_false_iff.mp running)
  | stops => rfl

theorem still_of_stopped (stopped : e.dispenser.stopped = true) (actions : List Action) :
    e.Still (e.run actions) ∧ (e.run actions).dispenser.stopped = true := by
  induction actions generalizing e with
  | nil => exact ⟨⟨rfl, rfl, rfl⟩, stopped⟩
  | cons action rest ih =>
    have moves := e.step_moves action
    obtain ⟨later, final⟩ := ih (moves.stopped stopped)
    rcases moves.still_or_open with now | ⟨-, running⟩
    · exact ⟨⟨later.stock.trans now.stock, later.draws.trans now.draws,
        later.replies.trans now.replies⟩, final⟩
    · exact absurd stopped (Bool.eq_false_iff.mp running)

theorem submit_of_stopped (stopped : e.dispenser.stopped = true) (request : DataRequest) :
    e.submit request = .error (.sendFailed Dispenser.stoppedReason) := by
  simp only [submit, Dispenser.submit, stopped, if_true]
  rfl

theorem Sound.turn (sound : Sound stock e) (running : e.dispenser.stopped = false)
    (opened : e.barrier.isOpen = true) {number : Nat} (waiting : number ∈ e.tasks)
    (refusal : Option TransportError) :
    ∃ served, (e.turn number refusal).draws = e.draws ++ [(number, served)] ∧
      (refusal = none → (e.turn number refusal).replies = e.replies ++ [(number, served)]) := by
  obtain ⟨request, held⟩ := sound.waits running number (List.mem_append_right _ waiting)
  have done : ∃ served dispenser,
      e.dispenser.serve e.barrier number = some (served, dispenser) := by
    simp only [Dispenser.serve, opened, running, held]
    exact ⟨_, _, rfl⟩
  obtain ⟨served, dispenser, done⟩ := done
  refine ⟨served, ?_⟩
  unfold Endpoint.turn
  rw [if_pos ⟨waiting, opened⟩, done]
  cases refusal with
  | none => exact ⟨rfl, fun _ => rfl⟩
  | some error => exact ⟨rfl, nofun⟩

/-! ### Draws while open -/

/-- What an endpoint that began with a stock keeps to. -/
structure Proper (stock : Stock) (e : Endpoint) : Prop extends Faithful stock e where
  gated : ∀ action, ¬e.Still (e.step action) →
    e.barrier.isOpen = true ∧ e.dispenser.stopped = false
  served : ∀ number ∈ e.tasks, e.barrier.isOpen = true → e.dispenser.stopped = false →
    ∀ refusal, ∃ served, (e.step (.turn number refusal)).draws = e.draws ++ [(number, served)] ∧
      (refusal = none → (e.step (.turn number refusal)).replies = e.replies ++ [(number, served)])
  stops : ∀ later, e.Still (e.run (.shutdown :: later)) ∧
    ∀ request, (e.run (.shutdown :: later)).submit request =
      .error (.sendFailed Dispenser.stoppedReason)

theorem Sound.proper (sound : Sound stock e) : Proper stock e := by
  refine ⟨sound.toFaithful, ?_, ?_, ?_⟩
  · intro action changed
    rcases (e.step_moves action).still_or_open with still | ready
    · exact absurd still changed
    · exact ready
  · intro number waiting opened running refusal
    exact sound.turn running opened waiting refusal
  · intro later
    obtain ⟨still, stopped⟩ := still_of_stopped (e := e.shutdown) rfl later
    exact ⟨⟨still.stock, still.draws, still.replies⟩, submit_of_stopped stopped⟩

/-- However its requests, tasks, barrier and shutdown interleave, an endpoint draws and replies only
while it runs with the barrier open, at most once for each accepted request and as that request
asks; from a shutdown on it does neither and accepts nothing. -/
theorem draws_once_while_open (stock : Stock) (barrier : Barrier) (actions : List Action) :
    Proper stock (run { dispenser := { stock }, barrier } actions) :=
  (sound_run (sound_opened stock barrier) actions).proper

/-- The barrier is locked again before the second of two requests has its turn, and opened only
after the shutdown. -/
def relocked : List Action :=
  [.submit ⟨1, "login", "a"⟩, .submit ⟨4, "login", "b"⟩, .receive, .receive, .work (.release 2),
    .turn 1 none, .work .acquire, .turn 0 none, .shutdown, .work .forceRelease, .turn 0 none]

def twoLogins : Stock :=
  ⟨.ofList [("login", { scenario := "login", records := [.int 7, .int 8] })]⟩

theorem draws_once_while_open_relocked :
    Proper twoLogins (run { dispenser := { stock := twoLogins } } relocked) ∧
      (run { dispenser := { stock := twoLogins } } relocked).replies =
        [(1, ⟨"b", ⟨4, "login", .record (.int 7)⟩, []⟩)] :=
  ⟨draws_once_while_open twoLogins {} relocked, by decide⟩

end Endpoint

end Muster
