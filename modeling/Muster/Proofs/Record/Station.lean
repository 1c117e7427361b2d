import Muster.Proofs.Record.Stock
import Muster.Proofs.Rows
import Muster.Record.Dispenser

/-!
A dispenser at work. A station keeps, beside its dispenser and barrier, which call made each
accepted request, which requests have a task that saw the barrier open, and every draw. The barrier
may be locked again between a task's look at it and its draw. `Sound` ties the draws to the requests
and to the positions of the pools, and every operation keeps it.
-/

namespace Muster

structure Ask where
  call : Nat
  request : DataRequest
deriving DecidableEq

structure Draw where
  number : Nat
  call : Nat
  /-- where the pool was, if it had a record left -/
  position : Option Nat
  served : Dispenser.Served
deriving DecidableEq

namespace Draw

def worker (d : Draw) : NodeId := d.served.worker
def response (d : Draw) : DataResponse := d.served.response
def scenario (d : Draw) : ScenarioId := d.response.scenario
def reply (d : Draw) : DataReply := d.response.reply

structure Answers (d : Draw) (request : DataRequest) : Prop where
  id : d.response.id = request.id
  scenario : d.scenario = request.scenario
  worker : d.worker = request.worker

end Draw

structure Station where
  dispenser : Dispenser
  barrier : Barrier := {}
  /-- the accepted requests, by number -/
  asks : List Ask := []
  /-- the requests whose task saw the barrier open -/
  looked : List Nat := []
  draws : List Draw := []
deriving DecidableEq

namespace Dispenser

/-- Serving a request draws for it and takes it out of those that wait. -/
theorem serve_eq_some {d e : Dispenser} {barrier : Barrier} {number : Nat} {served : Served}
    (done : d.serve barrier number = some (served, e)) :
    ∃ request, d.parked.find? number = some request ∧
      served.worker = request.worker ∧ served.response.id = request.id ∧
      served.response.scenario = request.scenario ∧
      served.response.reply = replyOf (d.stock.request request.scenario request.worker).outcome ∧
      e.stock = (d.stock.request request.scenario request.worker).stock ∧
      e.accepted = d.accepted ∧ e.parked = d.parked.erase number := by
  unfold serve at done
  split at done
  · obtain ⟨request, found, same⟩ := Option.map_eq_some_iff.mp done
    obtain ⟨rfl, rfl⟩ := Prod.mk.inj same
    exact ⟨request, found, rfl, rfl, rfl, rfl, rfl, rfl, rfl⟩
  · cases done

end Dispenser

namespace Station

def pool? (s : Station) (scenario : ScenarioId) : Option Pool :=
  s.dispenser.stock.pools.find? scenario

def submit (s : Station) (call : Nat) (request : DataRequest) : Except TransportError Station :=
  (s.dispenser.submit request).map fun dispenser =>
    { s with dispenser, asks := s.asks ++ [⟨call, request⟩] }

def work (s : Station) (action : Barrier.Action) : Station :=
  { s with barrier := (s.barrier.step action).2 }

def shutdown (s : Station) : Station := { s with dispenser := s.dispenser.shutdown }

def look (s : Station) (number : Nat) : Station :=
  if s.barrier.isOpen && number < s.asks.length then
    { s with looked := s.looked ++ [number] }
  else s

/-- A task that saw the barrier open draws for its request. -/
def serve (s : Station) (number : Nat) : Option (Draw × Station) :=
  if number ∈ s.looked then
    match s.asks[number]?, s.dispenser.serve { isOpen := true } number with
    | some ask, some (served, dispenser) =>
      let position := (s.pool? served.response.scenario).bind Pool.position?
      let draw : Draw := ⟨number, ask.call, position, served⟩
      some (draw, { s with dispenser, draws := s.draws ++ [draw] })
    | _, _ => none
  else none

theorem draws_subset {s t : Station} {number : Nat} {draw : Draw}
    (done : s.serve number = some (draw, t)) : s.draws ⊆ t.draws := by
  unfold serve at done
  split at done
  · split at done
    · cases done
      exact List.subset_append_left _ _
    · cases done
  · cases done

/-- The draws of a station fit the requests it accepted and the positions of its pools. -/
structure Sound (s : Station) : Prop where
  counted : s.asks.length = s.dispenser.accepted
  parked : ∀ {number request}, s.dispenser.parked.find? number = some request →
    ∃ ask, s.asks[number]? = some ask ∧ ask.request = request
  undrawn : ∀ {number request}, s.dispenser.parked.find? number = some request →
    ∀ draw ∈ s.draws, draw.number ≠ number
  asked : ∀ draw ∈ s.draws, ∃ ask, s.asks[draw.number]? = some ask ∧ ask.call = draw.call ∧
    draw.Answers ask.request
  once : ∀ draw ∈ s.draws, ∀ other ∈ s.draws, draw.number = other.number → draw = other
  record : ∀ draw ∈ s.draws, ∀ record, draw.reply = .record record →
    ∃ pool position, s.pool? draw.scenario = some pool ∧ draw.position = some position ∧
      pool.records[position]? = some record
  located : ∀ draw ∈ s.draws, ∀ position, draw.position = some position →
    ∃ pool, s.pool? draw.scenario = some pool ∧ (∃ record, draw.reply = .record record) ∧
      (pool.cyclic = false → position < pool.served)
  exhausted : ∀ draw ∈ s.draws, draw.reply = .exhausted →
    ∃ pool, s.pool? draw.scenario = some pool ∧
      (pool.cyclic = false → pool.records.length ≤ pool.served)
  apart : ∀ draw ∈ s.draws, ∀ other ∈ s.draws, draw.scenario = other.scenario →
    ∀ pool, s.pool? draw.scenario = some pool → pool.cyclic = false →
      ∀ position, draw.position = some position → other.position = some position → draw = other
  complete : ∀ scenario pool, s.pool? scenario = some pool → pool.cyclic = false →
    ∀ position, position < pool.served →
      ∃ draw ∈ s.draws, draw.scenario = scenario ∧ draw.position = some position

theorem sound_opened {stock : Stock} (fresh : stock.Untouched) :
    Sound { dispenser := { stock } } where
  counted := rfl
  parked found := by cases found
  undrawn found := by cases found
  asked := nofun
  once := nofun
  record := nofun
  located := nofun
  exhausted := nofun
  apart := nofun
  complete scenario pool found _ position below := by
    rw [fresh scenario pool found] at below
    exact absurd below (Nat.not_lt_zero _)

variable {s t : Station}

theorem submit_eq_ok {call : Nat} {request : DataRequest}
    (accepted : s.submit call request = .ok t) :
    t = { s with
      dispenser := { s.dispenser with
        parked := s.dispenser.parked.insert s.dispenser.accepted request
        accepted := s.dispenser.accepted + 1 }
      asks := s.asks ++ [⟨call, request⟩] } := by
  unfold submit Dispenser.submit at accepted
  split at accepted
  · cases accepted
  · exact (Except.ok.inj accepted).symm

theorem sound_submit {call : Nat} {request : DataRequest} (sound : s.Sound)
    (accepted : s.submit call request = .ok t) : t.Sound := by
  obtain rfl := submit_eq_ok accepted
  have older : ∀ {number : Nat} {ask : Ask}, s.asks[number]? = some ask →
      (s.asks ++ [⟨call, request⟩])[number]? = some ask := by
    intro number ask found
    exact getElem?_append_old found
  refine { sound with counted := ?_, parked := ?_, undrawn := ?_, asked := ?_ }
  · simp [sound.counted]
  · intro number other found
    simp only [Table.find?_insert] at found
    split at found
    · rename_i latest
      subst latest
      refine ⟨⟨call, request⟩, ?_, Option.some.inj found⟩
      rw [← sound.counted]
      simp
    · obtain ⟨ask, here, same⟩ := sound.parked found
      exact ⟨ask, older here, same⟩
  · intro number other found draw member
    simp only [Table.find?_insert] at found
    split at found
    · -- the number is new, so it is above every number that was drawn
      rename_i latest
      obtain ⟨ask, here, -⟩ := sound.asked draw member
      have below := (List.getElem?_eq_some_iff.mp here).1
      rw [sound.counted] at below
      omega
    · exact sound.undrawn found draw member
  · intro draw member
    obtain ⟨ask, here, fits⟩ := sound.asked draw member
    exact ⟨ask, older here, fits⟩

theorem sound_work (sound : s.Sound) (action : Barrier.Action) : (s.work action).Sound :=
  { sound with }

theorem sound_shutdown (sound : s.Sound) : s.shutdown.Sound :=
  { sound with parked := nofun, undrawn := nofun }

theorem sound_look (sound : s.Sound) (number : Nat) : (s.look number).Sound := by
  unfold look
  split
  · exact { sound with }
  · exact sound

/-- The three turns that a draw can take: there is no pool, the pool is at its end, or it hands out
the record at its position. -/
inductive Turn (s : Station) (draw : Draw) (t : Station) : Prop
  | unknown (reason : String) (position : draw.position = none)
      (reply : draw.reply = .failed reason)
      (same : ∀ scenario, t.pool? scenario = s.pool? scenario)
  | exhausted (pool after : Pool) (position : draw.position = none)
      (reply : draw.reply = .exhausted) (before : s.pool? draw.scenario = some pool)
      (found : t.pool? draw.scenario = some after) (ended : pool.position? = none)
      (advances : pool.Advances after) (served : after.served = pool.served)
      (same : ∀ other, other ≠ draw.scenario → t.pool? other = s.pool? other)
  | record (pool after : Pool) (place : Nat) (record : Json) (position : draw.position = some place)
      (reply : draw.reply = .record record) (before : s.pool? draw.scenario = some pool)
      (found : t.pool? draw.scenario = some after) (here : pool.position? = some place)
      (held : pool.records[place]? = some record) (advances : pool.Advances after)
      (served : after.served = pool.served + 1)
      (same : ∀ other, other ≠ draw.scenario → t.pool? other = s.pool? other)

structure Serves (s : Station) (number : Nat) (draw : Draw) (t : Station) : Prop where
  numbered : draw.number = number
  parked : ∃ ask, s.asks[number]? = some ask ∧ ask.call = draw.call ∧ draw.Answers ask.request ∧
    s.dispenser.parked.find? number = some ask.request
  turn : s.Turn draw t
  accepted : t.dispenser.accepted = s.dispenser.accepted
  rest : t.dispenser.parked = s.dispenser.parked.erase number
  asks : t.asks = s.asks
  draws : t.draws = s.draws ++ [draw]

theorem turn_of_request {draw : Draw} {drawn : Stock.Drawn}
    (turn : s.dispenser.stock.Turn draw.scenario drawn)
    (position : draw.position = (s.pool? draw.scenario).bind Pool.position?)
    (reply : draw.reply = Dispenser.replyOf drawn.outcome)
    (stock : t.dispenser.stock = drawn.stock) : s.Turn draw t := by
  have pools : ∀ scenario, t.pool? scenario = drawn.stock.pools.find? scenario := by
    intro scenario; simp only [pool?, stock]
  cases turn with
  | unknown missing outcome same =>
    refine .unknown _ ?_ (by rw [reply, outcome]; rfl) fun scenario => (pools _).trans (same _)
    rw [position, pool?, missing]; rfl
  | exhausted pool after found ended outcome records cyclic served changed =>
    refine .exhausted pool after ?_ (by rw [reply, outcome]; rfl) found ?_ ended
      ⟨records, cyclic, Nat.le_of_eq served.symm⟩ served ?_
    · rw [position, pool?, found]; exact ended
    · rw [pools, changed, if_pos rfl]
    · intro other apart
      rw [pools, changed, if_neg apart]; rfl
  | record pool after place record found here held outcome records cyclic served changed =>
    refine .record pool after place record ?_ (by rw [reply, outcome]; rfl) found ?_ here held
      ⟨records, cyclic, by omega⟩ served ?_
    · rw [position, pool?, found]; exact here
    · rw [pools, changed, if_pos rfl]
    · intro other apart
      rw [pools, changed, if_neg apart]; rfl

theorem serves_of_serve {number : Nat} {draw : Draw} (sound : s.Sound)
    (done : s.serve number = some (draw, t)) : s.Serves number draw t := by
  unfold serve at done
  split at done
  · split at done
    · rename_i ask served dispenser here drawn
      obtain ⟨rfl, rfl⟩ := Prod.mk.inj (Option.some.inj done)
      obtain ⟨request, found, worker, id, scenario, reply, stock, accepted, parked⟩ :=
        Dispenser.serve_eq_some drawn
      obtain ⟨other, present, same⟩ := sound.parked found
      obtain rfl := Option.some.inj (here.symm.trans present)
      subst same
      refine ⟨rfl, ⟨ask, here, rfl, ⟨id, scenario, worker⟩, found⟩, ?_, accepted, parked, rfl, rfl⟩
      have turn := s.dispenser.stock.request_turn ask.request.scenario ask.request.worker
      refine turn_of_request ?_ rfl reply stock
      rw [← scenario] at turn ⊢
      exact turn
    · cases done
  · cases done

theorem Turn.advances {draw : Draw} (turn : s.Turn draw t) {scenario : ScenarioId} {pool : Pool}
    (found : s.pool? scenario = some pool) :
    ∃ after, t.pool? scenario = some after ∧ pool.Advances after := by
  have own : ∀ {before after : Pool}, s.pool? draw.scenario = some before →
      t.pool? draw.scenario = some after → before.Advances after →
      (∀ other, other ≠ draw.scenario → t.pool? other = s.pool? other) →
      ∃ after, t.pool? scenario = some after ∧ pool.Advances after := by
    intro before after here there advances same
    by_cases addressed : scenario = draw.scenario
    · subst addressed
      obtain rfl := Option.some.inj (here.symm.trans found)
      exact ⟨after, there, advances⟩
    · exact ⟨pool, (same scenario addressed).trans found, .refl pool⟩
  cases turn with
  | unknown _ _ _ same => exact ⟨pool, (same scenario).trans found, .refl pool⟩
  | exhausted before after _ _ here there _ advances _ same => exact own here there advances same
  | record before after _ _ _ _ here there _ _ advances _ same => exact own here there advances same

theorem Turn.before {draw : Draw} (turn : s.Turn draw t) {scenario : ScenarioId} {after : Pool}
    (found : t.pool? scenario = some after) :
    ∃ pool, s.pool? scenario = some pool ∧ pool.Advances after := by
  have present : (s.pool? scenario).isSome := by
    by_cases addressed : scenario = draw.scenario
    · subst addressed
      cases turn with
      | unknown _ _ _ same => rw [← same, found]; rfl
      | exhausted _ _ _ _ here => rw [here]; rfl
      | record _ _ _ _ _ _ here => rw [here]; rfl
    · cases turn with
      | unknown _ _ _ same => rw [← same, found]; rfl
      | exhausted _ _ _ _ _ _ _ _ _ same => rw [← same scenario addressed, found]; rfl
      | record _ _ _ _ _ _ _ _ _ _ _ _ same => rw [← same scenario addressed, found]; rfl
  obtain ⟨pool, here⟩ := Option.isSome_iff_exists.mp present
  obtain ⟨other, same, advances⟩ := turn.advances here
  obtain rfl := Option.some.inj (found.symm.trans same)
  exact ⟨pool, here, advances⟩

/-! ### Serving keeps the fit -/

section Serving

variable {number : Nat} {draw : Draw}

theorem Serves.mem (serves : s.Serves number draw t) {other : Draw} (member : other ∈ t.draws) :
    other ∈ s.draws ∨ other = draw := by
  simpa [serves.draws] using member

theorem Serves.fresh (serves : s.Serves number draw t) (sound : s.Sound) {other : Draw}
    (member : other ∈ s.draws) : other.number ≠ draw.number := by
  obtain ⟨ask, -, -, -, found⟩ := serves.parked
  rw [serves.numbered]
  exact sound.undrawn found other member

theorem Serves.record (serves : s.Serves number draw t) (sound : s.Sound) :
    ∀ other ∈ t.draws, ∀ record, other.reply = .record record →
      ∃ pool position, t.pool? other.scenario = some pool ∧ other.position = some position ∧
        pool.records[position]? = some record := by
  intro other member record reply
  rcases serves.mem member with old | rfl
  · obtain ⟨pool, position, found, place, held⟩ := sound.record other old record reply
    obtain ⟨after, there, advances⟩ := serves.turn.advances found
    exact ⟨after, position, there, place, by rw [advances.records, held]⟩
  · cases serves.turn with
    | unknown _ _ failed => rw [failed] at reply; cases reply
    | exhausted _ _ _ ended => rw [ended] at reply; cases reply
    | record pool after place drawn position same before found here held advances =>
      rw [same] at reply
      obtain rfl := DataReply.record.inj reply
      exact ⟨after, place, found, position, by rw [advances.records, held]⟩

theorem Serves.located (serves : s.Serves number draw t) (sound : s.Sound) :
    ∀ other ∈ t.draws, ∀ position, other.position = some position →
      ∃ pool, t.pool? other.scenario = some pool ∧ (∃ record, other.reply = .record record) ∧
        (pool.cyclic = false → position < pool.served) := by
  intro other member position place
  rcases serves.mem member with old | rfl
  · obtain ⟨pool, found, record, below⟩ := sound.located other old position place
    obtain ⟨after, there, advances⟩ := serves.turn.advances found
    refine ⟨after, there, record, fun once => ?_⟩
    exact Nat.lt_of_lt_of_le (below (advances.cyclic.symm.trans once)) advances.served
  · cases serves.turn with
    | unknown _ none => rw [none] at place; cases place
    | exhausted _ _ none => rw [none] at place; cases place
    | record pool after _ drawn same reply before found here held advances served =>
      rw [same] at place
      obtain rfl := Option.some.inj place
      refine ⟨after, found, ⟨drawn, reply⟩, fun once => ?_⟩
      have latest := Pool.position?_of_not_cyclic (advances.cyclic.symm.trans once) here
      omega

theorem Serves.exhausted (serves : s.Serves number draw t) (sound : s.Sound) :
    ∀ other ∈ t.draws, other.reply = .exhausted →
      ∃ pool, t.pool? other.scenario = some pool ∧
        (pool.cyclic = false → pool.records.length ≤ pool.served) := by
  intro other member reply
  rcases serves.mem member with old | rfl
  · obtain ⟨pool, found, done⟩ := sound.exhausted other old reply
    obtain ⟨after, there, advances⟩ := serves.turn.advances found
    refine ⟨after, there, fun once => ?_⟩
    rw [advances.records]
    exact Nat.le_trans (done (advances.cyclic.symm.trans once)) advances.served
  · cases serves.turn with
    | unknown _ _ failed => rw [failed] at reply; cases reply
    | exhausted pool after _ _ _ found ended advances served =>
      refine ⟨after, found, fun once => ?_⟩
      rw [advances.records, served]
      exact Pool.length_le_served (advances.cyclic.symm.trans once) ended
    | record _ _ _ _ _ drawn => rw [drawn] at reply; cases reply

/-- The position of a new draw is above those of all draws before it. -/
theorem Serves.above (serves : s.Serves number draw t) (sound : s.Sound) {other : Draw}
    (old : other ∈ s.draws) (same : other.scenario = draw.scenario) {pool : Pool}
    (found : t.pool? draw.scenario = some pool) (once : pool.cyclic = false) {position : Nat}
    (place : draw.position = some position) : other.position ≠ some position := by
  intro taken
  obtain ⟨before, here, -, below⟩ := sound.located other old position taken
  rw [same] at here
  cases serves.turn with
  | unknown _ none => rw [none] at place; cases place
  | exhausted _ _ none => rw [none] at place; cases place
  | record old after _ _ latest _ present there drawn _ advances =>
    obtain rfl := Option.some.inj (here.symm.trans present)
    obtain rfl := Option.some.inj (found.symm.trans there)
    obtain rfl := Option.some.inj (latest.symm.trans place)
    have plain := advances.cyclic.symm.trans once
    have := below plain
    have := (Pool.position?_of_not_cyclic plain drawn).1
    omega

theorem Serves.apart (serves : s.Serves number draw t) (sound : s.Sound) :
    ∀ one ∈ t.draws, ∀ other ∈ t.draws, one.scenario = other.scenario →
      ∀ pool, t.pool? one.scenario = some pool → pool.cyclic = false →
        ∀ position, one.position = some position → other.position = some position →
          one = other := by
  intro one first other second same pool found once position place taken
  rcases serves.mem first with old | rfl <;> rcases serves.mem second with older | rfl
  · obtain ⟨before, here, advances⟩ := serves.turn.before found
    exact sound.apart one old other older same before here (advances.cyclic.symm.trans once)
      position place taken
  · rw [same] at found
    exact absurd place (serves.above sound old same found once taken)
  · exact absurd taken (serves.above sound older same.symm found once place)
  · rfl

theorem Serves.complete (serves : s.Serves number draw t) (sound : s.Sound) :
    ∀ scenario pool, t.pool? scenario = some pool → pool.cyclic = false →
      ∀ position, position < pool.served →
        ∃ other ∈ t.draws, other.scenario = scenario ∧ other.position = some position := by
  intro scenario pool found once position below
  have older : ∀ before : Pool, s.pool? scenario = some before → before.cyclic = false →
      position < before.served →
      ∃ other ∈ t.draws, other.scenario = scenario ∧ other.position = some position := by
    intro before here plain under
    obtain ⟨other, member, named, place⟩ := sound.complete scenario before here plain position under
    exact ⟨other, by simp [serves.draws, member], named, place⟩
  obtain ⟨before, here, advances⟩ := serves.turn.before found
  have plain := advances.cyclic.symm.trans once
  by_cases addressed : scenario = draw.scenario
  · subst addressed
    cases serves.turn with
    | unknown _ _ _ same =>
      rw [same, here] at found
      exact older before here plain (Option.some.inj found ▸ below)
    | exhausted _ after _ _ present there _ _ served =>
      obtain rfl := Option.some.inj (here.symm.trans present)
      obtain rfl := Option.some.inj (found.symm.trans there)
      exact older before here plain (by omega)
    | record _ after place _ latest _ present there drawn _ _ served =>
      obtain rfl := Option.some.inj (here.symm.trans present)
      obtain rfl := Option.some.inj (found.symm.trans there)
      by_cases under : position < before.served
      · exact older before here plain under
      · -- the only position that is new is the one of this draw
        have last := (Pool.position?_of_not_cyclic plain drawn).1
        refine ⟨draw, by simp [serves.draws], rfl, ?_⟩
        rw [latest, last]
        congr 1
        omega
  · have same : t.pool? scenario = s.pool? scenario := by
      cases serves.turn with
      | unknown _ _ _ same => exact same scenario
      | exhausted _ _ _ _ _ _ _ _ _ same => exact same scenario addressed
      | record _ _ _ _ _ _ _ _ _ _ _ _ same => exact same scenario addressed
    rw [same, here] at found
    exact older before here plain (Option.some.inj found ▸ below)

theorem sound_serve (sound : s.Sound) (done : s.serve number = some (draw, t)) : t.Sound := by
  have serves := serves_of_serve sound done
  refine ⟨?_, ?_, ?_, ?_, ?_, serves.record sound, serves.located sound, serves.exhausted sound,
    serves.apart sound, serves.complete sound⟩
  · rw [serves.asks, serves.accepted, sound.counted]
  · intro other request found
    rw [serves.rest, Table.find?_erase] at found
    rw [serves.asks]
    split at found
    · cases found
    · exact sound.parked found
  · intro other request found drawn member
    rw [serves.rest, Table.find?_erase] at found
    split at found
    · cases found
    · rename_i kept
      rcases serves.mem member with old | rfl
      · exact sound.undrawn found drawn old
      · rw [serves.numbered]
        exact fun same => kept same.symm
  · intro drawn member
    rw [serves.asks]
    rcases serves.mem member with old | rfl
    · exact sound.asked drawn old
    · obtain ⟨ask, here, call, answers, -⟩ := serves.parked
      exact ⟨ask, by rw [serves.numbered, here], call, answers⟩
  · intro one first other second same
    rcases serves.mem first with old | rfl <;> rcases serves.mem second with older | rfl
    · exact sound.once one old other older same
    · exact absurd same (serves.fresh sound old)
    · exact absurd same.symm (serves.fresh sound older)
    · rfl

end Serving

end Station

end Muster
