import Muster.Proofs.Record.Resolution

/-!
Which records calls get. When every call gets its own reply, a call that returns with a record was
given the record at one position of the pool it asked for; no other call is given that position of
a pool that is not cyclic, and a call learns that such a pool is exhausted only after every position
was drawn.
-/

namespace Muster.Supply

variable {s : Supply}

def poolOf (s : Supply) (k : Nat) (scenario : ScenarioId) : Option Pool :=
  (s.stations[k]?).bind fun station => station.pool? scenario

/-- The position was drawn for the call, and the reply came through to it. -/
def Gets (s : Supply) (number k : Nat) (scenario : ScenarioId) (position : Nat) : Prop :=
  ∃ receipt : Receipt, s.view.Reaches receipt.stamp number ∧ s.Drew k receipt.draw ∧
    receipt.draw.call = number ∧ receipt.draw.scenario = scenario ∧
    receipt.draw.position = some position

def Spent (s : Supply) (k : Nat) (scenario : ScenarioId) (position : Nat) : Prop :=
  ∃ draw, s.Drew k draw ∧ draw.scenario = scenario ∧ draw.position = some position

/-- A call gets one position of one pool. -/
theorem gets_unique (stocked : s.Stocked) {number k l : Nat} {scenario other : ScenarioId}
    {position place : Nat} (one : s.Gets number k scenario position)
    (two : s.Gets number l other place) : k = l ∧ scenario = other ∧ position = place := by
  obtain ⟨receipt, -, drew, made, rfl, here⟩ := one
  obtain ⟨again, -, redrew, remade, rfl, there⟩ := two
  obtain ⟨rfl, same⟩ := stocked.drew_once drew redrew (made.trans remade.symm)
  rw [same] at here ⊢
  exact ⟨rfl, rfl, Option.some.inj (here.symm.trans there)⟩

/-- A position of a pool that is not cyclic goes to one call. -/
theorem gets_once (stocked : s.Stocked) {k : Nat} {scenario : ScenarioId} {pool : Pool}
    (found : s.poolOf k scenario = some pool) (once : pool.cyclic = false)
    {number other position : Nat} (one : s.Gets number k scenario position)
    (two : s.Gets other k scenario position) : number = other := by
  obtain ⟨receipt, -, ⟨station, here, member⟩, rfl, named, place⟩ := one
  obtain ⟨again, -, ⟨rival, there, present⟩, rfl, same, taken⟩ := two
  obtain rfl := Option.some.inj (here.symm.trans there)
  rw [poolOf, here, Option.bind_some] at found
  rw [← named] at found
  have draws := (stocked.sound here).apart _ member _ present (named.trans same.symm) pool found
    once position place taken
  rw [draws]

theorem reply_of_returned (answered : s.Answered) (own : s.view.OwnReplies) {number : Nat}
    {outcome : DataOutcome} (returned : (number, .ok outcome) ∈ s.returned) :
    ∃ (call : DataCall) (receipt : Receipt) (k : Nat), s.calls[number]? = some call ∧
      s.view.Reaches receipt.stamp number ∧
      s.Drew k receipt.draw ∧ receipt.draw.call = number ∧
      receipt.draw.scenario = call.scenario ∧
      Requester.accept receipt.draw.reply = .ok outcome := by
  obtain ⟨receipt, arrived, reaches, accepted⟩ := answered.returned returned
  obtain ⟨⟨drew, -⟩, response⟩ := answered.tracked.receipts arrived
  obtain ⟨call, made, -, scenario, -⟩ := answered.tracked.stocked.call_of_drew drew
  have mine : receipt.draw.call = number := own receipt.stamp number reaches
  rw [mine] at made
  rw [response] at accepted
  exact ⟨call, receipt, receipt.station, made, reaches, drew, mine, scenario.symm, accepted⟩

theorem record_of_returned (answered : s.Answered) (own : s.view.OwnReplies)
    {number : Nat} {record : Json} (returned : (number, .ok (.record record)) ∈ s.returned) :
    ∃ call k pool position, s.calls[number]? = some call ∧
      s.poolOf k call.scenario = some pool ∧ pool.records[position]? = some record ∧
      s.Gets number k call.scenario position := by
  obtain ⟨call, receipt, k, made, reaches, ⟨station, found, member⟩, mine, scenario, accepted⟩ :=
    reply_of_returned answered own returned
  have reply : receipt.draw.reply = .record record := by
    cases same : receipt.draw.reply with
    | record => rw [same] at accepted; cases accepted; rfl
    | exhausted => rw [same] at accepted; cases accepted
    | failed => rw [same] at accepted; cases accepted
  obtain ⟨pool, position, holds, place, held⟩ :=
    (answered.tracked.stocked.sound found).record _ member record reply
  rw [scenario] at holds
  refine ⟨call, k, pool, position, made, ?_, held, ?_⟩
  · rw [poolOf, found, Option.bind_some, holds]
  · exact ⟨receipt, reaches, ⟨station, found, member⟩, mine, scenario, place⟩

theorem spent_of_exhausted (answered : s.Answered) (own : s.view.OwnReplies)
    {number : Nat} (returned : (number, .ok .exhausted) ∈ s.returned) :
    ∃ call k pool, s.calls[number]? = some call ∧ s.poolOf k call.scenario = some pool ∧
      (pool.cyclic = false →
        ∀ position, position < pool.records.length → s.Spent k call.scenario position) := by
  obtain ⟨call, receipt, k, made, reaches, ⟨station, found, member⟩, -, scenario, accepted⟩ :=
    reply_of_returned answered own returned
  have reply : receipt.draw.reply = .exhausted := by
    cases same : receipt.draw.reply with
    | record => rw [same] at accepted; cases accepted
    | exhausted => rfl
    | failed => rw [same] at accepted; cases accepted
  have sound := answered.tracked.stocked.sound found
  obtain ⟨pool, holds, full⟩ := sound.exhausted _ member reply
  rw [scenario] at holds
  refine ⟨call, k, pool, made, ?_, fun once position below => ?_⟩
  · rw [poolOf, found, Option.bind_some, holds]
  · obtain ⟨draw, drawn, named, place⟩ := sound.complete call.scenario pool holds once position
      (Nat.lt_of_lt_of_le below (full once))
    exact ⟨draw, ⟨station, found, drawn⟩, named, place⟩

/-! ### Workers that start once -/

/-- Where every worker starts once, records are handed out call by call, whatever the order of
requests, replies, timeouts, cancellations and openings of the barrier. -/
theorem records_reach_one_call (actions : List Action)
    (distinct : ((run {} actions).sites.map (·.worker)).Nodup) :
    (∀ number record, (number, .ok (.record record)) ∈ (run {} actions).returned →
      ∃ call k pool position, (run {} actions).calls[number]? = some call ∧
        (run {} actions).poolOf k call.scenario = some pool ∧
        pool.records[position]? = some record ∧
        (run {} actions).Gets number k call.scenario position) ∧
    (∀ number k scenario position l other place, (run {} actions).Gets number k scenario position →
      (run {} actions).Gets number l other place →
        k = l ∧ scenario = other ∧ position = place) ∧
    (∀ k scenario pool, (run {} actions).poolOf k scenario = some pool → pool.cyclic = false →
      ∀ number other position, (run {} actions).Gets number k scenario position →
        (run {} actions).Gets other k scenario position → number = other) ∧
    (∀ number, (number, .ok .exhausted) ∈ (run {} actions).returned →
      ∃ call k pool, (run {} actions).calls[number]? = some call ∧
        (run {} actions).poolOf k call.scenario = some pool ∧
        (pool.cyclic = false → ∀ position, position < pool.records.length →
          (run {} actions).Spent k call.scenario position)) := by
  have answered := answered_run answered_empty actions
  have stocked := answered.tracked.stocked
  have own := Correspondence.ownReplies_of_nodup answered.sound (by rwa [nodes_view])
  refine ⟨fun number record returned => ?_, fun number k scenario position l other place => ?_,
    fun k scenario pool found once number other position => ?_, fun number returned => ?_⟩
  · exact record_of_returned answered own returned
  · exact gets_unique stocked
  · exact gets_once stocked found once
  · exact spent_of_exhausted answered own returned

/-- Two workers share a pool of one record; the reply to the second overtakes that to the first. -/
def sharedPool : List Action :=
  [.openStation {} .still [{ scenario := "login", sources := [.inline [.int 7]] }],
    .start "a" (some 0) 1000, .start "b" (some 0) 1000, .request 0 "login", .request 1 "login",
    .submit 0 none, .submit 1 none, .wait 0 0, .wait 1 0, .work 0 (.release 2), .look 0 0,
    .look 0 1, .serve 0 0, .serve 0 1, .send 1 false, .send 0 false, .deliver 0, .deliver 0,
    .returns 1 5, .returns 0 5]

theorem records_reach_one_call_shared :
    ((run {} sharedPool).sites.map (·.worker)).Nodup ∧
    (run {} sharedPool).returned = [(1, .ok .exhausted), (0, .ok (.record (.int 7)))] ∧
    (∃ call k pool position, (run {} sharedPool).calls[0]? = some call ∧
      (run {} sharedPool).poolOf k call.scenario = some pool ∧
      pool.records[position]? = some (.int 7) ∧
      (run {} sharedPool).Gets 0 k call.scenario position) ∧
    ∃ call k pool, (run {} sharedPool).calls[1]? = some call ∧
      (run {} sharedPool).poolOf k call.scenario = some pool ∧
      (pool.cyclic = false → ∀ position, position < pool.records.length →
        (run {} sharedPool).Spent k call.scenario position) := by
  have distinct : ((run {} sharedPool).sites.map (·.worker)).Nodup := by decide
  have ended : (run {} sharedPool).returned =
      [(1, .ok .exhausted), (0, .ok (.record (.int 7)))] := by decide
  obtain ⟨records, -, -, exhausted⟩ := records_reach_one_call sharedPool distinct
  exact ⟨distinct, ended, records 0 (.int 7) (by simp [ended]), exhausted 1 (by simp [ended])⟩

end Muster.Supply
