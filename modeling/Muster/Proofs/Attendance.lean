import Mathlib.Data.Option.Basic
import Muster.Proofs.Pending.Orphans
import Muster.Proofs.Run.Ending

/-!
The callers of one process, which may be dropped where they wait. Its tables of requests know of
callers that wait and of nobody else as long as no caller is dropped before its request is settled;
the first that is stays in the table, and the end of the process counts it.
-/

namespace Muster

namespace Pending

variable {α : Type} {p : Pending α}

/-- What is done to a table on behalf of one request. -/
inductive Use (α : Type)
  | rests
  | does (action : Action α)
  | withdraws (id : Nat)

def use (p : Pending α) : Use α → Pending α
  | .rests => p
  | .does action => p.step action
  | .withdraws id => ((p.forget id).abandon id).2

theorem regular_use (regular : p.Regular) (use : Use α) : (p.use use).Regular := by
  cases use with
  | rests => exact regular
  | does action => exact regular_step regular action
  | withdraws id => exact regular_step (regular_step regular (.forget id)) (.abandon id)

theorem tended_use (tended : p.Tended) (use : Use α) :
    (p.use use).Tended ↔ ¬∃ action, use = .does action ∧ p.Deserts action := by
  cases use with
  | rests => exact iff_of_true tended nofun
  | does action =>
    have own : (∃ other, Use.does action = .does other ∧ p.Deserts other) ↔ p.Deserts action :=
      ⟨fun ⟨_, same, deserts⟩ => Use.does.inj same ▸ deserts, fun deserts => ⟨_, rfl, deserts⟩⟩
    exact (tended_step tended action).trans (not_congr own.symm)
  | withdraws id => exact iff_of_true (tended_withdraw tended id) nofun

end Pending

namespace Requester

variable {ℓ : Type} {r : Requester ℓ}

inductive Action
  | request (scenario : ScenarioId)
  | withdraw (id : Nat)
  | wait (id : Nat) (time : Nat)
  | deliver (response : DataResponse)
  | cancelAll
  | returns (id : Nat) (time : Nat)
  /-- the caller is dropped -/
  | abandon (id : Nat)

/-- A requester without a link answers a call on the spot. -/
def step (r : Requester ℓ) : Action → Requester ℓ
  | .request scenario => if r.link.isSome then (r.register scenario).2 else r
  | .withdraw id => r.withdraw id
  | .wait id time => r.wait id time
  | .deliver response => (r.deliver response).2.1
  | .cancelAll => r.cancelAll.2
  | .returns id time => ((r.resolve id time).map (·.2)).getD r
  | .abandon id => { r with pending := (r.pending.abandon id).2 }

def use (r : Requester ℓ) : Action → Pending.Use DataReply
  | .request _ => if r.link.isSome then .does .register else .rests
  | .withdraw id => .withdraws id
  | .wait id time => .does (.wait id r.timeout time)
  | .deliver response => .does (.complete response.id response.reply)
  | .cancelAll => .does .cancelAll
  | .returns id time => .does (.resolve id time)
  | .abandon id => .does (.abandon id)

theorem pending_step (r : Requester ℓ) (action : Action) :
    (r.step action).pending = r.pending.use (r.use action) := by
  cases action with
  | request scenario =>
    simp only [step, use]
    split <;> rfl
  | returns id time =>
    simp only [step, use, resolve, Pending.use, Pending.step]
    cases r.pending.resolve id time <;> rfl
  | withdraw | wait | deliver | cancelAll | abandon => rfl

def Deserts (r : Requester ℓ) (action : Action) : Prop :=
  ∃ id, action = .abandon id ∧ r.pending.Outstanding id

theorem deserts_iff {action : Action} :
    r.Deserts action ↔ ∃ done, r.use action = .does done ∧ r.pending.Deserts done := by
  cases action with
  | request scenario =>
    simp only [use]
    split <;> simp [Deserts, Pending.Deserts]
  | withdraw | wait | deliver | cancelAll | returns | abandon =>
    simp [Deserts, use, Pending.Deserts]

theorem regular_step (regular : r.pending.Regular) (action : Action) :
    (r.step action).pending.Regular :=
  pending_step r action ▸ Pending.regular_use regular _

theorem tended_step (tended : r.pending.Tended) (action : Action) :
    (r.step action).pending.Tended ↔ ¬r.Deserts action := by
  rw [pending_step, Pending.tended_use tended, deserts_iff]

end Requester

namespace TokenClient

variable {c : TokenClient}

inductive Action
  | request (identity : Identity) (now : Millis)
  | withdraw (id : Nat)
  | wait (id : Nat) (time : Nat)
  | deliver (delivery : TokenDelivery)
  | cancelAll
  | returns (identity : Identity) (id : Nat) (time : Nat) (now : Millis)
  /-- the caller is dropped -/
  | abandon (id : Nat)

/-- A fresh token in the cache answers a call on the spot. -/
def step (c : TokenClient) : Action → TokenClient
  | .request identity now => if (c.fresh? identity now).isSome then c else (c.register identity).2
  | .withdraw id => c.withdraw id
  | .wait id time => c.wait id time
  | .deliver delivery => (c.deliver delivery).2.1
  | .cancelAll => c.cancelAll.2
  | .returns identity id time now => ((c.resolve identity id time now).map (·.2)).getD c
  | .abandon id => { c with pending := (c.pending.abandon id).2 }

def use (c : TokenClient) : Action → Pending.Use TokenDelivery
  | .request identity now => if (c.fresh? identity now).isSome then .rests else .does .register
  | .withdraw id => .withdraws id
  | .wait id time => .does (.wait id c.timeout time)
  | .deliver delivery => .does (.complete delivery.id delivery)
  | .cancelAll => .does .cancelAll
  | .returns _ id time _ => .does (.resolve id time)
  | .abandon id => .does (.abandon id)

theorem pending_step (c : TokenClient) (action : Action) :
    (c.step action).pending = c.pending.use (c.use action) := by
  cases action with
  | request identity now =>
    simp only [step, use]
    split <;> rfl
  | returns identity id time now =>
    simp only [step, use, resolve, Pending.use, Pending.step]
    cases c.pending.resolve id time <;> rfl
  | withdraw | wait | deliver | cancelAll | abandon => rfl

def Deserts (c : TokenClient) (action : Action) : Prop :=
  ∃ id, action = .abandon id ∧ c.pending.Outstanding id

theorem deserts_iff {action : Action} :
    c.Deserts action ↔ ∃ done, c.use action = .does done ∧ c.pending.Deserts done := by
  cases action with
  | request identity now =>
    simp only [use]
    split <;> simp [Deserts, Pending.Deserts]
  | withdraw | wait | deliver | cancelAll | returns | abandon =>
    simp [Deserts, use, Pending.Deserts]

theorem regular_step (regular : c.pending.Regular) (action : Action) :
    (c.step action).pending.Regular :=
  pending_step c action ▸ Pending.regular_use regular _

theorem tended_step (tended : c.pending.Tended) (action : Action) :
    (c.step action).pending.Tended ↔ ¬c.Deserts action := by
  rw [pending_step, Pending.tended_use tended, deserts_iff]

end TokenClient

namespace Site

variable {s : Site}

/-- What is done to a process, as far as its callers are concerned. -/
inductive Deed
  | data (action : Requester.Action)
  | tokens (action : TokenClient.Action)
  | teardown (hub : Hub Handler Link)
  /-- the rest of the process becomes whatever it likes -/
  | rest (next : Site)

def deed (s : Site) : Deed → Site
  | .data action => { s with requester := s.requester.map (·.step action) }
  | .tokens action => { s with client := s.client.map (·.step action) }
  | .teardown hub => (s.teardown hub).2.1
  | .rest next => { next with requester := s.requester, client := s.client }

/-- A caller of the process is dropped while its request can still be answered. -/
def Deserts (s : Site) : Deed → Prop
  | .data action => ∃ requester ∈ s.requester, requester.Deserts action
  | .tokens action => ∃ client ∈ s.client, client.Deserts action
  | .teardown _ | .rest _ => False

theorem not_deserts_data {action : Requester.Action} (stays : ∀ id, action ≠ .abandon id) :
    ¬s.Deserts (.data action) := fun ⟨_, _, id, same, _⟩ => stays id same

theorem not_deserts_tokens {action : TokenClient.Action} (stays : ∀ id, action ≠ .abandon id) :
    ¬s.Deserts (.tokens action) := fun ⟨_, _, id, same, _⟩ => stays id same

def dataAwaiting (s : Site) : Nat :=
  s.requester.elim 0 fun requester => requester.pending.awaiting.length

def tokenAwaiting (s : Site) : Nat := s.client.elim 0 fun client => client.pending.awaiting.length

/-- What the tables of a process count are its callers that wait, and these its end cancels. -/
structure Attended (s : Site) : Prop where
  data : ∀ requester ∈ s.requester, requester.pending.Attended
  tokens : ∀ client ∈ s.client, client.pending.Attended
  counted : ∀ hub, (s.teardown hub).1.cancelled =
    s.dataAwaiting + s.tokenAwaiting + s.cancelRefreshes.1
  dataCancelled : ∀ hub, ∀ requester ∈ s.requester, ∃ after ∈ (s.teardown hub).2.1.requester,
    ∀ id ∈ requester.pending.awaiting, after.pending.Due id (.error .cancelled)
  tokensCancelled : ∀ hub, ∀ client ∈ s.client, ∃ after ∈ (s.teardown hub).2.1.client,
    ∀ id ∈ client.pending.awaiting, after.pending.Due id (.error .cancelled)

theorem attach_callers {after : Site} {hub later : Hub Handler Link} {table : HandlerTable Handler}
    (attached : s.attach hub table = .ok (after, later)) :
    after.requester = s.requester ∧ after.client = s.client := by
  unfold attach at attached
  split at attached
  · cases attached
  · obtain ⟨rfl, -⟩ := Prod.mk.inj (Except.ok.inj attached)
    exact ⟨rfl, rfl⟩

/-- A process before its end leaves the hub. -/
def stopped (s : Site) : Site :=
  let refreshed := s.cancelData.2.cancelTokens.2.cancelRefreshes.2.stopDispenser.2
  { refreshed with barrier := refreshed.barrier.forceRelease.2 }

theorem stopped_callers (s : Site) :
    s.stopped.requester = s.requester.map (·.cancelAll.2) ∧
      s.stopped.client = s.client.map (·.cancelAll.2) := by
  have refreshes : ∀ s : Site, s.cancelRefreshes.2.requester = s.requester ∧
      s.cancelRefreshes.2.client = s.client := by
    intro s
    unfold cancelRefreshes
    split <;> exact ⟨rfl, rfl⟩
  simp only [stopped, stopDispenser_eq, refreshes, cancelTokens_eq, cancelData_eq, and_self]

theorem teardown_stopped (s : Site) (hub : Hub Handler Link) :
    (s.teardown hub).2.1 = s.stopped ∨
      ∃ later, s.stopped.attach hub ∅ = .ok ((s.teardown hub).2.1, later) := by
  cases attached : s.stopped.attach hub ∅ with
  | error error =>
    refine .inl ?_
    unfold stopped at attached ⊢
    simp only [teardown, attached]
  | ok pair =>
    refine .inr ⟨pair.2, ?_⟩
    unfold stopped at attached
    simp only [teardown, attached]

theorem teardown_callers (s : Site) (hub : Hub Handler Link) :
    (s.teardown hub).2.1.requester = s.requester.map (·.cancelAll.2) ∧
      (s.teardown hub).2.1.client = s.client.map (·.cancelAll.2) := by
  obtain ⟨requester, client⟩ := s.stopped_callers
  rcases s.teardown_stopped hub with same | ⟨later, attached⟩
  · rw [same]
    exact ⟨requester, client⟩
  · obtain ⟨data, tokens⟩ := attach_callers attached
    exact ⟨data.trans requester, tokens.trans client⟩

theorem cancelled_teardown (s : Site) (hub : Hub Handler Link) :
    (s.teardown hub).1.cancelled = s.dataWaits + s.tokenWaits + s.cancelRefreshes.1 := by
  have refreshes : s.cancelData.2.cancelTokens.2.cancelRefreshes.1 = s.cancelRefreshes.1 := by
    rw [cancelTokens_eq, cancelData_eq]
    unfold cancelRefreshes
    cases s.issuer <;> rfl
  have data : s.cancelData.1 = s.dataWaits := by rw [cancelData_eq]
  have tokens : s.cancelData.2.cancelTokens.1 = s.tokenWaits := by
    rw [cancelTokens_eq, cancelData_eq]
    rfl
  rw [← refreshes, ← data, ← tokens]
  rfl

/-! ### Every run of a process -/

structure Regular (s : Site) : Prop where
  data : ∀ requester ∈ s.requester, requester.pending.Regular
  tokens : ∀ client ∈ s.client, client.pending.Regular

structure Tended (s : Site) : Prop where
  data : ∀ requester ∈ s.requester, requester.pending.Tended
  tokens : ∀ client ∈ s.client, client.pending.Tended

theorem regular_deed (regular : s.Regular) (deed : Deed) : (s.deed deed).Regular := by
  have data : ∀ action, ∀ requester ∈ s.requester.map (·.step action),
      requester.pending.Regular := fun action =>
    Option.forall_mem_map.mpr fun requester has =>
      Requester.regular_step (regular.data requester has) action
  have tokens : ∀ action, ∀ client ∈ s.client.map (·.step action), client.pending.Regular :=
    fun action => Option.forall_mem_map.mpr fun client has =>
      TokenClient.regular_step (regular.tokens client has) action
  cases deed with
  | data action => exact ⟨data action, regular.tokens⟩
  | tokens action => exact ⟨regular.data, tokens action⟩
  | teardown hub =>
    obtain ⟨requester, client⟩ := s.teardown_callers hub
    rw [deed]
    exact ⟨requester ▸ data .cancelAll, client ▸ tokens .cancelAll⟩
  | rest next => exact ⟨regular.data, regular.tokens⟩

/-- One action on a part of a process, if it has that part. -/
theorem forall_map_iff {α : Type} {part : Option α} {f : α → α} {P bad : α → Prop}
    (holds : ∀ a ∈ part, P a) (step : ∀ {a}, P a → (P (f a) ↔ ¬bad a)) :
    (∀ a ∈ part.map f, P a) ↔ ¬∃ a ∈ part, bad a := by
  rw [Option.forall_mem_map, not_exists]
  refine forall_congr' fun a => ?_
  rw [not_and]
  exact forall_congr' fun has => step (holds a has)

theorem tended_deed (tended : s.Tended) (deed : Deed) :
    (s.deed deed).Tended ↔ ¬s.Deserts deed := by
  have data := fun action => forall_map_iff tended.data fun {requester} tended =>
    Requester.tended_step (r := requester) tended action
  have tokens := fun action => forall_map_iff tended.tokens fun {client} tended =>
    TokenClient.tended_step (c := client) tended action
  cases deed with
  | data action =>
    exact ⟨fun after => (data action).mp after.data,
      fun clear => ⟨(data action).mpr clear, tended.tokens⟩⟩
  | tokens action =>
    exact ⟨fun after => (tokens action).mp after.tokens,
      fun clear => ⟨tended.data, (tokens action).mpr clear⟩⟩
  | teardown hub =>
    obtain ⟨requester, client⟩ := s.teardown_callers hub
    have noData := (data .cancelAll).mpr (not_deserts_data nofun)
    have noTokens := (tokens .cancelAll).mpr (not_deserts_tokens nofun)
    rw [deed]
    exact iff_of_true ⟨requester ▸ noData, client ▸ noTokens⟩ not_false
  | rest next => exact iff_of_true ⟨tended.data, tended.tokens⟩ not_false

theorem attended_iff_tended (regular : s.Regular) : s.Attended ↔ s.Tended := by
  constructor
  · intro attended
    exact ⟨fun requester has =>
        (Pending.attended_iff_tended (regular.data requester has)).mp (attended.data requester has),
      fun client has =>
        (Pending.attended_iff_tended (regular.tokens client has)).mp (attended.tokens client has)⟩
  · intro tended
    have data : ∀ requester ∈ s.requester, requester.pending.Attended := fun requester has =>
      (Pending.attended_iff_tended (regular.data requester has)).mpr (tended.data requester has)
    have tokens : ∀ client ∈ s.client, client.pending.Attended := fun client has =>
      (Pending.attended_iff_tended (regular.tokens client has)).mpr (tended.tokens client has)
    have dataWaits : s.dataWaits = s.dataAwaiting := by
      unfold Site.dataWaits dataAwaiting
      cases has : s.requester with
      | none => rfl
      | some requester => exact (data requester has).outstanding
    have tokenWaits : s.tokenWaits = s.tokenAwaiting := by
      unfold Site.tokenWaits tokenAwaiting
      cases has : s.client with
      | none => rfl
      | some client => exact (tokens client has).outstanding
    refine ⟨data, tokens, fun hub => ?_, fun hub requester has => ?_, fun hub client has => ?_⟩
    · rw [cancelled_teardown, dataWaits, tokenWaits]
    · rw [(s.teardown_callers hub).1]
      exact ⟨_, Option.mem_map_of_mem _ has, (data requester has).cancels⟩
    · rw [(s.teardown_callers hub).2]
      exact ⟨_, Option.mem_map_of_mem _ has, (tokens client has).cancels⟩

/-- A process that nobody has called yet. -/
structure Uncalled (s : Site) : Prop where
  data : ∀ requester ∈ s.requester, requester.pending = {}
  tokens : ∀ client ∈ s.client, client.pending = {}

theorem attended_iff_none_deserts (uncalled : s.Uncalled) (deeds : List Deed) :
    (∀ k, ((deeds.take k).foldl deed s).Attended) ↔ Avoids deed Deserts s deeds := by
  have regular : s.Regular := by
    constructor
    · intro requester has
      rw [uncalled.data requester has]
      exact Pending.regular_empty
    · intro client has
      rw [uncalled.tokens client has]
      exact Pending.regular_empty
  have tended : s.Tended := by
    constructor
    · intro requester has
      rw [uncalled.data requester has]
      exact fun _ orphaned => Bool.false_ne_true orphaned.1
    · intro client has
      rw [uncalled.tokens client has]
      exact fun _ orphaned => Bool.false_ne_true orphaned.1
  refine holds_throughout_iff regular ((attended_iff_tended regular).mpr tended) deeds
    (fun deed regular => regular_deed regular deed) ?_
  intro s deed regular attended
  rw [attended_iff_tended (regular_deed regular deed)]
  exact tended_deed ((attended_iff_tended regular).mp attended) deed

/-- A worker before its first call. -/
def novice : Site :=
  { role := .worker, node := "w1"
    requester := some { worker := "w1", link := some (.recorder "sink" none), timeout := 30000 }
    client := some { node := "w1", timeout := 30000 } }

theorem uncalled_novice : novice.Uncalled := by
  constructor
  · intro requester has
    obtain rfl := Option.some.inj has
    rfl
  · intro client has
    obtain rfl := Option.some.inj has
    rfl

/-- Both callers are dropped, one after its reply has come and one after it was cancelled. -/
def settling : List Deed :=
  [.data (.request "login"), .data (.wait 1 0), .tokens (.request "ann" 0), .tokens (.wait 1 0),
    .data (.deliver ⟨1, "login", .exhausted⟩), .data (.abandon 1), .teardown {},
    .tokens (.abandon 1)]

theorem attended_iff_none_deserts_settled :
    novice.Uncalled ∧ ∀ k, ((settling.take k).foldl deed novice).Attended := by
  refine ⟨uncalled_novice, (attended_iff_none_deserts uncalled_novice settling).mpr ?_⟩
  have answered : ¬Deserts ((settling.take 5).foldl deed novice) (.data (.abandon 1)) := by
    rintro ⟨requester, has, id, same, outstanding⟩
    obtain rfl := Option.some.inj has
    obtain rfl := Requester.Action.abandon.inj same
    exact absurd outstanding.1 (by decide)
  have cancelled : ¬Deserts ((settling.take 7).foldl deed novice) (.tokens (.abandon 1)) := by
    rintro ⟨client, has, id, same, outstanding⟩
    obtain rfl := Option.some.inj has
    obtain rfl := TokenClient.Action.abandon.inj same
    exact absurd outstanding.1 (by decide)
  simp only [settling, Avoids]
  refine ⟨?_, ?_, ?_, ?_, ?_, answered, not_false, cancelled, trivial⟩ <;>
    simp [Deserts, Requester.Deserts, TokenClient.Deserts]

/-- Both callers are dropped while they wait. -/
def deserting : List Deed :=
  [.data (.request "login"), .data (.wait 1 0), .data (.abandon 1),
    .tokens (.request "ann" 0), .tokens (.wait 1 0), .tokens (.abandon 1)]

/-- Nobody waits, and yet two requests are outstanding and the end of the process cancels two. -/
theorem dropped_callers_counted :
    novice.Uncalled ∧ (deserting.foldl deed novice).dataWaits = 1 ∧
      (deserting.foldl deed novice).tokenWaits = 1 ∧
        (deserting.foldl deed novice).dataAwaiting = 0 ∧
          (deserting.foldl deed novice).tokenAwaiting = 0 ∧
            ((deserting.foldl deed novice).teardown {}).1.cancelled = 2 ∧
              ¬(deserting.foldl deed novice).Attended := by
  refine ⟨uncalled_novice, rfl, rfl, rfl, rfl, rfl, fun attended => ?_⟩
  have counted : 1 = 0 := (attended.data _ rfl).outstanding
  exact absurd counted (by decide)

end Site

end Muster
