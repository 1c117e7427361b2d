import Mathlib.Data.List.Perm.Basic
import Muster.Proofs.Hub

/-!
A hub at work. Nodes attach and detach tables and send messages while tasks run, in any order; what
a handler does while it runs are further steps of the run. A message is known by the step that sent
it. Its handler is bound at that step, and the task keeps it until it runs.
-/

namespace Muster

namespace Hub

variable {η ℓ : Type}

/-- What a sender is told: whether the node has a table with the name. -/
structure Tells (h : Hub η ℓ) (target : NodeId) (name : MessageName)
    (result : Except TransportError (Hub η ℓ)) : Prop where
  ok : (∃ later, result = .ok later) ↔
    ∃ table entry, h.tables.find? target = some table ∧ table.find? name = some entry
  unknownNode : result = .error (.unknownNode target) ↔ h.tables.find? target = none
  unknownMessage : result = .error (.unknownMessage target name) ↔
    ∃ table, h.tables.find? target = some table ∧ table.find? name = none

theorem bound_of_find? {h : Hub η ℓ} {target : NodeId} {name : MessageName}
    {table : HandlerTable η} {entry : HandlerEntry η}
    (attached : h.tables.find? target = some table) (listed : table.find? name = some entry) :
    h.bound target name = .ok entry.handler := by
  simp only [bound, attached, listed]

theorem bound_of_absent {h : Hub η ℓ} {target : NodeId} {name : MessageName}
    (absent : ∀ table entry, h.tables.find? target = some table → table.find? name ≠ some entry) :
    ∃ error, h.bound target name = .error error := by
  unfold bound
  cases attached : h.tables.find? target with
  | none => exact ⟨_, rfl⟩
  | some table =>
    cases listed : table.find? name with
    | none =>
      refine ⟨.unknownMessage target name, ?_⟩
      simp only [listed]
    | some entry => exact absurd listed (absent table entry attached)

theorem tells_send (h : Hub η ℓ) (sender : NodeId) (destination : Destination)
    (name : MessageName) (payload : Json) :
    h.Tells (h.addressee destination) name (h.send sender destination name payload) := by
  unfold send bound
  cases attached : h.tables.find? (h.addressee destination) with
  | none => constructor <;> simp [attached, Except.map]
  | some table =>
    cases listed : table.find? name with
    | none => constructor <;> simp [attached, listed, Except.map]
    | some entry => constructor <;> simp [attached, listed, Except.map]

end Hub

/-- A run of a hub, with the tasks that wait, run and have finished, by the step that sent them. -/
structure Traffic (η ℓ : Type) where
  hub : Hub η ℓ := {}
  steps : Nat := 0
  /-- where the tasks in the inbox come from -/
  origins : List Nat := []
  running : List (Nat × Invocation η) := []
  finished : List ((Nat × Invocation η) × Except HandlerError Unit) := []
  log : List Event := []

namespace Traffic

variable {η ℓ : Type}

inductive Action (η ℓ : Type)
  | attach (node : NodeId) (table : HandlerTable η)
  | detach (node : NodeId)
  | publish (address : String) (link : ℓ)
  | send (sender : NodeId) (destination : Destination) (name : MessageName) (payload : Json)
  /-- a task invokes its handler -/
  | begin (index : Nat)
  /-- a handler returns -/
  | finish (index : Nat) (result : Except HandlerError Unit)

def failure? : (Nat × Invocation η) × Except HandlerError Unit → Option Event
  | ((_, invocation), .error error) =>
    some (Hub.handlerFailedEvent invocation.target invocation.message.name error)
  | (_, .ok ()) => none

def act (t : Traffic η ℓ) : Action η ℓ → Traffic η ℓ
  | .attach node table => { t with hub := t.hub.attach node table }
  | .detach node => { t with hub := (t.hub.detach node).2 }
  | .publish address link => { t with hub := t.hub.publish address link }
  | .send sender destination name payload =>
    match t.hub.send sender destination name payload with
    | .ok hub => { t with hub, origins := t.origins ++ [t.steps] }
    | .error _ => t
  | .begin index =>
    match t.hub.take index, t.origins[index]? with
    | some (invocation, hub), some origin =>
      { t with
        hub
        origins := t.origins.eraseIdx index
        running := t.running ++ [(origin, invocation)] }
    | _, _ => t
  | .finish index result =>
    match t.running[index]? with
    | some row =>
      { t with
        running := t.running.eraseIdx index
        finished := t.finished ++ [(row, result)]
        log := t.log ++ (failure? (row, result)).toList }
    | none => t

def step (t : Traffic η ℓ) (action : Action η ℓ) : Traffic η ℓ :=
  { t.act action with steps := t.steps + 1 }

def after (master : NodeId) (actions : List (Action η ℓ)) : Traffic η ℓ :=
  actions.foldl step { hub := { master } }

def posted? (t : Traffic η ℓ) : Action η ℓ → Option (Invocation η)
  | .send sender destination name payload =>
    let target := t.hub.addressee destination
    (t.hub.bound target name).toOption.map fun handler =>
      ⟨handler, target, ⟨name, sender, payload⟩⟩
  | _ => none

/-- What an action makes of the table of a node: another one, or none. -/
def Action.sets? (node : NodeId) : Action η ℓ → Option (Option (HandlerTable η))
  | .attach other table => if other = node then some (some table) else none
  | .detach other => if other = node then some none else none
  | .publish .. | .send .. | .begin .. | .finish .. => none

/-- The table that a node has after these actions, if it had this one before them. -/
def tableAfter (node : NodeId) (held : Option (HandlerTable η)) (actions : List (Action η ℓ)) :
    Option (HandlerTable η) :=
  actions.foldl (fun held action => (action.sets? node).getD held) held

/-- The tasks that a run spawns, by the step that sent them. -/
def posts (t : Traffic η ℓ) : List (Action η ℓ) → List (Nat × Invocation η)
  | [] => []
  | action :: rest => ((t.posted? action).map (t.steps, ·)).toList ++ posts (t.step action) rest

def waiting (t : Traffic η ℓ) : List (Nat × Invocation η) := t.origins.zip t.hub.inbox

def begun (t : Traffic η ℓ) : List (Nat × Invocation η) := t.running ++ t.finished.map Prod.fst

def sentBy (n : Nat) (rows : List (Nat × Invocation η)) : List (Invocation η) :=
  (rows.filter fun row => row.1 = n).map Prod.snd

variable {t : Traffic η ℓ}

/-! ### Every task is somewhere, once -/

theorem zip_eraseIdx {α β : Type} (left : List α) (right : List β) (i : Nat) :
    (left.zip right).eraseIdx i = (left.eraseIdx i).zip (right.eraseIdx i) := by
  induction left generalizing right i with
  | nil => simp
  | cons a left ih =>
    cases right with
    | nil => simp
    | cons b right =>
      cases i with
      | zero => rfl
      | succ i => simp [ih]

theorem perm_move {α : Type} {rows : List α} {row : α} {i : Nat} (here : rows[i]? = some row)
    (more : List α) : (rows.eraseIdx i ++ (more ++ [row])).Perm (rows ++ more) := by
  obtain ⟨below, rfl⟩ := List.getElem?_eq_some_iff.mp here
  have first : (rows.eraseIdx i ++ (more ++ [rows[i]])).Perm
      (rows[i] :: (rows.eraseIdx i ++ more)) := by
    rw [← List.append_assoc]
    exact List.perm_append_singleton ..
  exact first.trans ((List.getElem_cons_eraseIdx_perm below).append_right more)

/-- A step keeps every task and adds the one that it spawns; it may move one on. -/
structure Moves (t : Traffic η ℓ) (posted : Option (Invocation η)) (s : Traffic η ℓ) : Prop where
  aligned : s.origins.length = s.hub.inbox.length
  perm : (s.waiting ++ s.begun).Perm
    (t.waiting ++ t.begun ++ (posted.map (t.steps, ·)).toList)
  log : s.log = s.finished.filterMap failure?

/-- Tasks are known by the steps that sent them, and the log by what has failed. -/
structure Kept (t : Traffic η ℓ) : Prop where
  aligned : t.origins.length = t.hub.inbox.length
  log : t.log = t.finished.filterMap failure?

theorem moves_hub (kept : t.Kept) {hub : Hub η ℓ} (inbox : hub.inbox = t.hub.inbox) :
    t.Moves none { t with hub } where
  aligned := by rw [inbox]; exact kept.aligned
  perm := by
    rw [Option.map_none, Option.toList_none, List.append_nil, waiting, inbox]
    exact .refl _
  log := kept.log

theorem moves_send (kept : t.Kept) {hub : Hub η ℓ} {invocation : Invocation η}
    (inbox : hub.inbox = t.hub.inbox ++ [invocation]) :
    t.Moves (some invocation) { t with hub, origins := t.origins ++ [t.steps] } where
  aligned := by
    rw [inbox, List.length_append, List.length_append, kept.aligned]
    rfl
  perm := by
    have waits : (t.origins ++ [t.steps]).zip hub.inbox =
        t.waiting ++ [(t.steps, invocation)] := by
      rw [inbox, List.zip_append kept.aligned]
      rfl
    rw [waiting, waits]
    show (t.waiting ++ [(t.steps, invocation)] ++ t.begun).Perm
      (t.waiting ++ t.begun ++ [(t.steps, invocation)])
    rw [List.append_assoc, List.append_assoc]
    exact List.perm_append_comm.append_left t.waiting
  log := kept.log

theorem moves_begin (kept : t.Kept) {index origin : Nat} {invocation : Invocation η}
    (first : t.hub.inbox[index]? = some invocation) (sent : t.origins[index]? = some origin) :
    t.Moves none
      { t with
        hub := { t.hub with inbox := t.hub.inbox.eraseIdx index }
        origins := t.origins.eraseIdx index
        running := t.running ++ [(origin, invocation)] } where
  aligned := by
    rw [List.length_eraseIdx, List.length_eraseIdx, kept.aligned]
  perm := by
    have here : t.waiting[index]? = some (origin, invocation) := by
      rw [waiting, List.getElem?_zip_eq_some]
      exact ⟨sent, first⟩
    have moved := (perm_move here t.running).append_right (t.finished.map Prod.fst)
    rw [Option.map_none, Option.toList_none, List.append_nil, waiting, begun,
      ← zip_eraseIdx]
    simpa only [List.append_assoc, waiting, begun] using moved
  log := kept.log

theorem moves_finish (kept : t.Kept) {index : Nat} {row : Nat × Invocation η}
    (running : t.running[index]? = some row) (result : Except HandlerError Unit) :
    t.Moves none
      { t with
        running := t.running.eraseIdx index
        finished := t.finished ++ [(row, result)]
        log := t.log ++ (failure? (row, result)).toList } where
  aligned := kept.aligned
  perm := by
    have moved := (perm_move running (t.finished.map Prod.fst)).append_left t.waiting
    rw [Option.map_none, Option.toList_none, List.append_nil]
    simpa only [waiting, begun, List.map_append, List.map_cons, List.map_nil] using moved
  log := by
    rw [kept.log, List.filterMap_append]
    cases failed : failure? (row, result) <;> simp [failed]

theorem moves_act (kept : t.Kept) (action : Action η ℓ) :
    t.Moves (t.posted? action) (t.act action) := by
  cases action with
  | attach | detach | publish => exact moves_hub kept rfl
  | send sender destination name payload =>
    rw [act, posted?]
    dsimp only [Hub.send]
    cases t.hub.bound (t.hub.addressee destination) name with
    | error error => exact moves_hub kept rfl
    | ok handler => exact moves_send kept rfl
  | begin index =>
    rw [show t.posted? (.begin index) = none from rfl, act, Hub.take]
    cases first : t.hub.inbox[index]? with
    | none => exact moves_hub kept rfl
    | some invocation =>
      cases sent : t.origins[index]? with
      | none => exact moves_hub kept rfl
      | some origin => exact moves_begin kept first sent
  | finish index result =>
    rw [show t.posted? (.finish index result) = none from rfl, act]
    cases running : t.running[index]? with
    | none => exact moves_hub kept rfl
    | some row => exact moves_finish kept running result

theorem kept_step (kept : t.Kept) (action : Action η ℓ) : (t.step action).Kept :=
  let moves := moves_act kept action
  ⟨moves.aligned, moves.log⟩

/-- A run keeps every task and adds those that it spawns. -/
theorem moves_run (kept : t.Kept) (actions : List (Action η ℓ)) :
    (actions.foldl step t).Kept ∧
      ((actions.foldl step t).waiting ++ (actions.foldl step t).begun).Perm
        (t.waiting ++ t.begun ++ t.posts actions) := by
  induction actions generalizing t with
  | nil =>
    rw [posts, List.append_nil]
    exact ⟨kept, .refl _⟩
  | cons action rest ih =>
    obtain ⟨later, perm⟩ := ih (kept_step kept action)
    have first : ((t.step action).waiting ++ (t.step action).begun).Perm
        (t.waiting ++ t.begun ++ ((t.posted? action).map (t.steps, ·)).toList) :=
      (moves_act kept action).perm
    rw [posts, ← List.append_assoc]
    exact ⟨later, perm.trans (first.append_right _)⟩

/-! ### The tables -/

theorem hub_act (t : Traffic η ℓ) (action : Action η ℓ) :
    (t.act action).hub.master = t.hub.master ∧ ∀ node,
      (t.act action).hub.tables.find? node =
        (action.sets? node).getD (t.hub.tables.find? node) := by
  cases action with
  | attach other table =>
    refine ⟨rfl, fun node => ?_⟩
    show (t.hub.tables.insert other table).find? node = _
    rw [Table.find?_insert, Action.sets?]
    split
    · rename_i same
      rw [if_pos same.symm, Option.getD_some]
    · rename_i apart
      rw [if_neg (Ne.symm apart), Option.getD_none]
  | detach other =>
    refine ⟨rfl, fun node => ?_⟩
    show (t.hub.tables.erase other).find? node = _
    rw [Table.find?_erase, Action.sets?]
    split
    · rename_i same
      rw [if_pos same.symm, Option.getD_some]
    · rename_i apart
      rw [if_neg (Ne.symm apart), Option.getD_none]
  | publish => exact ⟨rfl, fun _ => rfl⟩
  | send sender destination name payload =>
    rw [act, Hub.send]
    cases t.hub.bound (t.hub.addressee destination) name <;> exact ⟨rfl, fun _ => rfl⟩
  | begin index =>
    rw [act, Hub.take]
    cases t.hub.inbox[index]? <;> cases t.origins[index]? <;> exact ⟨rfl, fun _ => rfl⟩
  | finish index =>
    rw [act]
    cases t.running[index]? <;> exact ⟨rfl, fun _ => rfl⟩

theorem hub_run (t : Traffic η ℓ) (actions : List (Action η ℓ)) :
    (actions.foldl step t).hub.master = t.hub.master ∧ ∀ node,
      (actions.foldl step t).hub.tables.find? node =
        tableAfter node (t.hub.tables.find? node) actions := by
  induction actions generalizing t with
  | nil => exact ⟨rfl, fun _ => rfl⟩
  | cons action rest ih =>
    obtain ⟨master, tables⟩ := ih (t.step action)
    refine ⟨master.trans (t.hub_act action).1, fun node => ?_⟩
    have first : (t.step action).hub.tables.find? node =
        (action.sets? node).getD (t.hub.tables.find? node) := (t.hub_act action).2 node
    rw [List.foldl_cons, tables, first]
    rfl

/-! ### The tasks of one message -/

theorem steps_le_of_mem_posts {actions : List (Action η ℓ)} {row : Nat × Invocation η}
    (member : row ∈ t.posts actions) : t.steps ≤ row.1 := by
  induction actions generalizing t with
  | nil => cases member
  | cons action rest ih =>
    rcases List.mem_append.mp member with here | later
    · obtain ⟨invocation, -, rfl⟩ := Option.map_eq_some_iff.mp (Option.mem_toList.mp here)
      exact Nat.le_refl _
    · exact Nat.le_of_succ_le (ih later)

theorem sentBy_append (n : Nat) (rows more : List (Nat × Invocation η)) :
    sentBy n (rows ++ more) = sentBy n rows ++ sentBy n more := by
  simp only [sentBy, List.filter_append, List.map_append]

theorem sentBy_perm {rows more : List (Nat × Invocation η)} (perm : rows.Perm more) (n : Nat) :
    (sentBy n rows).Perm (sentBy n more) := (perm.filter _).map _

theorem sentBy_eq_nil {n : Nat} {rows : List (Nat × Invocation η)}
    (apart : ∀ row ∈ rows, row.1 ≠ n) : sentBy n rows = [] := by
  rw [sentBy, List.map_eq_nil_iff, List.filter_eq_nil_iff]
  intro row member
  rw [decide_eq_true_eq]
  exact apart row member

/-- A step of a run spawns what it spawns in the state it meets. -/
theorem sentBy_posts (t : Traffic η ℓ) (actions : List (Action η ℓ)) (n : Nat) :
    sentBy (t.steps + n) (t.posts actions) =
      (actions[n]?.bind ((actions.take n).foldl step t).posted?).toList := by
  induction actions generalizing t n with
  | nil => rfl
  | cons action rest ih =>
    rw [posts, sentBy_append]
    -- the first step sends under its own number, and the later ones under higher numbers
    cases n with
    | zero =>
      have later : sentBy (t.steps + 0) ((t.step action).posts rest) = [] := by
        refine sentBy_eq_nil fun row member => ?_
        have above : t.steps + 1 ≤ row.1 := steps_le_of_mem_posts member
        omega
      rw [later, List.append_nil]
      show sentBy t.steps ((t.posted? action).map (t.steps, ·)).toList =
        (t.posted? action).toList
      cases t.posted? action <;> simp [sentBy]
    | succ n =>
      have first :
          sentBy (t.steps + (n + 1)) ((t.posted? action).map (t.steps, ·)).toList = [] := by
        refine sentBy_eq_nil fun row member => ?_
        obtain ⟨invocation, -, rfl⟩ := Option.map_eq_some_iff.mp (Option.mem_toList.mp member)
        show t.steps ≠ t.steps + (n + 1)
        omega
      have next : t.steps + (n + 1) = (t.step action).steps + n := by
        show _ = t.steps + 1 + n
        omega
      rw [first, List.nil_append, next]
      exact ih (t.step action) n

/-! ### Every run -/

variable {master : NodeId} {actions : List (Action η ℓ)}

theorem kept_begin (master : NodeId) : Kept ({ hub := { master } } : Traffic η ℓ) := ⟨rfl, rfl⟩

def waits (t : Traffic η ℓ) (n : Nat) : List (Invocation η) := sentBy n t.waiting

/-- The invocations that came of a step of the run. -/
def invoked (t : Traffic η ℓ) (n : Nat) : List (Invocation η) := sentBy n t.begun

theorem tasks_of_step (master : NodeId) (actions : List (Action η ℓ)) (n : Nat) :
    (after master actions).waits n ++ (after master actions).invoked n =
      (actions[n]?.bind (after master (actions.take n)).posted?).toList := by
  have perm : ((after master actions).waiting ++ (after master actions).begun).Perm
      (posts { hub := { master } } actions) := (moves_run (kept_begin master) actions).2
  have posted : sentBy n (posts { hub := { master } } actions) =
      (actions[n]?.bind (after master (actions.take n)).posted?).toList := by
    have sent := sentBy_posts ({ hub := { master } } : Traffic η ℓ) actions n
    rw [Nat.zero_add] at sent
    exact sent
  have same := sentBy_perm perm n
  rw [sentBy_append, posted] at same
  -- at most one task comes of a step, so that their order does not matter
  cases spawned : actions[n]?.bind (after master (actions.take n)).posted? with
  | none =>
    rw [spawned] at same
    exact same.eq_nil
  | some invocation =>
    rw [spawned] at same
    exact List.perm_singleton.mp same

/-- What becomes of a message that step `n` of a run sends from a hub. -/
structure Carried (t : Traffic η ℓ) (n : Nat) (h : Hub η ℓ) (sender target : NodeId)
    (name : MessageName) (payload : Json) : Prop where
  once : ∀ {table entry}, h.tables.find? target = some table → table.find? name = some entry →
    t.waits n = [⟨entry.handler, target, ⟨name, sender, payload⟩⟩] ∧ t.invoked n = [] ∨
      t.waits n = [] ∧ t.invoked n = [⟨entry.handler, target, ⟨name, sender, payload⟩⟩]
  never : (∀ table entry, h.tables.find? target = some table → table.find? name ≠ some entry) →
    t.waits n = [] ∧ t.invoked n = []

/-- What a hub does with the tables and the messages of a run. -/
structure Carries (master : NodeId) (actions : List (Action η ℓ)) : Prop where
  home : (after master actions).hub.master = master
  tables : ∀ node, (after master actions).hub.tables.find? node = tableAfter node none actions
  told : ∀ {n sender destination name payload},
    actions[n]? = some (.send sender destination name payload) →
      let hub := (after master (actions.take n)).hub
      hub.Tells (hub.addressee destination) name (hub.send sender destination name payload)
  carried : ∀ {n sender destination name payload},
    actions[n]? = some (.send sender destination name payload) →
      let hub := (after master (actions.take n)).hub
      (after master actions).Carried n hub sender (hub.addressee destination) name payload
  unsent : ∀ {n}, (∀ sender destination name payload,
    actions[n]? ≠ some (.send sender destination name payload)) →
      (after master actions).waits n = [] ∧ (after master actions).invoked n = []
  ended : ∀ n, ((after master actions).finished.filter fun row => row.1.1 = n).length ≤ 1
  logged : (after master actions).log = (after master actions).finished.filterMap failure?

theorem hub_carries (master : NodeId) (actions : List (Action η ℓ)) : Carries master actions := by
  have tasks := tasks_of_step master actions
  have hub := hub_run ({ hub := { master } } : Traffic η ℓ) actions
  constructor
  case home => exact hub.1
  case tables => exact hub.2
  case told => exact fun _ => Hub.tells_send ..
  case carried =>
    intro n sender destination name payload sent
    have spawned := tasks n
    rw [sent, Option.bind_some] at spawned
    constructor
    · intro table entry attached listed
      rw [posted?, Hub.bound_of_find? attached listed] at spawned
      rcases List.append_eq_singleton_iff.mp spawned with ⟨waits, invoked⟩ | ⟨waits, invoked⟩
      · exact .inr ⟨waits, invoked⟩
      · exact .inl ⟨waits, invoked⟩
    · intro absent
      obtain ⟨error, unbound⟩ := Hub.bound_of_absent absent
      rw [posted?, unbound] at spawned
      exact List.append_eq_nil_iff.mp spawned
  case unsent =>
    intro n other
    have spawned := tasks n
    have none : actions[n]?.bind (after master (actions.take n)).posted? = none := by
      cases here : actions[n]? with
      | none => rfl
      | some action =>
        cases action with
        | send sender destination name payload => exact absurd here (other _ _ _ _)
        | attach | detach | publish | begin | finish => rfl
    rw [none] at spawned
    exact List.append_eq_nil_iff.mp spawned
  case ended =>
    intro n
    have invoked : ((after master actions).invoked n).length ≤ 1 := by
      have all := congrArg List.length (tasks n)
      have most : (actions[n]?.bind (after master (actions.take n)).posted?).toList.length ≤ 1 := by
        cases actions[n]?.bind (after master (actions.take n)).posted? <;> simp
      rw [List.length_append] at all
      omega
    have split : (after master actions).invoked n = sentBy n (after master actions).running ++
        sentBy n ((after master actions).finished.map Prod.fst) := sentBy_append ..
    have ended : (sentBy n ((after master actions).finished.map Prod.fst)).length =
        ((after master actions).finished.filter fun row => row.1.1 = n).length := by
      rw [sentBy, List.length_map, List.filter_map, List.length_map]
      rfl
    rw [split, List.length_append] at invoked
    omega
  case logged => exact (moves_run (kept_begin master) actions).1.log

def pingTable (handler : Nat) : HandlerTable Nat := Table.ofList [("ping", ⟨handler, true⟩)]

/-- The table is replaced and removed before the task runs, and the node is sent to once more. -/
def replacedAndRemoved : List (Action Nat Nat) :=
  [.attach "w1" (pingTable 1), .send "master" (.worker "w1") "ping" .null,
    .attach "w1" (pingTable 2), .detach "w1", .send "w2" (.worker "w1") "ping" .null, .begin 0,
    .finish 0 (.error (.failed "broken"))]

/-- The handler that runs is the one that was sent to, and its failure is logged once; the later
message meets no table. -/
theorem hub_carries_removed :
    let t := after "master" replacedAndRemoved
    let hub := (after "master" (replacedAndRemoved.take 4)).hub
    hub.send "w2" (.worker "w1") "ping" .null = .error (.unknownNode "w1") ∧
      t.invoked 4 = [] ∧ t.invoked 1 = [⟨1, "w1", ⟨"ping", "master", .null⟩⟩] ∧
      t.log = [Hub.handlerFailedEvent "w1" "ping" (.failed "broken")] := by
  intro t hub
  have carries := hub_carries "master" replacedAndRemoved
  have sent : replacedAndRemoved[4]? = some (.send "w2" (.worker "w1") "ping" .null) := rfl
  have none : hub.tables.find? "w1" = none :=
    (hub_carries "master" (replacedAndRemoved.take 4)).tables "w1"
  refine ⟨(carries.told sent).unknownNode.mpr none, ((carries.carried sent).never ?_).2, ?_, ?_⟩
  · intro table entry attached
    cases none.symm.trans attached
  · decide
  · decide

end Traffic

end Muster
