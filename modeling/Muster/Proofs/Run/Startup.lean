import Muster.Proofs.Overrides
import Muster.Proofs.Record.Stock
import Muster.Proofs.Run.Teardown

/-!
How a process starts. Either it fails and nothing has happened, or its table is installed at its
node: every name has the override of the role, and otherwise the handler that the role brings along.
A valid configuration is never the reason of a failure; then only a source that cannot be read is.
-/

namespace Muster

/-- The override of a name for the messages a role receives. -/
def Role.override? (registry : Registry Handler) (name : MessageName) :
    Role → Option (HandlerEntry Handler)
  | .master => registry.workerToMaster.find? name
  | .worker => registry.masterToWorker.find? name
  | .local => (registry.masterToWorker.find? name).or (registry.workerToMaster.find? name)

namespace Setup

variable {setup : Setup} {files : Files} {shuffles : Shuffles} {connect : Connector}
  {registry : Registry Handler} {id : SiteId}

/-- The handler that the process has for a message of the protocol. -/
def own? (setup : Setup) (id : SiteId) (name : MessageName) : Option Handler :=
  if name = consumeToken ∧ setup.role ≠ .master then some (.consumeToken id)
  else if name = consumeTestdata ∧ setup.role ≠ .master then some (.consumeTestdata id)
  else if name = produceToken ∧ setup.role ≠ .worker ∧ setup.hasTokenSource then
    some (.produceToken id)
  else none

theorem find?_overridesFor_directions (registry : Registry Handler) (role : Role)
    (name : MessageName) :
    (registry.overridesFor role.directions).find? name = role.override? registry name := by
  rw [Registry.find?_overridesFor]
  cases role with
  | master | worker =>
    exact (List.findSome?_singleton ..).trans rfl
  | «local» =>
    show List.findSome? _ [Direction.masterToWorker, Direction.workerToMaster] = _
    simp only [List.findSome?_cons, List.findSome?_nil, Registry.direction, Role.override?]
    cases registry.masterToWorker.find? name <;> cases registry.workerToMaster.find? name <;> rfl

theorem find?_defaults (setup : Setup) (id : SiteId) (name : MessageName) :
    (setup.role.defaults (setup.builtins id)).find? name =
      (setup.own? id name).map fun handler => ⟨handler, true⟩ := by
  unfold Role.defaults builtins own?
  cases setup.role <;> cases setup.hasTokenSource <;>
    simp [Role.isMasterSide, Role.isWorkerSide, Table.ofList] <;> grind

theorem find?_handlers (setup : Setup) (registry : Registry Handler) (id : SiteId)
    (name : MessageName) : (setup.handlers registry id).find? name =
      (setup.role.override? registry name).or
        ((setup.own? id name).map fun handler => ⟨handler, true⟩) := by
  rw [handlers, HandlerTable.find?_build, find?_overridesFor_directions, find?_defaults]

/-- It makes pools itself: on the master side, unless it works with a dispenser elsewhere. -/
def BuildsPools (setup : Setup) : Prop :=
  setup.role = .master ∨ setup.role = .local ∧ setup.config.producerAddress = none

theorem servesRecords_iff : setup.servesRecords = true ↔ setup.BuildsPools := by
  unfold servesRecords BuildsPools
  cases setup.role <;> simp [Role.isMasterSide, Role.isWorkerSide]

/-- A source of the pools that it makes cannot be read. -/
def LacksSource (setup : Setup) (files : Files) : Prop :=
  setup.BuildsPools ∧ ∃ plan ∈ setup.config.plans, ∃ source ∈ plan.sources, ∃ fault,
    source.load files = .error fault

theorem dispenser_cases (files : Files) (shuffles : Shuffles)
    (valid : setup.config.check = .ok ()) :
    (∃ path fault, setup.dispenser files shuffles = .error (.source path fault) ∧
      setup.LacksSource files) ∨
    (∃ dispenser, setup.dispenser files shuffles = .ok dispenser) ∧ ¬setup.LacksSource files := by
  unfold dispenser
  split
  · rename_i builds
    rw [Bool.and_eq_true] at builds
    rcases Stock.load_cases files shuffles (Config.nodup_plans valid) with
      ⟨path, fault, failed, plan, planned, source, member, unread⟩ | ⟨⟨stock, loaded⟩, all⟩
    · rw [failed]
      exact .inl ⟨path, fault, rfl, servesRecords_iff.mp builds.1, plan, planned, source, member,
        _, unread⟩
    · rw [loaded]
      refine .inr ⟨⟨_, rfl⟩, ?_⟩
      rintro ⟨-, plan, planned, source, member, fault, failed⟩
      obtain ⟨records, read⟩ := all plan planned source member
      cases failed.symm.trans read
  · rename_i idle
    refine .inr ⟨⟨none, rfl⟩, ?_⟩
    rintro ⟨builds, plan, planned, -⟩
    refine idle (Bool.and_eq_true .. |>.mpr ⟨servesRecords_iff.mpr builds, ?_⟩)
    rw [List.isEmpty_eq_false_iff.mpr (List.ne_nil_of_mem planned)]
    rfl

theorem assemble_cases (files : Files) (shuffles : Shuffles) (connect : Connector)
    (registry : Registry Handler) (id : SiteId) (valid : setup.config.check = .ok ()) :
    (∃ path fault, setup.assemble files shuffles connect registry id =
      .error (.producer (.source path fault)) ∧ setup.LacksSource files) ∨
    (∃ result, setup.assemble files shuffles connect registry id = .ok result) ∧
      ¬setup.LacksSource files := by
  unfold assemble
  rw [(Config.catalog_of_check valid).1]
  rcases setup.dispenser_cases files shuffles valid with
    ⟨path, fault, failed, lacks⟩ | ⟨⟨dispenser, made⟩, complete⟩
  · rw [failed]
    exact .inl ⟨path, fault, rfl, lacks⟩
  · rw [made]
    exact .inr ⟨⟨_, rfl⟩, complete⟩

theorem locked_of_assemble {site : Site} {events : List Event}
    (assembled : setup.assemble files shuffles connect registry id = .ok (site, events)) :
    site.role = setup.role ∧ site.barrier.isOpen = false := by
  unfold assemble at assembled
  obtain ⟨catalog, -, assembled⟩ := ok_of_bind assembled
  obtain ⟨dispenser, -, assembled⟩ := ok_of_bind assembled
  obtain ⟨rfl, -⟩ := Prod.mk.inj (Except.ok.inj assembled)
  exact ⟨rfl, rfl⟩

end Setup

namespace Run

/-- What a process that started has done: it is the newest one, its barrier is locked, and the
table of its node is its own, with the overrides of its role in it. -/
structure Installed (r : Run) (setup : Setup) (id : SiteId) (site : Site) (after : Run) :
    Prop where
  newest : id = r.sites.length
  sites : after.sites = r.sites ++ [site]
  role : site.role = setup.role
  locked : site.barrier.isOpen = false
  table : after.hub.tables.find? setup.node = some site.effective
  entries : ∀ name, site.effective.find? name = (setup.role.override? r.registry name).or
    ((setup.own? id name).map fun handler => ⟨handler, true⟩)
  others : ∀ node, node ≠ setup.node →
    after.hub.tables.find? node = r.hub.tables.find? node
  producers : after.hub.producers = r.hub.producers

variable {r : Run} {connect : Connector} {files : Files} {shuffles : Shuffles} {setup : Setup}

/-- A start fails where the process is put together, or because its table is refused. -/
theorem error_of_startVia {error : RoleError}
    (failed : (r.startVia connect files shuffles setup).1 = .error error) :
    setup.assemble files shuffles connect r.registry r.sites.length = .error error ∨
      ∃ cause, error = .transport cause := by
  unfold startVia at failed
  dsimp only at failed
  split at failed
  · rename_i stopped
    exact .inl (stopped.trans (congrArg _ (Except.error.inj failed)))
  · split at failed
    · exact .inr ⟨_, (Except.error.inj failed).symm⟩
    · cases failed

theorem installed_of_assemble {site : Site} {events log : List Event}
    (assembled : setup.assemble files shuffles connect r.registry r.sites.length =
      .ok (site, events)) :
    r.Installed setup r.sites.length site
      { r with hub := r.hub.attach site.node site.effective, sites := r.sites ++ [site], log } := by
  have parts := Setup.assembled_of_assemble assembled
  obtain ⟨role, locked⟩ := Setup.locked_of_assemble assembled
  refine ⟨rfl, rfl, role, locked, ?_, fun name => ?_, fun node apart => ?_, rfl⟩
  · rw [← parts.node]
    exact (Table.find?_insert ..).trans (if_pos rfl)
  · rw [parts.effective]
    exact Setup.find?_handlers ..
  · rw [← parts.node] at apart
    exact (Table.find?_insert ..).trans (if_neg apart)

theorem startVia_fails_iff (overHub : setup.attachesLeft = none)
    (valid : setup.config.check = .ok ()) :
    (∃ error, (r.startVia connect files shuffles setup).1 = .error error) ↔
      setup.LacksSource files := by
  rcases Setup.assemble_cases files shuffles connect r.registry r.sites.length valid with
    ⟨path, fault, failed, lacks⟩ | ⟨⟨result, made⟩, complete⟩
  · refine ⟨fun _ => lacks, fun _ => ?_⟩
    rw [startVia, failed]
    exact ⟨_, rfl⟩
  · refine ⟨?_, fun lacks => absurd lacks complete⟩
    rintro ⟨error, failed⟩
    -- the hub takes every table, so nothing fails after the process is put together
    rcases r.startVia_cases connect files shuffles overHub with
      ⟨other, stopped, -⟩ | ⟨site, events, log, -, started⟩
    · cases stopped.symm.trans made
    · rw [started] at failed
      cases failed

/-- A start over the hub either fails before anything has happened, or installs the process. With a
valid configuration it fails only if the process makes pools and one of their sources cannot be
read. -/
theorem start_installs_or_nothing (r : Run) (connect : Connector) (files : Files)
    (shuffles : Shuffles) (setup : Setup) (overHub : setup.attachesLeft = none) :
    ((∃ error, r.startVia connect files shuffles setup = (.error error, r)) ∨
      ∃ id site after, r.startVia connect files shuffles setup = (.ok id, after) ∧
        r.Installed setup id site after) ∧
    (setup.config.check = .ok () →
      ((∃ error, (r.startVia connect files shuffles setup).1 = .error error) ↔
        setup.BuildsPools ∧ ∃ plan ∈ setup.config.plans, ∃ source ∈ plan.sources, ∃ fault,
          source.load files = .error fault)) := by
  refine ⟨?_, fun valid => startVia_fails_iff overHub valid⟩
  rcases r.startVia_cases connect files shuffles overHub with
    ⟨error, -, failed⟩ | ⟨site, events, log, assembled, started⟩
  · exact .inl ⟨error, failed⟩
  · exact .inr ⟨_, site, _, started, installed_of_assemble assembled⟩

/-- The shop, with records in a file. -/
def filedSetup : Setup :=
  { shopSetup with
    config := { scenarios := [{ name := "login", identifier := some "1"
                                data := some { sources := [.jsonFile "users.json"] } }] } }

/-- Both directions have an override for the same name. -/
def contested : Run :=
  ((begin "shop").register .masterToWorker consumeToken ⟨.recorder "down" none, false⟩).register
    .workerToMaster consumeToken ⟨.recorder "up" none, false⟩

theorem start_installs_or_nothing_contested :
    (filedSetup.attachesLeft = none ∧ filedSetup.config.check = .ok () ∧
      ∃ error, contested.startVia contested.hub.connect {} .still filedSetup =
        (.error error, contested)) ∧
    shopSetup.attachesLeft = none ∧ ∃ id site after,
      contested.startVia contested.hub.connect {} .still shopSetup = (.ok id, after) ∧
      contested.Installed shopSetup id site after ∧
      site.effective.find? consumeToken = some ⟨.recorder "down" none, false⟩ ∧
      site.effective.find? consumeTestdata = some ⟨.consumeTestdata id, true⟩ := by
  refine ⟨⟨rfl, ?_⟩, rfl, ?_⟩
  · have valid : filedSetup.config.check = .ok () := by decide +kernel
    obtain ⟨outcome, fails⟩ :=
      start_installs_or_nothing contested contested.hub.connect {} .still filedSetup rfl
    obtain ⟨error, failed⟩ := (fails valid).mpr ⟨.inr ⟨rfl, rfl⟩, _, .head _, _, .head _, _, rfl⟩
    rcases outcome with nothing | ⟨id, site, after, started, -⟩
    · exact ⟨valid, nothing⟩
    · rw [started] at failed
      cases failed
  · have valid : shopSetup.config.check = .ok () := by decide +kernel
    obtain ⟨outcome, fails⟩ :=
      start_installs_or_nothing contested contested.hub.connect {} .still shopSetup rfl
    rcases outcome with ⟨error, nothing⟩ | ⟨id, site, after, started, installed⟩
    · obtain ⟨-, plan, planned, source, member, fault, unread⟩ :=
        (fails valid).mp ⟨error, by rw [nothing]⟩
      obtain rfl := List.mem_singleton.mp planned
      obtain rfl := List.mem_singleton.mp member
      cases unread
    · exact ⟨id, site, after, started, installed, installed.entries _, installed.entries _⟩

end Run

namespace Config

/-- A valid configuration has the catalog of its scenarios, one pool for each scenario with test
data, and no process that starts with it fails for either of them. -/
theorem valid_config_accepted (c : Config) (valid : c.check = .ok ()) :
    c.catalog = .ok ⟨c.scenarios.zipIdx.map fun (s, index) =>
      { name := s.name, identifier := s.effectiveIdentifier index
        thresholds := s.thresholds, status := .passed }⟩ ∧
    List.Forall₂ c.PlanFor (c.scenarios.filter (·.data.isSome)) c.plans ∧
    (c.plans.map (·.scenario)).Nodup ∧
    ∀ (r : Run) (connect : Connector) (files : Files) (shuffles : Shuffles) (setup : Setup),
      setup.config = c → ∀ error, (r.startVia connect files shuffles setup).1 = .error error →
        (∀ cause, error ≠ .config cause) ∧
        ∀ scenario, error ≠ .producer (.duplicateScenario scenario) := by
  refine ⟨(catalog_of_check valid).1, c.plans_forall₂, nodup_plans valid, ?_⟩
  rintro r connect files shuffles setup rfl error failed
  rcases Run.error_of_startVia failed with stopped | ⟨cause, rfl⟩
  · rcases Setup.assemble_cases files shuffles connect r.registry r.sites.length valid with
      ⟨path, fault, lacking, -⟩ | ⟨⟨result, made⟩, -⟩
    · obtain rfl := Except.error.inj (stopped.symm.trans lacking)
      exact ⟨nofun, nofun⟩
    · cases stopped.symm.trans made
  · exact ⟨nofun, nofun⟩

/-- An identifier that was chosen, and one that comes from the position. -/
def postsAndBrowsing : Config :=
  { scenarios :=
      [{ name := "posts", identifier := some "first", data := some { sources := [.jsonFile "a"] } },
        { name := "browsing" }] }

theorem valid_config_accepted_derived :
    postsAndBrowsing.check = .ok () ∧
    postsAndBrowsing.catalog = .ok ⟨[{ name := "posts", identifier := "first" },
      { name := "browsing", identifier := "002" }]⟩ ∧
    postsAndBrowsing.plans = [{ scenario := "posts", sources := [.jsonFile "a"] }] ∧
    ∀ (r : Run) (connect : Connector) (files : Files) (shuffles : Shuffles) (setup : Setup),
      setup.config = postsAndBrowsing → ∀ error,
        (r.startVia connect files shuffles setup).1 = .error error →
          (∀ cause, error ≠ .config cause) ∧
          ∀ scenario, error ≠ .producer (.duplicateScenario scenario) := by
  have valid : postsAndBrowsing.check = .ok () := by decide +kernel
  obtain ⟨catalog, -, -, starts⟩ := valid_config_accepted postsAndBrowsing valid
  exact ⟨valid, catalog, rfl, starts⟩

end Config

end Muster
