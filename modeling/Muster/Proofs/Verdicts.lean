import Muster.Proofs.Catalog
import Muster.Proofs.Stats.Shares
import Muster.Site

/-!
Validation passes, one after the other, over the scenarios of one process. A pass gives a scenario
reasons from its share of the book alone; a scenario that was ever given one stays failed, and the
exit code tells whether there is such a scenario. Entries that belong to no scenario are reported
and change neither.
-/

namespace Muster

/-! ### Scenarios -/

namespace Scenario

variable (s : Scenario)

/-- What a book has against a scenario: that it knows nothing of it, or how the merged share
breaches its limits. -/
def grounds (book : StatsBook) : List String :=
  if book.share s.identifier = [] then ["no statistics found"]
  else
    (s.thresholds.evaluate (.mergeAll ((book.share s.identifier).map Prod.snd))).map Breach.message

theorem reasonsFor_eq (book : StatsBook) : Verdict.reasonsFor s book = s.grounds book := by
  unfold Verdict.reasonsFor grounds
  rw [StatsBook.forScenario_eq]
  by_cases unknown : book.share s.identifier = []
  · rw [if_pos unknown, if_pos unknown]
    rfl
  · rw [if_neg unknown, if_neg unknown]

def after (books : List StatsBook) : Scenario := books.foldl Verdict.judged s

def Blamed (books : List StatsBook) : Prop := ∃ book ∈ books, s.grounds book ≠ []

instance (books : List StatsBook) : Decidable (s.Blamed books) :=
  inferInstanceAs (Decidable (∃ book ∈ books, s.grounds book ≠ []))

theorem Blamed.mono {s : Scenario} {books more : List StatsBook} (subset : books ⊆ more) :
    s.Blamed books → s.Blamed more
  | ⟨book, read, reasons⟩ => ⟨book, subset read, reasons⟩

theorem after_eq (books : List StatsBook) :
    s.after books = if s.Blamed books then { s with status := .failed } else s := by
  induction books generalizing s with
  | nil => exact (if_neg nofun).symm
  | cons book rest ih =>
    have judged : Verdict.judged s book =
        if s.grounds book = [] then s else { s with status := .failed } := by
      simp only [Verdict.judged, Scenario.reasonsFor_eq, List.isEmpty_iff]
    have blamed : s.Blamed (book :: rest) ↔ s.grounds book ≠ [] ∨ s.Blamed rest := by
      simp [Blamed]
    have step : s.after (book :: rest) = (Verdict.judged s book).after rest := rfl
    rw [step, judged]
    by_cases clean : s.grounds book = []
    · rw [if_pos clean, ih]
      simp only [blamed, clean, ne_eq, not_true_eq_false, false_or]
    · -- the limits of a failed scenario are the same, and it has no better status to go back to
      rw [if_neg clean, if_pos (blamed.mpr (.inl clean)), ih]
      exact ite_self _

theorem grounds_after (books : List StatsBook) (book : StatsBook) :
    (s.after books).grounds book = s.grounds book := by
  rw [after_eq]
  split <;> rfl

theorem name_after (books : List StatsBook) : (s.after books).name = s.name := by
  rw [after_eq]
  split <;> rfl

theorem identifier_after (books : List StatsBook) :
    (s.after books).identifier = s.identifier := by
  rw [after_eq]
  split <;> rfl

theorem reasonEvent_after (books : List StatsBook) (book : StatsBook) :
    Verdict.reasonEvent (s.after books) book = Verdict.reasonEvent s book := by
  funext reason
  simp only [Verdict.reasonEvent, name_after, identifier_after]

variable {s}

theorem failed_after_iff (passed : s.status = .passed) (books : List StatsBook) :
    (s.after books).status = .failed ↔ s.Blamed books := by
  rw [after_eq]
  by_cases blamed : s.Blamed books
  · rw [if_pos blamed]
    exact iff_of_true rfl blamed
  · rw [if_neg blamed, passed]
    exact iff_of_false nofun blamed

end Scenario

/-! ### Passes -/

namespace Site

variable (s : Site)

def pass (book : StatsBook) : Pass :=
  let (report, after, events) := s.validate book
  { catalog := after.catalog, exitCode := after.exitCode, report, events }

def after (books : List StatsBook) : Site :=
  books.foldl (fun s book => (s.validate book).2.1) s

def passes (s : Site) : List StatsBook → List Pass
  | [] => []
  | book :: rest => s.pass book :: (s.validate book).2.1.passes rest

theorem passes_concat (books : List StatsBook) (book : StatsBook) :
    s.passes (books ++ [book]) = s.passes books ++ [(s.after books).pass book] := by
  induction books generalizing s with
  | nil => rfl
  | cons first rest ih => exact congrArg (s.pass first :: ·) (ih _)

theorem mem_passes {books : List StatsBook} {pass : Pass} (made : pass ∈ s.passes books) :
    ∃ before book later, books = before ++ book :: later ∧ pass = (s.after before).pass book := by
  induction books generalizing s with
  | nil => cases made
  | cons first rest ih =>
    rcases List.mem_cons.mp made with rfl | later
    · exact ⟨[], first, rest, rfl, rfl⟩
    · obtain ⟨before, book, after, rfl, rfl⟩ := ih _ later
      exact ⟨first :: before, book, after, rfl, rfl⟩

theorem exists_pass (before : List StatsBook) (book : StatsBook) (later : List StatsBook) :
    (s.after before).pass book ∈ s.passes (before ++ book :: later) := by
  induction before generalizing s with
  | nil => exact List.mem_cons_self
  | cons first rest ih => exact List.mem_cons_of_mem _ (ih _)

theorem scenarios_after (books : List StatsBook) :
    (s.after books).catalog.scenarios =
      s.catalog.scenarios.map fun scenario => scenario.after books := by
  induction books generalizing s with
  | nil => exact (List.map_id _).symm
  | cons book rest ih => exact (ih (s.validate book).2.1).trans List.map_map

/-- The exit code tells whether a scenario has failed. -/
def Honest (s : Site) : Prop :=
  s.exitCode = .failure ↔ ∃ scenario ∈ s.catalog.scenarios, scenario.status = .failed

variable {s}

theorem honest_validate (honest : s.Honest) (book : StatsBook) :
    (s.validate book).2.1.Honest := by
  unfold Honest validate Catalog.validate
  dsimp only
  split
  · rename_i quiet
    have kept : ∀ scenario ∈ s.catalog.scenarios, Verdict.judged scenario book = scenario :=
      fun scenario member => if_pos (List.all_eq_true.mp quiet scenario member)
    rw [List.map_congr_left kept, List.map_id']
    exact honest
  · rename_i loud
    simp only [List.all_eq_true, Classical.not_forall] at loud
    obtain ⟨scenario, member, reasons⟩ := loud
    refine iff_of_true rfl ⟨_, List.mem_map_of_mem member, ?_⟩
    rw [Verdict.judged, if_neg reasons]

theorem honest_after (honest : s.Honest) (books : List StatsBook) : (s.after books).Honest := by
  induction books generalizing s with
  | nil => exact honest
  | cons book rest ih => exact ih (honest_validate honest book)

/-- No pass was made yet. -/
structure Unjudged (s : Site) : Prop where
  passed : ∀ scenario ∈ s.catalog.scenarios, scenario.status = .passed
  success : s.exitCode = .success

theorem unjudged_of_assemble {setup : Setup} {files : Files} {shuffles : Shuffles}
    {connect : Connector} {registry : Registry Handler} {id : SiteId} {events : List Event}
    (assembled : setup.assemble files shuffles connect registry id = .ok (s, events)) :
    s.Unjudged := by
  unfold Setup.assemble at assembled
  obtain ⟨catalog, made, assembled⟩ := ok_of_bind assembled
  obtain ⟨dispenser, -, assembled⟩ := ok_of_bind assembled
  obtain ⟨rfl, -⟩ := Prod.mk.inj (Except.ok.inj assembled)
  refine ⟨fun scenario member => ?_, rfl⟩
  have configured : setup.config.catalog = .ok catalog := by
    cases listed : setup.config.catalog with
    | error => rw [listed] at made; cases made
    | ok => rw [listed] at made; exact congrArg Except.ok (Except.ok.inj made)
  rw [Config.scenarios_of_catalog configured] at member
  obtain ⟨_, -, rfl⟩ := List.mem_map.mp member
  rfl

theorem Unjudged.honest (unjudged : s.Unjudged) : s.Honest := by
  refine iff_of_false (fun failure => ?_) fun ⟨scenario, member, failed⟩ => ?_
  · rw [unjudged.success] at failure
    cases failure
  · rw [unjudged.passed scenario member] at failed
    cases failed

/-! ### Reports -/

variable (s : Site) (books : List StatsBook) (book : StatsBook)

theorem scenarios_pass :
    ((s.after books).pass book).catalog.scenarios =
      s.catalog.scenarios.map fun scenario => scenario.after (books ++ [book]) := by
  rw [← scenarios_after, after, after, List.foldl_append]
  rfl

theorem exitCode_pass :
    ((s.after books).pass book).exitCode = (s.after (books ++ [book])).exitCode := by
  rw [after, after, List.foldl_append]
  rfl

theorem verdicts_pass :
    ((s.after books).pass book).report.verdicts = s.catalog.scenarios.map fun scenario =>
      ⟨scenario.name, (scenario.after (books ++ [book])).status, scenario.grounds book⟩ := by
  show (s.after books).catalog.scenarios.map _ = _
  rw [scenarios_after, List.map_map]
  refine List.map_congr_left fun scenario _ => ?_
  have judged : Verdict.judged (scenario.after books) book = scenario.after (books ++ [book]) := by
    rw [Scenario.after, Scenario.after, List.foldl_append]
    rfl
  simp [Verdict.ofScenario, judged, Scenario.reasonsFor_eq, Scenario.grounds_after,
    Scenario.name_after]

theorem unmatched_pass :
    ((s.after books).pass book).report.unmatched = book.entries.keys.filter fun name =>
      ∀ scenario ∈ s.catalog.scenarios,
        StatsBook.scenarioIdentifier name ≠ scenario.identifier := by
  refine List.filter_congr fun name _ => ?_
  rw [Catalog.hasIdentifier, scenarios_after, Bool.eq_iff_iff]
  simp only [List.any_map, Bool.not_eq_true', List.any_eq_false, decide_eq_true_eq,
    Function.comp_apply, Scenario.identifier_after]
  exact forall₂_congr fun _ _ => ne_comm

theorem events_pass :
    ((s.after books).pass book).events =
      ((s.after books).pass book).report.unmatched.map Verdict.unmatchedEvent ++
        s.catalog.scenarios.flatMap fun scenario =>
          (scenario.grounds book).map (Verdict.reasonEvent scenario book) := by
  show _ ++ (s.after books).catalog.scenarios.flatMap _ = _
  rw [scenarios_after, List.flatMap_map]
  simp only [Scenario.reasonEvent_after, Scenario.reasonsFor_eq, Scenario.grounds_after]
  rfl

variable {s books book}

/-- A scenario is given reasons in the passes over the books that speak against it. -/
theorem given_reasons_iff {i : Nat} {scenario : Scenario}
    (found : s.catalog.scenarios[i]? = some scenario) :
    (∃ pass ∈ s.passes books, ∃ verdict, pass.report.verdicts[i]? = some verdict ∧
      verdict.reasons ≠ []) ↔ scenario.Blamed books := by
  constructor
  · rintro ⟨pass, made, verdict, here, reasons⟩
    obtain ⟨before, book, later, rfl, rfl⟩ := s.mem_passes made
    rw [verdicts_pass, List.getElem?_map, found] at here
    obtain rfl := Option.some.inj here
    exact ⟨book, by simp, reasons⟩
  · rintro ⟨book, read, reasons⟩
    obtain ⟨before, later, rfl⟩ := List.append_of_mem read
    have here : ((s.after before).pass book).report.verdicts[i]? = some ⟨scenario.name,
        (scenario.after (before ++ [book])).status, scenario.grounds book⟩ := by
      rw [verdicts_pass, List.getElem?_map, found, Option.map_some]
    exact ⟨_, s.exists_pass before book later, _, here, reasons⟩

theorem Unjudged.failure_iff_failed (unjudged : s.Unjudged) :
    (s.after books).exitCode = .failure ↔
      ∃ scenario ∈ (s.after books).catalog.scenarios, scenario.status = .failed :=
  honest_after unjudged.honest books

theorem Unjudged.failure_iff (unjudged : s.Unjudged) :
    (s.after books).exitCode = .failure ↔
      ∃ scenario ∈ s.catalog.scenarios, scenario.Blamed books := by
  rw [unjudged.failure_iff_failed, scenarios_after]
  constructor
  · rintro ⟨_, later, failed⟩
    obtain ⟨scenario, member, rfl⟩ := List.mem_map.mp later
    have passed := unjudged.passed scenario member
    exact ⟨scenario, member, (Scenario.failed_after_iff passed books).mp failed⟩
  · rintro ⟨scenario, member, blamed⟩
    have passed := unjudged.passed scenario member
    refine ⟨_, List.mem_map_of_mem member, (Scenario.failed_after_iff passed books).mpr blamed⟩

theorem Unjudged.failure_iff_reasons (unjudged : s.Unjudged) :
    (s.after books).exitCode = .failure ↔ ∃ pass ∈ s.passes books,
      ∃ verdict ∈ pass.report.verdicts, verdict.reasons ≠ [] := by
  rw [unjudged.failure_iff]
  constructor
  · rintro ⟨scenario, member, blamed⟩
    obtain ⟨i, found⟩ := List.mem_iff_getElem?.mp member
    obtain ⟨pass, made, verdict, here, reasons⟩ := (given_reasons_iff found).mpr blamed
    exact ⟨pass, made, verdict, List.mem_of_getElem? here, reasons⟩
  · rintro ⟨pass, made, verdict, member, reasons⟩
    obtain ⟨before, book, later, rfl, rfl⟩ := s.mem_passes made
    rw [verdicts_pass] at member
    obtain ⟨scenario, known, rfl⟩ := List.mem_map.mp member
    exact ⟨scenario, known, book, by simp, reasons⟩

theorem Unjudged.passed_iff_success (unjudged : s.Unjudged) :
    ((s.after books).pass book).report.passed = true ↔
      ((s.after books).pass book).report.exitCode = .success := by
  have status : ∀ status : Status, status = .passed ↔ ¬status = .failed := by
    intro status
    cases status <;> simp
  have code : ∀ code : ExitCode, code = .success ↔ ¬code = .failure := by
    intro code
    cases code <;> simp
  show _ ↔ ((s.after books).pass book).exitCode = .success
  rw [code, exitCode_pass, unjudged.failure_iff_failed, scenarios_after, Report.passed,
    verdicts_pass]
  simp [status]

/-- What a pass over a book comes to, after the passes before it. -/
structure Judges (s : Site) (past : List Pass) (book : StatsBook) (pass : Pass) : Prop where
  failure_iff_failed : pass.exitCode = .failure ↔
    ∃ scenario ∈ pass.catalog.scenarios, scenario.status = .failed
  failure_iff_reasons : pass.exitCode = .failure ↔ ∃ made ∈ past ++ [pass],
    ∃ verdict ∈ made.report.verdicts, verdict.reasons ≠ []
  registered : pass.catalog.scenarios.length = s.catalog.scenarios.length
  /-- a scenario has failed if a pass gave it a reason, and is what it was otherwise -/
  scenario : ∀ {i : Nat} {scenario}, s.catalog.scenarios[i]? = some scenario →
    ∃ status, pass.catalog.scenarios[i]? = some { scenario with status } ∧
      (status = .failed ↔ ∃ made ∈ past ++ [pass], ∃ verdict,
        made.report.verdicts[i]? = some verdict ∧ verdict.reasons ≠ [])
  status_stays : ∀ earlier ∈ past, ∀ {i : Nat} {scenario},
    earlier.catalog.scenarios[i]? = some scenario → scenario.status = .failed →
      pass.catalog.scenarios[i]? = some scenario
  exit_stays : ∀ earlier ∈ past, earlier.exitCode = .failure → pass.exitCode = .failure
  /-- only a reason raises the exit code -/
  raised : pass.exitCode = .failure → (∃ earlier ∈ past, earlier.exitCode = .failure) ∨
    ∃ verdict ∈ pass.report.verdicts, verdict.reasons ≠ []
  verdicts : pass.report.verdicts = pass.catalog.scenarios.map fun scenario =>
    ⟨scenario.name, scenario.status, scenario.grounds book⟩
  unmatched : pass.report.unmatched = book.entries.keys.filter fun name =>
    ∀ scenario ∈ s.catalog.scenarios, StatsBook.scenarioIdentifier name ≠ scenario.identifier
  exitCode : pass.report.exitCode = pass.exitCode
  passed : pass.report.passed = true ↔ pass.report.exitCode = .success
  events : pass.events = pass.report.unmatched.map Verdict.unmatchedEvent ++
    pass.catalog.scenarios.flatMap fun scenario =>
      (scenario.grounds book).map (Verdict.reasonEvent scenario book)
  errors : ∀ event ∈ pass.events, event.level = .error

/-- However many passes are made, and over whatever books, each judges as it should. -/
theorem passes_judge (unjudged : s.Unjudged) (books : List StatsBook) (book : StatsBook) :
    ∃ pass, s.passes (books ++ [book]) = s.passes books ++ [pass] ∧
      s.Judges (s.passes books) book pass := by
  have exit := s.exitCode_pass books book
  have catalog := s.scenarios_pass books book
  refine ⟨(s.after books).pass book, s.passes_concat books book, ?_⟩
  constructor
  case failure_iff_failed =>
    rw [exit, catalog, ← scenarios_after]
    exact unjudged.failure_iff_failed
  case failure_iff_reasons =>
    rw [exit, ← passes_concat]
    exact unjudged.failure_iff_reasons
  case registered => rw [catalog, List.length_map]
  case scenario =>
    intro i scenario found
    refine ⟨(scenario.after (books ++ [book])).status, ?_, ?_⟩
    · rw [catalog, List.getElem?_map, found, Option.map_some, Scenario.after_eq]
      split <;> rfl
    · rw [← passes_concat, given_reasons_iff found]
      exact Scenario.failed_after_iff (unjudged.passed scenario (List.mem_of_getElem? found)) _
  case status_stays =>
    intro earlier made i scenario found failed
    obtain ⟨before, read, later, rfl, rfl⟩ := s.mem_passes made
    rw [scenarios_pass, List.getElem?_map] at found
    obtain ⟨first, here, rfl⟩ := Option.map_eq_some_iff.mp found
    have passed := unjudged.passed first (List.mem_of_getElem? here)
    have blamed := (Scenario.failed_after_iff passed _).mp failed
    have still : first.Blamed (before ++ read :: later ++ [book]) := blamed.mono (by simp)
    rw [catalog, List.getElem?_map, here, Option.map_some, Scenario.after_eq, if_pos still,
      Scenario.after_eq, if_pos blamed]
  case exit_stays =>
    intro earlier made failed
    obtain ⟨before, read, later, rfl, rfl⟩ := s.mem_passes made
    rw [exitCode_pass] at failed
    obtain ⟨scenario, member, blamed⟩ := unjudged.failure_iff.mp failed
    rw [exit]
    exact unjudged.failure_iff.mpr ⟨scenario, member, blamed.mono (by simp)⟩
  case raised =>
    rw [exit]
    intro failed
    obtain ⟨scenario, member, read, given, reasons⟩ := unjudged.failure_iff.mp failed
    rcases List.mem_append.mp given with old | new
    · obtain ⟨before, later, rfl⟩ := List.append_of_mem old
      refine .inl ⟨_, s.exists_pass before read later, ?_⟩
      rw [exitCode_pass]
      exact unjudged.failure_iff.mpr ⟨scenario, member, read, by simp, reasons⟩
    · obtain rfl := List.mem_singleton.mp new
      rw [verdicts_pass]
      exact .inr ⟨_, List.mem_map_of_mem member, reasons⟩
  case verdicts =>
    rw [verdicts_pass, catalog, List.map_map]
    refine List.map_congr_left fun scenario _ => ?_
    simp [Scenario.name_after, Scenario.grounds_after]
  case unmatched => exact s.unmatched_pass books book
  case exitCode => rfl
  case passed => exact unjudged.passed_iff_success
  case events =>
    rw [events_pass, catalog, List.flatMap_map]
    simp only [Scenario.grounds_after, Scenario.reasonEvent_after]
  case errors =>
    rw [events_pass]
    intro event reported
    rcases List.mem_append.mp reported with unmatched | given
    · obtain ⟨name, -, rfl⟩ := List.mem_map.mp unmatched
      rfl
    · obtain ⟨scenario, -, given⟩ := List.mem_flatMap.mp given
      obtain ⟨reason, -, rfl⟩ := List.mem_map.mp given
      rfl

def shop : Site :=
  { role := .local, node := "shop"
    catalog := ⟨[{ name := "browse", identifier := "1" }, { name := "buy", identifier := "10" }]⟩ }

def browsing : StatsBook := ({} : StatsBook).logRequest "1 GET /" 12

def visits : StatsBook := (browsing.logRequest "10" 7).logRequest "100 GET /cart" 9

/-- Nobody bought anything at first, and that still counts when somebody does. -/
theorem passes_judge_late_buyer :
    shop.Unjudged ∧ ∃ pass, shop.passes [browsing, visits] = shop.passes [browsing] ++ [pass] ∧
      shop.Judges (shop.passes [browsing]) visits pass ∧
      pass.exitCode = .failure ∧ pass.report.unmatched = ["100 GET /cart"] ∧
      pass.report.verdicts = [⟨"browse", .passed, []⟩, ⟨"buy", .failed, []⟩] := by
  have unjudged : shop.Unjudged := ⟨by decide, rfl⟩
  obtain ⟨pass, made, judges⟩ := passes_judge unjudged [browsing] visits
  refine ⟨unjudged, pass, made, judges, ?_⟩
  rw [passes_concat] at made
  obtain ⟨rfl, -⟩ := List.cons.inj (List.append_cancel_left made)
  decide +kernel

end Site

end Muster
