import Mathlib.Data.List.Forall2
import Muster.Config

/-!
What a valid configuration says about its scenarios: they can all be registered, no two have the
same identifier, every identifier is a single word, and no two pools are for the same scenario.
-/

namespace Muster

theorem ok_of_bind {ε α β : Type} {x : Except ε α} {f : α → Except ε β} {b : β}
    (done : x >>= f = .ok b) : ∃ a, x = .ok a ∧ f a = .ok b := by
  cases x with
  | error => cases done
  | ok a => exact ⟨a, rfl, done⟩

/-- A loop of checks passes if every check in it does. -/
theorem checked_of_forIn {ε α : Type} {check : α → Except ε Unit} {xs : List α}
    (passed : (forIn xs PUnit.unit fun x _ => do
      check x
      pure (ForInStep.yield PUnit.unit)) = .ok ()) : ∀ x ∈ xs, check x = .ok () := by
  induction xs with
  | nil => nofun
  | cons x rest ih =>
    rw [List.forIn_cons] at passed
    obtain ⟨step, turn, later⟩ := ok_of_bind passed
    obtain ⟨_, first, yielded⟩ := ok_of_bind turn
    obtain rfl := Except.ok.inj yielded
    rintro y (_ | ⟨_, member⟩)
    · exact first
    · exact ih later y member

namespace Catalog

/-- Scenarios that can be registered one after the other. -/
structure Admissible (scenarios : List Scenario) : Prop where
  named : ∀ s ∈ scenarios, Text.allBlank s.name = false ∧ Text.allBlank s.identifier = false
  names : (scenarios.map Scenario.name).Nodup
  identifiers : (scenarios.map Scenario.identifier).Nodup

variable {c d : Catalog} {scenarios more : List Scenario} {s : Scenario}

theorem Admissible.of_append (admissible : Admissible (scenarios ++ more)) :
    Admissible scenarios where
  named s member := admissible.named s (List.mem_append_left _ member)
  names := by
    have names := admissible.names
    rw [List.map_append] at names
    exact (List.nodup_append.mp names).1
  identifiers := by
    have identifiers := admissible.identifiers
    rw [List.map_append] at identifiers
    exact (List.nodup_append.mp identifiers).1

theorem nodup_map_concat {f : Scenario → String} :
    ((scenarios ++ [s]).map f).Nodup ↔ (scenarios.map f).Nodup ∧ f s ∉ scenarios.map f := by
  rw [List.map_append, List.map_singleton, List.nodup_append]
  constructor
  · rintro ⟨nodup, -, apart⟩
    exact ⟨nodup, fun member => apart _ member _ (List.mem_singleton.mpr rfl) rfl⟩
  · rintro ⟨nodup, fresh⟩
    refine ⟨nodup, List.pairwise_singleton _ _, ?_⟩
    rintro name member other here rfl
    rw [List.mem_singleton.mp here] at member
    exact fresh member

theorem admissible_concat :
    Admissible (scenarios ++ [s]) ↔ Admissible scenarios ∧
      Text.allBlank s.name = false ∧ Text.allBlank s.identifier = false ∧
      s.name ∉ scenarios.map Scenario.name ∧ s.identifier ∉ scenarios.map Scenario.identifier := by
  constructor
  · intro admissible
    obtain ⟨name, identifier⟩ := admissible.named s (List.mem_append_right _ (.head _))
    exact ⟨admissible.of_append, name, identifier, (nodup_map_concat.mp admissible.names).2,
      (nodup_map_concat.mp admissible.identifiers).2⟩
  · rintro ⟨admissible, name, identifier, names, identifiers⟩
    refine ⟨fun other member => ?_, nodup_map_concat.mpr ⟨admissible.names, names⟩,
      nodup_map_concat.mpr ⟨admissible.identifiers, identifiers⟩⟩
    rcases List.mem_append.mp member with old | new
    · exact admissible.named other old
    · rw [List.mem_singleton.mp new]
      exact ⟨name, identifier⟩

theorem register_eq_ok (admissible : Admissible c.scenarios) :
    c.register s = .ok d ↔
      Admissible (c.scenarios ++ [s]) ∧ d = ⟨c.scenarios ++ [s]⟩ := by
  have name : (c.get? s.name).isSome = true ↔ s.name ∈ c.scenarios.map Scenario.name := by
    simp [get?]
  have identifier : c.hasIdentifier s.identifier = true ↔
      s.identifier ∈ c.scenarios.map Scenario.identifier := by
    simp [hasIdentifier]
  rw [admissible_concat]
  unfold register
  split
  · rename_i blank
    rw [Bool.or_eq_true] at blank
    refine ⟨nofun, fun ⟨⟨_, named, identified, _⟩, _⟩ => ?_⟩
    rcases blank with blank | blank
    · cases named.symm.trans blank
    · cases identified.symm.trans blank
  · rename_i present
    rw [Bool.or_eq_true, not_or, Bool.not_eq_true, Bool.not_eq_true] at present
    split
    · rename_i taken
      exact ⟨nofun, fun ⟨⟨_, _, _, fresh, _⟩, _⟩ => absurd (name.mp taken) fresh⟩
    · rename_i freshName
      split
      · rename_i taken
        exact ⟨nofun, fun ⟨⟨_, _, _, _, fresh⟩, _⟩ => absurd (identifier.mp taken) fresh⟩
      · rename_i freshIdentifier
        refine ⟨fun same => ⟨⟨admissible, present.1, present.2, mt name.mpr freshName,
          mt identifier.mpr freshIdentifier⟩, (Except.ok.inj same).symm⟩, ?_⟩
        rintro ⟨-, rfl⟩
        rfl

/-- The catalog of scenarios is the list of them, if they can all be registered. -/
theorem ofList_eq_ok : ofList scenarios = .ok c ↔ Admissible scenarios ∧ c = ⟨scenarios⟩ := by
  have folded : ∀ (scenarios : List Scenario) (c d : Catalog), Admissible c.scenarios →
      (scenarios.foldlM register c = .ok d ↔
        Admissible (c.scenarios ++ scenarios) ∧ d = ⟨c.scenarios ++ scenarios⟩) := by
    intro scenarios
    induction scenarios with
    | nil =>
      intro c d admissible
      rw [List.append_nil, List.foldlM_nil]
      exact ⟨fun same => ⟨admissible, (Except.ok.inj same).symm⟩, fun ⟨_, same⟩ => same ▸ rfl⟩
    | cons s rest ih =>
      intro c d admissible
      rw [List.foldlM_cons, List.append_cons]
      cases registered : c.register s with
      | error error =>
        refine ⟨nofun, fun ⟨later, _⟩ => ?_⟩
        cases registered.symm.trans ((register_eq_ok admissible).mpr ⟨later.of_append, rfl⟩)
      | ok next =>
        obtain ⟨admissible, rfl⟩ := (register_eq_ok admissible).mp registered
        exact ih _ _ admissible
  exact folded scenarios {} c ⟨nofun, List.nodup_nil, List.nodup_nil⟩

end Catalog

namespace ScenarioConfig

variable {s : ScenarioConfig}

theorem isWord_iff {text : String} :
    isWord text = true ↔ text.toList ≠ [] ∧ ∀ c ∈ text.toList, Text.isBlank c = false := by
  simp [isWord]

theorem allBlank_of_isWord {text : String} (word : isWord text = true) :
    Text.allBlank text = false := by
  obtain ⟨nonempty, solid⟩ := isWord_iff.mp word
  rw [Text.allBlank_eq_all]
  obtain ⟨c, rest, chars⟩ := List.exists_cons_of_ne_nil nonempty
  rw [chars] at solid ⊢
  simp [solid c (.head _)]

theorem isBlank_of_isDigit {c : Char} (digit : c.isDigit = true) : Text.isBlank c = false := by
  simp only [Char.isDigit, Bool.and_eq_true, decide_eq_true_eq] at digit
  have low : 48 ≤ c.toNat := UInt32.le_iff_toNat_le.mp digit.1
  have high : c.toNat ≤ 57 := UInt32.le_iff_toNat_le.mp digit.2
  simp [Text.isBlank, Text.blankRanges]
  omega

/-- A position in digits is a word. -/
theorem isWord_effectiveIdentifier (chosen : ∀ identifier ∈ s.identifier, isWord identifier = true)
    (index : Nat) : isWord (s.effectiveIdentifier index) = true := by
  unfold effectiveIdentifier
  cases given : s.identifier with
  | some identifier => exact chosen identifier given
  | none =>
    rw [isWord_iff, Option.getD_none, String.toList_ofList]
    refine ⟨by simp [Nat.toDigits_ne_nil], fun c member => isBlank_of_isDigit ?_⟩
    rcases List.mem_append.mp member with padding | digit
    · rw [List.eq_of_mem_replicate padding]
      rfl
    · exact Nat.isDigit_of_mem_toDigits (by decide) (by decide) digit

theorem trim_of_allBlank {text : String} (blank : Text.allBlank text = true) :
    Text.trim text = "" := by
  rw [Text.allBlank_eq_all, List.all_eq_true] at blank
  have nothing : text.toList.dropWhile Text.isBlank = [] := by
    rw [← List.append_nil text.toList, List.dropWhile_append_of_pos blank, List.dropWhile_nil]
  rw [Text.trim, Text.trimChars, nothing]
  rfl

/-- What a scenario that passes its check has passed. -/
theorem parts_of_check (valid : s.check = .ok ()) :
    (Text.trim s.name).isEmpty = false ∧
      (Text.trim s.name).utf8ByteSize ≤ Config.maxNameBytes ∧
      checkIdentifier (Text.trim s.name) s.identifier = .ok () ∧
      ∀ source ∈ (s.data.map (·.sources)).getD [],
        checkSource (Text.trim s.name) source = .ok () := by
  unfold check at valid
  dsimp only at valid
  split at valid
  · cases valid
  · rename_i named
    split at valid
    · cases valid
    · rename_i short
      obtain ⟨_, identifier, valid⟩ := ok_of_bind valid
      obtain ⟨_, sources, -⟩ := ok_of_bind valid
      exact ⟨Bool.eq_false_iff.mpr named, Nat.not_lt.mp short, identifier,
        checked_of_forIn sources⟩

theorem allBlank_of_trim {text : String} (named : (Text.trim text).isEmpty = false) :
    Text.allBlank text = false := by
  rw [Bool.eq_false_iff]
  intro blank
  rw [trim_of_allBlank blank] at named
  cases named

theorem checkIdentifier_eq_ok {name : String} {given : Option String} :
    checkIdentifier name given = .ok () ↔ ∀ identifier ∈ given,
      isWord identifier = true ∧ identifier.utf8ByteSize ≤ Config.maxNameBytes := by
  cases given with
  | none => exact ⟨fun _ => nofun, fun _ => rfl⟩
  | some identifier =>
    rw [checkIdentifier]
    cases word : isWord identifier with
    | false => simp [word]
    | true =>
      by_cases long : Config.maxNameBytes < identifier.utf8ByteSize
      · simp [long]
      · simp [word, long, Nat.not_lt.mp long]

theorem check_eq_ok (valid : s.check = .ok ()) :
    Text.allBlank s.name = false ∧ ∀ identifier ∈ s.identifier, isWord identifier = true := by
  obtain ⟨named, -, identified, -⟩ := parts_of_check valid
  exact ⟨allBlank_of_trim named,
    fun identifier given => (checkIdentifier_eq_ok.mp identified identifier given).1⟩

end ScenarioConfig

namespace Config

/-- Scenarios from a position on, as they are registered. -/
def scenariosFrom (index : Nat) (scenarios : List ScenarioConfig) : List Scenario :=
  (scenarios.zipIdx index).map fun (s, index) => toScenario s index

theorem scenariosFrom_cons (index : Nat) (s : ScenarioConfig) (rest : List ScenarioConfig) :
    scenariosFrom index (s :: rest) = toScenario s index :: scenariosFrom (index + 1) rest := rfl

theorem checkScenarios_cons_eq_ok {names identifiers : List String} {index : Nat}
    {s : ScenarioConfig} {rest : List ScenarioConfig}
    (valid : checkScenarios names identifiers index (s :: rest) = .ok ()) :
    s.check = .ok () ∧ s.name ∉ names ∧ s.effectiveIdentifier index ∉ identifiers ∧
      checkScenarios (s.name :: names) (s.effectiveIdentifier index :: identifiers) (index + 1)
        rest = .ok () := by
  unfold checkScenarios at valid
  split at valid
  · cases valid
  · rename_i checked
    split at valid
    · cases valid
    · rename_i freshName
      split at valid
      · cases valid
      · rename_i freshIdentifier
        exact ⟨checked, fun old => freshName (List.contains_iff_mem.mpr old),
          fun old => freshIdentifier (List.contains_iff_mem.mpr old), valid⟩

theorem checkScenarios_eq_ok {names identifiers : List String} {index : Nat}
    {scenarios : List ScenarioConfig}
    (valid : checkScenarios names identifiers index scenarios = .ok ()) :
    Catalog.Admissible (scenariosFrom index scenarios) ∧
      ∀ s ∈ scenariosFrom index scenarios, s.name ∉ names ∧ s.identifier ∉ identifiers ∧
        ScenarioConfig.isWord s.identifier = true := by
  induction scenarios generalizing names identifiers index with
  | nil => exact ⟨⟨nofun, List.nodup_nil, List.nodup_nil⟩, nofun⟩
  | cons first rest ih =>
    obtain ⟨checked, freshName, freshIdentifier, valid⟩ := checkScenarios_cons_eq_ok valid
    obtain ⟨admissible, later⟩ := ih valid
    obtain ⟨named, chosen⟩ := ScenarioConfig.check_eq_ok checked
    have word := ScenarioConfig.isWord_effectiveIdentifier chosen index
    rw [scenariosFrom_cons]
    refine ⟨⟨?_, ?_, ?_⟩, ?_⟩
    · rintro s (_ | ⟨_, member⟩)
      · exact ⟨named, ScenarioConfig.allBlank_of_isWord word⟩
      · exact admissible.named s member
    · rw [List.map_cons, List.nodup_cons, List.mem_map]
      refine ⟨fun ⟨s, member, same⟩ => ?_, admissible.names⟩
      exact (later s member).1 (same ▸ List.mem_cons_self)
    · rw [List.map_cons, List.nodup_cons, List.mem_map]
      refine ⟨fun ⟨s, member, same⟩ => ?_, admissible.identifiers⟩
      exact (later s member).2.1 (same ▸ List.mem_cons_self)
    · rintro s (_ | ⟨_, member⟩)
      · exact ⟨freshName, freshIdentifier, word⟩
      · obtain ⟨name, identifier, word⟩ := later s member
        exact ⟨fun old => name (.tail _ old), fun old => identifier (.tail _ old), word⟩

variable {c : Config}

/-- What the sections of a valid configuration have passed. -/
theorem sections_of_check (valid : c.check = .ok ()) :
    checkLog c = .ok () ∧ c.scenarios.length ≤ maxScenarios ∧
      checkScenarios [] [] 0 c.scenarios = .ok () := by
  unfold check at valid
  dsimp only at valid
  split at valid
  · cases valid
  · obtain ⟨_, -, valid⟩ := ok_of_bind valid
    split at valid
    · cases valid
    · obtain ⟨_, logged, valid⟩ := ok_of_bind valid
      split at valid
      · cases valid
      · rename_i few
        exact ⟨logged, Nat.not_lt.mp few, valid⟩

theorem checkScenarios_of_check (valid : c.check = .ok ()) :
    checkScenarios [] [] 0 c.scenarios = .ok () := (sections_of_check valid).2.2

theorem scenarios_of_catalog {catalog : Catalog} (made : c.catalog = .ok catalog) :
    catalog.scenarios = scenariosFrom 0 c.scenarios := by
  unfold Config.catalog at made
  rw [show c.scenarios.zipIdx.map _ = scenariosFrom 0 c.scenarios from rfl] at made
  cases registered : Catalog.ofList (scenariosFrom 0 c.scenarios) with
  | error => rw [registered] at made; cases made
  | ok listed =>
    rw [registered] at made
    obtain rfl := Except.ok.inj made
    rw [(Catalog.ofList_eq_ok.mp registered).2]

theorem names_scenariosFrom (index : Nat) (scenarios : List ScenarioConfig) :
    (scenariosFrom index scenarios).map Scenario.name = scenarios.map ScenarioConfig.name := by
  induction scenarios generalizing index with
  | nil => rfl
  | cons s rest ih => rw [scenariosFrom_cons, List.map_cons, ih, List.map_cons, toScenario]

/-- The pool that is planned for a scenario, from its test data. -/
def PlanFor (c : Config) (s : ScenarioConfig) (plan : PoolPlan) : Prop :=
  ∃ data, s.data = some data ∧ plan =
    { scenario := s.name, order := data.order, cyclic := data.cyclic
      sources := data.sources.map c.resolveSource }

/-- The scenarios with test data have a pool each, and no others. -/
theorem plans_forall₂ (c : Config) :
    List.Forall₂ c.PlanFor (c.scenarios.filter (·.data.isSome)) c.plans := by
  unfold plans
  induction c.scenarios with
  | nil => exact .nil
  | cons s rest ih =>
    cases given : s.data with
    | none =>
      rw [List.filter_cons_of_neg (by simp [given]), List.filterMap_cons_none (by simp [given])]
      exact ih
    | some data =>
      rw [List.filter_cons_of_pos (by simp [given]), List.filterMap_cons_some (by rw [given]; rfl)]
      exact .cons ⟨data, given, rfl⟩ ih

theorem nodup_plans (valid : c.check = .ok ()) : (c.plans.map (·.scenario)).Nodup := by
  have names := (checkScenarios_eq_ok (checkScenarios_of_check valid)).1.names
  rw [names_scenariosFrom] at names
  have planned : c.plans.map (·.scenario) = (c.scenarios.filter (·.data.isSome)).map (·.name) := by
    rw [← List.forall₂_eq_eq_eq, List.forall₂_map_left_iff, List.forall₂_map_right_iff]
    exact (c.plans_forall₂.imp fun s plan ⟨_, _, made⟩ => congrArg PoolPlan.scenario made).flip
  rw [planned]
  exact names.sublist (List.filter_sublist.map _)

/-- A valid configuration has a catalog of its scenarios; their identifiers are distinct words. -/
theorem catalog_of_check (valid : c.check = .ok ()) :
    c.catalog = .ok ⟨scenariosFrom 0 c.scenarios⟩ ∧
      ((scenariosFrom 0 c.scenarios).map Scenario.identifier).Nodup ∧
      ∀ s ∈ scenariosFrom 0 c.scenarios, ScenarioConfig.isWord s.identifier = true := by
  obtain ⟨admissible, words⟩ := checkScenarios_eq_ok (checkScenarios_of_check valid)
  refine ⟨?_, admissible.identifiers, fun s member => (words s member).2.2⟩
  have registered := Catalog.ofList_eq_ok.mpr ⟨admissible, rfl⟩
  unfold catalog
  rw [show c.scenarios.zipIdx.map _ = scenariosFrom 0 c.scenarios from rfl, registered]
  rfl

end Config

end Muster
