import Mathlib.Data.List.Basic
import Muster.Proofs.Table
import Muster.Handlers

/-!
Which entry a message name has in a table that is built from defaults and overrides. It is the
newest registration of the last direction that has one, and without any it is the default; building
is associative, and building again with the same overrides changes nothing.
-/

namespace Muster

namespace HandlerTable

variable {η : Type}

theorem find?_build (defaults overrides : HandlerTable η) (name : MessageName) :
    (build defaults overrides).find? name = (overrides.find? name).or (defaults.find? name) :=
  Table.find?_union defaults overrides name

theorem build_assoc (defaults overrides last : HandlerTable η) :
    build (build defaults overrides) last = build defaults (build overrides last) :=
  Table.union_assoc defaults overrides last

theorem build_build (defaults overrides : HandlerTable η) :
    build (build defaults overrides) overrides = build defaults overrides :=
  (build_assoc ..).trans (congrArg (build defaults) (Table.union_self overrides))

end HandlerTable

namespace Registry

variable {η : Type}

/-- What is done to a registry from outside. -/
inductive Call (η : Type)
  | register (direction : Direction) (name : MessageName) (entry : HandlerEntry η)
  | clear

def call (r : Registry η) : Call η → Registry η
  | .register d name entry => r.register d name entry
  | .clear => {}

/-- A registry after calls, the oldest first. -/
def after (calls : List (Call η)) : Registry η := calls.foldl call {}

/-- The entry that was registered last for a name in a direction, unless the registry was cleared
after that. The newest call comes first. -/
def latest? (d : Direction) (name : MessageName) : List (Call η) → Option (HandlerEntry η)
  | [] => none
  | .clear :: _ => none
  | .register other called entry :: older =>
    if other = d ∧ called = name then some entry else latest? d name older

/-- The call is for one of the directions, or for all of them. -/
def Call.concerns (directions : List Direction) : Call η → Bool
  | .register d _ _ => d ∈ directions
  | .clear => true

theorem direction_register (r : Registry η) (d other : Direction) (name : MessageName)
    (entry : HandlerEntry η) : (r.register d name entry).direction other =
      if other = d then (r.direction other).insert name entry else r.direction other := by
  cases d <;> cases other <;> rfl

/-- A direction holds what was registered last. -/
theorem find?_direction_after (calls : List (Call η)) (d : Direction) (name : MessageName) :
    ((after calls).direction d).find? name = latest? d name calls.reverse := by
  rw [after, List.foldl_eq_foldr_reverse]
  induction calls.reverse with
  | nil => cases d <;> rfl
  | cons newest older ih =>
    rw [List.foldr_cons]
    cases newest with
    | clear => cases d <;> rfl
    | register other called entry =>
      rw [call, direction_register, latest?, ← ih]
      by_cases own : d = other
      · subst own
        by_cases same : name = called
        · simp [same]
        · simp [same, Ne.symm same]
      · simp [own, Ne.symm own]

/-- Of several directions the last counts that has the name. -/
theorem find?_overridesFor (r : Registry η) (directions : List Direction) (name : MessageName) :
    (r.overridesFor directions).find? name =
      directions.reverse.findSome? fun d => (r.direction d).find? name := by
  rw [overridesFor, List.foldl_eq_foldr_reverse]
  induction directions.reverse with
  | nil => rfl
  | cons last before ih =>
    rw [List.foldr_cons, Table.find?_union, ih, List.findSome?_cons]
    cases (r.direction last).find? name <;> rfl

/-- Calls for other directions do not count. -/
theorem latest?_filter {directions : List Direction} {d : Direction} (listed : d ∈ directions)
    (name : MessageName) (calls : List (Call η)) :
    latest? d name (calls.filter (Call.concerns directions)) = latest? d name calls := by
  induction calls with
  | nil => rfl
  | cons newest older ih =>
    cases newest with
    | clear => rfl
    | register other called entry =>
      by_cases concerns : other ∈ directions
      · rw [List.filter_cons_of_pos (by simpa [Call.concerns] using concerns), latest?, latest?, ih]
      · have apart : other ≠ d := fun same => concerns (same ▸ listed)
        rw [List.filter_cons_of_neg (by simpa [Call.concerns] using concerns), ih, latest?,
          if_neg fun both => apart both.1]

theorem find?_overridesFor_after (calls : List (Call η)) (directions : List Direction)
    (name : MessageName) : ((after calls).overridesFor directions).find? name =
      directions.reverse.findSome? fun d => latest? d name calls.reverse := by
  rw [find?_overridesFor]
  exact congrArg (directions.reverse.findSome? ·)
    (funext fun d => find?_direction_after calls d name)

theorem overridesFor_filter (calls : List (Call η)) (directions : List Direction) :
    (after (calls.filter (Call.concerns directions))).overridesFor directions =
      (after calls).overridesFor directions := by
  refine Table.ext_find? fun name => ?_
  rw [find?_overridesFor_after, find?_overridesFor_after]
  have same : ∀ d ∈ directions.reverse,
      latest? d name (calls.filter (Call.concerns directions)).reverse =
        latest? d name calls.reverse := by
    intro d member
    rw [← List.filter_reverse, latest?_filter (List.mem_reverse.mp member)]
  rw [← List.head?_filterMap, ← List.head?_filterMap, List.filterMap_congr same]

/-- The table that defaults and the overrides of some directions make after calls. -/
def effective (calls : List (Call η)) (directions : List Direction) (defaults : HandlerTable η) :
    HandlerTable η :=
  HandlerTable.build defaults ((after calls).overridesFor directions)

/-- Of the listed directions the last counts that has an entry, and in a direction the entry that
was registered last since the registry was cleared; a name without any has its default. Nothing
else is in the table, and what is registered for other directions does not count. -/
theorem newest_override_wins (calls : List (Call η)) (directions : List Direction)
    (defaults : HandlerTable η) :
    (∀ name, (effective calls directions defaults).find? name =
      (directions.reverse.findSome? fun d => latest? d name calls.reverse).or
        (defaults.find? name)) ∧
    (∀ name, name ∈ (effective calls directions defaults).keys ↔
      (∃ d ∈ directions, (latest? d name calls.reverse).isSome) ∨ name ∈ defaults.keys) ∧
    effective (calls.filter (Call.concerns directions)) directions defaults =
      effective calls directions defaults ∧
    (∀ first second third : HandlerTable η,
      HandlerTable.build (HandlerTable.build first second) third =
        HandlerTable.build first (HandlerTable.build second third)) ∧
    (∀ table : HandlerTable η, HandlerTable.build ∅ table = table ∧
      HandlerTable.build table ∅ = table) ∧
    ∀ first second : HandlerTable η,
      HandlerTable.build (HandlerTable.build first second) second =
        HandlerTable.build first second := by
  have found : ∀ name, (effective calls directions defaults).find? name =
      (directions.reverse.findSome? fun d => latest? d name calls.reverse).or
        (defaults.find? name) := by
    intro name
    rw [effective, HandlerTable.find?_build, find?_overridesFor_after]
  refine ⟨found, fun name => ?_, congrArg (HandlerTable.build defaults) (overridesFor_filter ..),
    HandlerTable.build_assoc, fun table => ⟨Table.empty_union table, rfl⟩, HandlerTable.build_build⟩
  rw [Table.mem_keys_iff, Table.mem_keys_iff, found, Option.isSome_or, Bool.or_eq_true,
    List.findSome?_isSome_iff]
  simp only [List.mem_reverse]

end Registry

end Muster
