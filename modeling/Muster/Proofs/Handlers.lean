import Mathlib.Data.List.Perm.Subperm
import Muster.Proofs.Overrides

/-!
When two handler tables are the same. Only their sizes are compared and the entries of one of them
looked up in the other, but keys are distinct, so nothing of the other is left over: tables are the
same if and only if they have the same handler under every name, however they were made.
-/

namespace Muster

/-- Entries that are found in a table of the same size are all of its entries. -/
theorem Table.eq_of_included {κ ν : Type} [Ord κ] [Std.LawfulEqOrd κ] [Std.TransOrd κ]
    {t other : Table κ ν} (size : t.size = other.size)
    (included : ∀ entry ∈ t.entries, other.find? entry.1 = some entry.2) : t = other := by
  have found : t.entries ⊆ other.entries := by
    intro entry member
    exact Table.find?_eq_some_iff_mem.mp (included entry member)
  have part := List.subperm_of_subset t.nodup_entries found
  exact Table.eq_of_perm (part.perm_of_length_le (Nat.le_of_eq size.symm))

namespace HandlerEntry

variable {η : Type}

/-- The same handler, with delivery acknowledged in both or in neither. -/
def Same (left right : HandlerEntry η) : Prop :=
  left.handler = right.handler ∧ left.ackRequired = right.ackRequired

theorem same_iff_eq {left right : HandlerEntry η} : left.Same right ↔ left = right := by
  cases left
  cases right
  simp only [Same, mk.injEq]

/-- Both are absent or the same. -/
theorem rel_same_iff_eq {found other : Option (HandlerEntry η)} :
    Option.Rel Same found other ↔ found = other := by
  cases found <;> cases other <;> simp [same_iff_eq]

end HandlerEntry

namespace HandlerTable

variable {η : Type}

/-- How a table is made: entries are inserted one by one, and overrides built over defaults. -/
inductive Making (η : Type)
  | empty
  | insert (making : Making η) (name : MessageName) (entry : HandlerEntry η)
  | build (defaults overrides : Making η)

namespace Making

def table : Making η → HandlerTable η
  | empty => ∅
  | insert making name entry => making.table.insert name entry
  | build defaults overrides => HandlerTable.build defaults.table overrides.table

/-- The entry that was given last for a name; what is given in overrides counts as later. -/
def latest? (sought : MessageName) : Making η → Option (HandlerEntry η)
  | empty => none
  | insert making name entry => if sought = name then some entry else making.latest? sought
  | build defaults overrides => (overrides.latest? sought).or (defaults.latest? sought)

theorem find?_table (making : Making η) (name : MessageName) :
    making.table.find? name = making.latest? name := by
  induction making with
  | empty => rfl
  | insert making other entry ih => rw [table, Table.find?_insert, latest?, ih]
  | build defaults overrides first second => rw [table, find?_build, latest?, first, second]

end Making

section Sameness

variable [DecidableEq η] {a b : HandlerTable η}

theorem sameAs_iff_eq : a.sameAs b = true ↔ a = b := by
  simp only [sameAs, Bool.and_eq_true, beq_iff_eq, List.all_eq_true, decide_eq_true_eq]
  constructor
  · rintro ⟨size, included⟩
    exact Table.eq_of_included size included
  · rintro rfl
    exact ⟨rfl, fun entry member => Table.find?_eq_some_iff_mem.mpr member⟩

theorem sameAs_iff_find? :
    a.sameAs b = true ↔ ∀ name, Option.Rel HandlerEntry.Same (a.find? name) (b.find? name) := by
  rw [sameAs_iff_eq]
  simp only [HandlerEntry.rel_same_iff_eq]
  constructor
  · rintro rfl name
    rfl
  · exact Table.ext_find?

/-- Tables are the same if and only if under every name they both have nothing or the same handler
and flag; for tables that were made step by step this is what was given last for the name. So it does
not matter which of the tables is looked up in the other. -/
theorem same_tables_same_lookups :
    (∀ a b : HandlerTable η, a.sameAs b = true ↔
      ∀ name, Option.Rel HandlerEntry.Same (a.find? name) (b.find? name)) ∧
    (∀ one other : Making η, one.table.sameAs other.table = true ↔
      ∀ name, Option.Rel HandlerEntry.Same (one.latest? name) (other.latest? name)) ∧
    Equivalence fun a b : HandlerTable η => a.sameAs b = true := by
  refine ⟨fun a b => sameAs_iff_find?, fun one other => ?_, ?_⟩
  · rw [sameAs_iff_find?]
    simp only [Making.find?_table]
  · simp only [sameAs_iff_eq]
    exact eq_equivalence

end Sameness

end HandlerTable

end Muster
