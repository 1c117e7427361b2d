import Mathlib.Algebra.Ring.Nat
import Muster.Table

/-!
A table as the list of its entries: no key occurs twice, a key is bound to what stands beside it,
and tables that bind the same are equal. From that, what a union binds and the laws of unions.
-/

namespace Muster.Table

variable {κ ν : Type} [Ord κ] [Std.LawfulEqOrd κ]

theorem nodup_keys (t : Table κ ν) : t.keys.Nodup := by
  refine List.pairwise_map.mpr (t.sorted.imp fun {left right} below same => ?_)
  have equal : compare right.1 right.1 = .eq := Std.ReflCmp.compare_self
  rw [same, equal] at below
  cases below

theorem lookup_eq_some_iff_mem {key : κ} {value : ν} {entries : List (κ × ν)}
    (once : (entries.map Prod.fst).Nodup) :
    lookup key entries = some value ↔ (key, value) ∈ entries := by
  induction entries with
  | nil => exact ⟨nofun, nofun⟩
  | cons head rest ih =>
    obtain ⟨first, held⟩ := head
    obtain ⟨fresh, once⟩ := List.nodup_cons.mp once
    unfold lookup
    split
    · rename_i same
      obtain rfl := Std.LawfulEqCmp.eq_of_compare same
      constructor
      · intro found
        rw [Option.some.inj found]
        exact List.mem_cons_self
      · intro member
        rcases List.mem_cons.mp member with here | later
        · rw [(Prod.mk.inj here).2]
        · exact absurd (List.mem_map_of_mem (f := Prod.fst) later) fresh
    · rename_i apart
      rw [ih once, List.mem_cons]
      refine ⟨.inr, fun member => member.resolve_left fun here => ?_⟩
      rw [(Prod.mk.inj here).1] at apart
      exact apart Std.ReflCmp.compare_self

theorem find?_eq_some_iff_mem {t : Table κ ν} {key : κ} {value : ν} :
    t.find? key = some value ↔ (key, value) ∈ t.entries :=
  lookup_eq_some_iff_mem t.nodup_keys

theorem mem_keys_iff {t : Table κ ν} {key : κ} : key ∈ t.keys ↔ (t.find? key).isSome = true := by
  rw [Option.isSome_iff_exists]
  simp only [find?_eq_some_iff_mem, keys, List.mem_map, Prod.exists, exists_and_right,
    exists_eq_right]

/-! ### Insertion -/

/-- A key that is bound again keeps its place. -/
theorem entries_insert_of_some [Std.TransOrd κ] {t : Table κ ν} {key : κ} {old : ν}
    (found : t.find? key = some old) (new : ν) :
    ∃ before after, t.entries = before ++ (key, old) :: after ∧
      (t.insert key new).entries = before ++ (key, new) :: after := by
  have placed : ∀ entries : List (κ × ν),
      entries.Pairwise (fun left right => compare left.1 right.1 = .lt) →
      lookup key entries = some old → ∃ before after, entries = before ++ (key, old) :: after ∧
        insertEntry key new entries = before ++ (key, new) :: after := by
    intro entries
    induction entries with
    | nil => intro _ found; cases found
    | cons head rest ih =>
      obtain ⟨first, held⟩ := head
      intro sorted found
      obtain ⟨above, sorted⟩ := List.pairwise_cons.mp sorted
      unfold insertEntry
      unfold lookup at found
      cases order : compare key first with
      | lt =>
        rw [order] at found
        obtain ⟨entry, member, same⟩ := List.mem_map.mp (mem_of_lookup found)
        have later := Std.OrientedCmp.gt_of_lt (above entry member)
        rw [same, order] at later
        cases later
      | eq =>
        rw [order] at found
        obtain rfl := Option.some.inj found
        obtain rfl := Std.LawfulEqCmp.eq_of_compare order
        exact ⟨[], rest, rfl, rfl⟩
      | gt =>
        rw [order] at found
        obtain ⟨before, after, rfl, placed⟩ := ih sorted found
        exact ⟨(first, held) :: before, after, rfl, congrArg ((first, held) :: ·) placed⟩
  exact placed t.entries t.sorted found

/-- A key that was not bound comes in between. -/
theorem entries_insert_of_none [Std.TransOrd κ] {t : Table κ ν} {key : κ}
    (absent : t.find? key = none) (new : ν) :
    ∃ before after, t.entries = before ++ after ∧
      (t.insert key new).entries = before ++ (key, new) :: after := by
  have placed : ∀ entries : List (κ × ν), lookup key entries = none →
      ∃ before after, entries = before ++ after ∧
        insertEntry key new entries = before ++ (key, new) :: after := by
    intro entries
    induction entries with
    | nil => exact fun _ => ⟨[], [], rfl, rfl⟩
    | cons head rest ih =>
      obtain ⟨first, held⟩ := head
      intro absent
      unfold insertEntry
      unfold lookup at absent
      cases order : compare key first with
      | lt => exact ⟨[], (first, held) :: rest, rfl, rfl⟩
      | eq => rw [order] at absent; cases absent
      | gt =>
        rw [order] at absent
        obtain ⟨before, after, rfl, placed⟩ := ih absent
        exact ⟨(first, held) :: before, after, rfl, congrArg ((first, held) :: ·) placed⟩
  exact placed t.entries absent

/-- A key that is bound again: of all entries its own may now count, or no longer. -/
theorem countP_insert [Std.TransOrd κ] {t : Table κ ν} {key : κ} {old : ν}
    (found : t.find? key = some old) (new : ν) (p : κ × ν → Bool) :
    (t.insert key new).entries.countP p + (if p (key, old) then 1 else 0) =
      t.entries.countP p + (if p (key, new) then 1 else 0) := by
  obtain ⟨before, after, was, is⟩ := entries_insert_of_some found new
  rw [was, is]
  simp only [List.countP_append, List.countP_cons]
  omega

/-- A value that is replaced by one with the same image. -/
theorem map_values_insert [Std.TransOrd κ] {β : Type} {f : ν → β} {t : Table κ ν} {key : κ}
    {old new : ν} (found : t.find? key = some old) (same : f new = f old) :
    (t.insert key new).values.map f = t.values.map f := by
  obtain ⟨before, after, was, is⟩ := entries_insert_of_some found new
  simp only [values, was, is, List.map_append, List.map_cons, same]

/-- What is added at one key is added to the sum. -/
theorem sum_values_add [Std.TransOrd κ] (t : Table κ Nat) (key : κ) (added : Nat) :
    (t.alter key fun count => count.getD 0 + added).values.sum = t.values.sum + added := by
  unfold alter
  cases found : t.find? key with
  | none =>
    obtain ⟨before, after, was, is⟩ := entries_insert_of_none found added
    simp only [values, was, Option.getD_none, Nat.zero_add, is, List.map_append, List.map_cons,
      List.sum_append, List.sum_cons]
    omega
  | some old =>
    obtain ⟨before, after, was, is⟩ := entries_insert_of_some found (old + added)
    simp only [values, was, Option.getD_some, is, List.map_append, List.map_cons,
      List.sum_append, List.sum_cons]
    omega

/-! ### Equality -/

theorem nodup_entries (t : Table κ ν) : t.entries.Nodup :=
  (List.pairwise_map.mp t.nodup_keys).imp fun apart same => apart (congrArg Prod.fst same)

omit [Std.LawfulEqOrd κ] in
/-- The order of the entries says nothing more. -/
theorem eq_of_perm [Std.TransOrd κ] {t other : Table κ ν} (perm : t.entries.Perm other.entries) :
    t = other := by
  have ordered : t.entries = other.entries :=
    perm.eq_of_pairwise (fun a b _ _ below above =>
      absurd (Std.OrientedCmp.gt_of_lt below) (by rw [above]; exact nofun)) t.sorted other.sorted
  obtain ⟨_, _⟩ := t
  obtain ⟨_, _⟩ := other
  cases ordered
  rfl

/-- A table is what it binds. -/
theorem ext_find? [Std.TransOrd κ] {t other : Table κ ν}
    (same : ∀ key, t.find? key = other.find? key) : t = other := by
  apply eq_of_perm
  refine (List.perm_ext_iff_of_nodup t.nodup_entries other.nodup_entries).mpr ?_
  rintro ⟨key, value⟩
  rw [← find?_eq_some_iff_mem, ← find?_eq_some_iff_mem, same]

theorem eq_empty_iff [Std.TransOrd κ] {t : Table κ ν} :
    t = ∅ ↔ ∀ key, t.find? key = none := by
  constructor
  · rintro rfl
    exact find?_empty
  · intro absent
    exact ext_find? absent

section Insertions

variable [Std.TransOrd κ] [DecidableEq κ]

theorem find?_alter (t : Table κ ν) (key other : κ) (f : Option ν → ν) :
    (t.alter key f).find? other = if other = key then some (f (t.find? key)) else t.find? other :=
  find?_insert ..

/-- Items that are collected under a key each: what a key is bound to comes of its own items. -/
theorem find?_foldl_alter {α : Type} (keyOf : α → κ) (collect : Option ν → α → ν) (items : List α)
    (t : Table κ ν) (key : κ) :
    (items.foldl (fun t item => t.alter (keyOf item) fun old => collect old item) t).find? key =
      items.foldl (fun found item => if keyOf item = key then some (collect found item) else found)
        (t.find? key) := by
  induction items generalizing t with
  | nil => rfl
  | cons item rest ih =>
    rw [List.foldl_cons, List.foldl_cons, ih, find?_alter]
    by_cases own : keyOf item = key
    · rw [if_pos own.symm, if_pos own, own]
    · rw [if_neg (Ne.symm own), if_neg own]

/-- Changes at two keys can be made in either order, and so can changes at one that commute. -/
theorem alter_comm (t : Table κ ν) (key other : κ) (f g : Option ν → ν)
    (same : key = other → ∀ old, f (some (g old)) = g (some (f old))) :
    (t.alter key f).alter other g = (t.alter other g).alter key f := by
  refine ext_find? fun sought => ?_
  simp only [find?_alter]
  by_cases one : key = other
  · subst one
    by_cases here : sought = key
    · simp [here, same rfl]
    · simp [here]
  · by_cases here : sought = key
    · subst here
      simp [one]
    · simp [here, Ne.symm one]

end Insertions

section Insertions

variable [Std.TransOrd κ] [DecidableEq κ] {entries : List (κ × ν)}

theorem find?_foldl_insert_of_nodup (once : (entries.map Prod.fst).Nodup) (t : Table κ ν)
    (key : κ) : (entries.foldl (fun t entry => t.insert entry.1 entry.2) t).find? key =
      (lookup key entries).or (t.find? key) := by
  induction entries generalizing t with
  | nil => rfl
  | cons entry rest ih =>
    obtain ⟨first, value⟩ := entry
    obtain ⟨fresh, once⟩ := List.nodup_cons.mp once
    rw [List.foldl_cons, ih once, find?_insert]
    by_cases same : key = first
    · subst same
      have absent : lookup key rest = none := by
        cases found : lookup key rest with
        | none => rfl
        | some other => exact absurd (mem_of_lookup found) fresh
      simp [absent, lookup]
    · simp [same, lookup]

/-- A union binds what the second table binds, and else what the first binds. -/
theorem find?_union (t other : Table κ ν) (key : κ) :
    (t.union other).find? key = (other.find? key).or (t.find? key) :=
  find?_foldl_insert_of_nodup other.nodup_keys t key

theorem empty_union (t : Table κ ν) : (∅ : Table κ ν).union t = t := by
  refine ext_find? fun key => ?_
  rw [find?_union, find?_empty, Option.or_none]

theorem union_assoc (t other last : Table κ ν) :
    (t.union other).union last = t.union (other.union last) := by
  refine ext_find? fun key => ?_
  rw [find?_union, find?_union, find?_union, find?_union, Option.or_assoc]

theorem union_self (t : Table κ ν) : t.union t = t := by
  refine ext_find? fun key => ?_
  rw [find?_union, Option.or_self]

theorem find?_ofList (once : (entries.map Prod.fst).Nodup) (key : κ) :
    (ofList entries).find? key = lookup key entries :=
  (find?_foldl_insert_of_nodup once ∅ key).trans (Option.or_none ..)

/-- The order of pairs with distinct keys does not matter. -/
theorem ofList_perm {t : Table κ ν} (perm : entries.Perm t.entries) : ofList entries = t := by
  have once : (entries.map Prod.fst).Nodup := (perm.map Prod.fst).nodup_iff.mpr t.nodup_keys
  refine ext_find? fun key => Option.ext fun value => ?_
  rw [find?_ofList once, lookup_eq_some_iff_mem once, find?_eq_some_iff_mem, perm.mem_iff]

end Insertions

end Muster.Table
