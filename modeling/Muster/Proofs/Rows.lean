/-!
Lists as rows that are found by their place: what a new last row or a changed row leaves in place.
-/

namespace Muster

variable {α β : Type} {rows more : List α} {i n : Nat} {old row found : α}

theorem getElem?_append_old (here : rows[n]? = some old) : (rows ++ more)[n]? = some old := by
  have below := (List.getElem?_eq_some_iff.mp here).1
  rw [List.getElem?_append_left below, here]

theorem getElem?_append_cases (here : (rows ++ [row])[n]? = some found) :
    rows[n]? = some found ∨ (n = rows.length ∧ found = row) := by
  rcases Nat.lt_or_ge n rows.length with below | above
  · rw [List.getElem?_append_left below] at here
    exact .inl here
  · rw [List.getElem?_append_right above] at here
    obtain ⟨last, same⟩ := List.getElem?_eq_some_iff.mp here
    simp only [List.length_cons, List.length_nil] at last
    have first : n - rows.length = 0 := by omega
    simp only [first, List.getElem_cons_zero] at same
    exact .inr ⟨by omega, same.symm⟩

theorem getElem?_append_toList {last : Option α}
    (here : (rows ++ last.toList)[n]? = some found) :
    rows[n]? = some found ∨ (n = rows.length ∧ last = some found) := by
  cases last with
  | none =>
    rw [Option.toList_none, List.append_nil] at here
    exact .inl here
  | some row =>
    rcases getElem?_append_cases here with old | ⟨last, rfl⟩
    · exact .inl old
    · exact .inr ⟨last, rfl⟩

theorem getElem?_set_same (present : rows[i]? = some old) : (rows.set i row)[i]? = some row :=
  List.getElem?_set_self (List.getElem?_eq_some_iff.mp present).1

theorem getElem?_set_cases (present : rows[i]? = some old)
    (here : (rows.set i row)[n]? = some found) :
    (n = i ∧ found = row) ∨ (n ≠ i ∧ rows[n]? = some found) := by
  by_cases same : n = i
  · subst same
    rw [getElem?_set_same present] at here
    exact .inl ⟨rfl, (Option.some.inj here).symm⟩
  · rw [List.getElem?_set_ne (Ne.symm same)] at here
    exact .inr ⟨same, here⟩

/-- A changed row whose image is the same. -/
theorem map_set_same {f : α → β} (present : rows[i]? = some old) (same : f row = f old) :
    (rows.set i row).map f = rows.map f := by
  refine List.ext_getElem? fun n => ?_
  rw [List.getElem?_map, List.getElem?_map]
  by_cases here : n = i
  · rw [here, getElem?_set_same present, present, Option.map_some, Option.map_some, same]
  · rw [List.getElem?_set_ne (Ne.symm here)]

/-- Rows that are written in any order can be read back, if each of them can. -/
theorem mapM_perm {encode : α → β} (decode : β → Option α) {written : List β}
    (undone : ∀ row ∈ rows, decode (encode row) = some row)
    (perm : written.Perm (rows.map encode)) :
    ∃ read, written.mapM decode = some read ∧ read.Perm rows := by
  induction written generalizing rows with
  | nil =>
    obtain rfl := List.map_eq_nil_iff.mp perm.nil_eq.symm
    exact ⟨[], rfl, .nil⟩
  | cons first rest ih =>
    -- what was written first may come from any place
    obtain ⟨row, member, rfl⟩ := List.mem_map.mp (perm.subset List.mem_cons_self)
    obtain ⟨front, back, rfl⟩ := List.append_of_mem member
    have others : rest.Perm ((front ++ back).map encode) := by
      rw [List.map_append, List.map_cons] at perm
      rw [List.map_append]
      exact (perm.trans List.perm_middle).cons_inv
    obtain ⟨read, decoded, same⟩ := ih (fun other here => undone other (by
      rcases List.mem_append.mp here with before | after
      · exact List.mem_append_left _ before
      · exact List.mem_append_right _ (.tail _ after))) others
    refine ⟨row :: read, ?_, (same.cons row).trans List.perm_middle.symm⟩
    rw [List.mapM_cons, undone row member, decoded]
    rfl

/-- Rows sorted by a key: those of other keys, and then those of each key. -/
theorem perm_fibers {κ : Type} [DecidableEq κ] (f : α → κ) {keys : List κ} (once : keys.Nodup)
    (rows : List α) :
    (rows.filter (fun row => f row ∉ keys) ++
      keys.flatMap fun key => rows.filter (fun row => f row = key)).Perm rows := by
  induction keys with
  | nil =>
    have all : rows.filter (fun row => f row ∉ []) = rows := List.filter_eq_self.mpr (by simp)
    rw [all, List.flatMap_nil, List.append_nil]
  | cons key rest ih =>
    obtain ⟨fresh, once⟩ := List.nodup_cons.mp once
    have others : rows.filter (fun row => f row ∉ key :: rest) =
        (rows.filter fun row => f row ∉ rest).filter fun row => !decide (f row = key) := by
      rw [List.filter_filter]
      refine List.filter_congr fun row _ => ?_
      simp
    have own : rows.filter (fun row => f row = key) =
        (rows.filter fun row => f row ∉ rest).filter fun row => decide (f row = key) := by
      rw [List.filter_filter]
      refine List.filter_congr fun row _ => ?_
      by_cases same : f row = key
      · simp [same, fresh]
      · simp [same]
    rw [List.flatMap_cons, ← List.append_assoc, others, own]
    refine .trans (.append_right _ ?_) (ih once)
    exact List.perm_append_comm.trans (List.filter_append_perm _ _)

end Muster
