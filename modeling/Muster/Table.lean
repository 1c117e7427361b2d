/-!
Finite maps as sorted association lists. The entries of a table are in strictly increasing key
order, so two tables with the same contents are equal and iteration needs no separate sort.
-/

namespace Muster

/-- A finite map, kept as its entries in strictly increasing key order. -/
structure Table (κ : Type) (ν : Type) [Ord κ] where
  entries : List (κ × ν)
  sorted : entries.Pairwise (fun left right => compare left.1 right.1 = .lt)
deriving DecidableEq

namespace Table

variable {κ ν : Type} [Ord κ]

protected def empty : Table κ ν := ⟨[], List.Pairwise.nil⟩

instance : EmptyCollection (Table κ ν) := ⟨Table.empty⟩
instance : Inhabited (Table κ ν) := ⟨∅⟩

def size (t : Table κ ν) : Nat := t.entries.length
def isEmpty (t : Table κ ν) : Bool := t.entries.isEmpty
def keys (t : Table κ ν) : List κ := t.entries.map (·.1)
def values (t : Table κ ν) : List ν := t.entries.map (·.2)

/-- Looks a key up; the first entry with the key decides. -/
def lookup (key : κ) : List (κ × ν) → Option ν
  | [] => none
  | (other, value) :: rest =>
    match compare key other with
    | .eq => some value
    | _ => lookup key rest

def find? (t : Table κ ν) (key : κ) : Option ν := lookup key t.entries
def contains (t : Table κ ν) (key : κ) : Bool := (t.find? key).isSome

/-- Ordered insertion overwrites the value at an existing key. -/
def insertEntry (key : κ) (value : ν) : List (κ × ν) → List (κ × ν)
  | [] => [(key, value)]
  | (other, previous) :: rest =>
    match compare key other with
    | .lt => (key, value) :: (other, previous) :: rest
    | .eq => (key, value) :: rest
    | .gt => (other, previous) :: insertEntry key value rest

theorem mem_insertEntry {key : κ} {value : ν} {entries : List (κ × ν)} {entry : κ × ν}
    (member : entry ∈ insertEntry key value entries) : entry = (key, value) ∨ entry ∈ entries := by
  induction entries with
  | nil => simpa [insertEntry] using member
  | cons head rest ih =>
    obtain ⟨other, previous⟩ := head
    unfold insertEntry at member
    split at member <;> simp only [List.mem_cons] at member ⊢
    · exact member
    · exact member.imp_right .inr
    · rcases member with same | tail
      · exact .inr (.inl same)
      · exact (ih tail).imp_right .inr

theorem insertEntry_sorted [Std.TransOrd κ] [Std.LawfulEqOrd κ] (key : κ) (value : ν)
    {entries : List (κ × ν)}
    (sorted : entries.Pairwise (fun left right => compare left.1 right.1 = .lt)) :
    (insertEntry key value entries).Pairwise (fun left right => compare left.1 right.1 = .lt) := by
  induction entries with
  | nil => simp [insertEntry]
  | cons head rest ih =>
    obtain ⟨other, previous⟩ := head
    obtain ⟨above, tail⟩ := List.pairwise_cons.mp sorted
    unfold insertEntry
    split
    · rename_i below
      refine List.pairwise_cons.mpr ⟨fun entry member => ?_, sorted⟩
      rcases List.mem_cons.mp member with rfl | later
      · exact below
      · exact Std.TransCmp.lt_trans below (above entry later)
    · rename_i same
      obtain rfl := Std.LawfulEqCmp.eq_of_compare same
      exact List.pairwise_cons.mpr ⟨above, tail⟩
    · rename_i after
      refine List.pairwise_cons.mpr ⟨fun entry member => ?_, ih tail⟩
      rcases mem_insertEntry member with rfl | old
      · exact Std.OrientedCmp.lt_of_gt after
      · exact above entry old

/-- Binds the key, replacing what it was bound to. -/
def insert [Std.TransOrd κ] [Std.LawfulEqOrd κ] (t : Table κ ν) (key : κ) (value : ν) :
    Table κ ν :=
  ⟨insertEntry key value t.entries, insertEntry_sorted key value t.sorted⟩

def erase (t : Table κ ν) (key : κ) : Table κ ν :=
  ⟨t.entries.filter (fun entry => compare key entry.1 != .eq), t.sorted.filter _⟩

/-- Changes the value at one key, given what the key was bound to. -/
def alter [Std.TransOrd κ] [Std.LawfulEqOrd κ] (t : Table κ ν) (key : κ) (f : Option ν → ν) :
    Table κ ν :=
  t.insert key (f (t.find? key))

/-- The bindings of both tables; those of `other` win. -/
def union [Std.TransOrd κ] [Std.LawfulEqOrd κ] (t other : Table κ ν) : Table κ ν :=
  other.entries.foldl (fun merged entry => merged.insert entry.1 entry.2) t

/-- Binds the pairs in turn, so a later pair wins. -/
def ofList [Std.TransOrd κ] [Std.LawfulEqOrd κ] (pairs : List (κ × ν)) : Table κ ν :=
  pairs.foldl (fun table pair => table.insert pair.1 pair.2) ∅

def map {μ : Type} (f : κ → ν → μ) (t : Table κ ν) : Table κ μ :=
  ⟨t.entries.map (fun entry => (entry.1, f entry.1 entry.2)), by
    rw [List.pairwise_map]; exact t.sorted⟩

@[simp] theorem find?_empty (key : κ) : (∅ : Table κ ν).find? key = none := rfl

theorem lookup_insertEntry [Std.TransOrd κ] [Std.LawfulEqOrd κ] [DecidableEq κ] (key other : κ)
    (value : ν) (entries : List (κ × ν)) :
    lookup other (insertEntry key value entries) =
      if other = key then some value else lookup other entries := by
  induction entries with
  | nil =>
    by_cases same : other = key
    · subst same; simp [insertEntry, lookup]
    · have apart : compare other key ≠ .eq := fun h => same (Std.LawfulEqCmp.eq_of_compare h)
      simp [insertEntry, lookup, same]
  | cons head rest ih =>
    obtain ⟨first, previous⟩ := head
    unfold insertEntry
    split
    · by_cases same : other = key
      · subst same; simp [lookup]
      · simp [lookup, same]
    · rename_i equal
      obtain rfl := Std.LawfulEqCmp.eq_of_compare equal
      by_cases same : other = key
      · subst same; simp [lookup]
      · simp [lookup, same]
    · rename_i after
      simp only [lookup, ih]
      by_cases same : other = key
      · subst same; simp [after]
      · simp [same]

@[simp] theorem find?_insert [Std.TransOrd κ] [Std.LawfulEqOrd κ] [DecidableEq κ]
    (t : Table κ ν) (key other : κ) (value : ν) :
    (t.insert key value).find? other = if other = key then some value else t.find? other :=
  lookup_insertEntry key other value t.entries

theorem lookup_filter [Std.TransOrd κ] [Std.LawfulEqOrd κ] [DecidableEq κ] (key other : κ)
    (entries : List (κ × ν)) :
    lookup other (entries.filter fun entry => compare key entry.1 != .eq) =
      if other = key then none else lookup other entries := by
  induction entries with
  | nil => simp [lookup]
  | cons head rest ih =>
    obtain ⟨first, value⟩ := head
    by_cases removed : key = first
    · subst removed
      by_cases same : other = key
      · subst same; simp [ih]
      · simp [lookup, ih, same]
    · have kept : (compare key first != .eq) = true := by simpa using removed
      simp only [List.filter_cons, kept, if_true, lookup, ih]
      by_cases same : other = key
      · subst same; simp [removed]
      · simp [same]

@[simp] theorem find?_erase [Std.TransOrd κ] [Std.LawfulEqOrd κ] [DecidableEq κ]
    (t : Table κ ν) (key other : κ) :
    (t.erase key).find? other = if other = key then none else t.find? other :=
  lookup_filter key other t.entries

theorem mem_of_lookup [Std.LawfulEqOrd κ] {key : κ} {value : ν} {entries : List (κ × ν)}
    (found : lookup key entries = some value) : key ∈ entries.map (·.1) := by
  induction entries with
  | nil => cases found
  | cons head rest ih =>
    obtain ⟨first, held⟩ := head
    unfold lookup at found
    split at found
    · rename_i same
      rw [Std.LawfulEqCmp.eq_of_compare same]
      exact List.mem_cons_self
    · exact List.mem_cons_of_mem _ (ih found)

theorem mem_keys_of_find? [Std.LawfulEqOrd κ] {t : Table κ ν} {key : κ} {value : ν}
    (found : t.find? key = some value) : key ∈ t.keys := mem_of_lookup found

end Table

end Muster
