import Mathlib.Algebra.BigOperators.Group.List.Basic
import Mathlib.Data.Option.Basic
import Muster.Proofs.Table
import Muster.Stats

/-!
What a percentile is: the slowest bucket before which there are no more requests than the share. The
walk from the slowest bucket down always ends at it, and in words of 64 bits no sum on the way
overflows and no difference is negative.
-/

namespace Muster.RequestStats

/-! ### Buckets -/

def countBefore (time : Millis) (buckets : List (Millis × Nat)) : Nat :=
  ((buckets.filter (·.1 < time)).map (·.2)).sum

def countUpTo (time : Millis) (buckets : List (Millis × Nat)) : Nat :=
  ((buckets.filter (·.1 ≤ time)).map (·.2)).sum

/-- Of the buckets before which there are no more than so many requests, this is the slowest. -/
structure Slowest (within : Nat) (buckets : List (Millis × Nat)) (time : Millis) : Prop where
  bucket : time ∈ buckets.map (·.1)
  before : countBefore time buckets ≤ within
  greatest : ∀ other ∈ buckets.map (·.1), countBefore other buckets ≤ within → other ≤ time
  reaches : (∀ other ∈ buckets.map (·.1), other ≤ time) ∨ within < countUpTo time buckets

section Buckets

variable {total within processed count : Nat} {buckets rest : List (Millis × Nat)}
  {time other : Millis}

theorem countBefore_perm (perm : buckets.Perm rest) (time : Millis) :
    countBefore time buckets = countBefore time rest :=
  ((perm.filter _).map _).sum_eq

theorem countUpTo_perm (perm : buckets.Perm rest) (time : Millis) :
    countUpTo time buckets = countUpTo time rest :=
  ((perm.filter _).map _).sum_eq

theorem Slowest.perm (slowest : Slowest within buckets time) (perm : buckets.Perm rest) :
    Slowest within rest time := by
  obtain ⟨bucket, before, greatest, reaches⟩ := slowest
  have members : ∀ other, other ∈ rest.map (·.1) ↔ other ∈ buckets.map (·.1) :=
    fun other => (perm.map _).mem_iff.symm
  refine ⟨(members _).mpr bucket, ?_, fun other member => ?_, ?_⟩
  · rwa [← countBefore_perm perm]
  · rw [← countBefore_perm perm]
    exact greatest other ((members _).mp member)
  · rw [← countUpTo_perm perm]
    exact reaches.imp_left fun largest other member => largest other ((members _).mp member)

/-- With more requests left a bucket is found that is no faster. -/
theorem Slowest.mono {more : Nat} (found : Slowest within buckets time)
    (later : Slowest more buckets other) (grows : within ≤ more) : time ≤ other :=
  later.greatest time found.bucket (Nat.le_trans found.before grows)

theorem countBefore_head (above : ∀ entry ∈ rest, entry.1 < time) :
    countBefore time ((time, count) :: rest) = (rest.map (·.2)).sum := by
  have all : rest.filter (·.1 < time) = rest :=
    List.filter_eq_self.mpr fun entry member => decide_eq_true (above entry member)
  simp [countBefore, all]

theorem countBefore_tail (below : other < time) :
    countBefore other ((time, count) :: rest) = countBefore other rest := by
  have apart : ¬time < other := fun above => UInt64.lt_irrefl _ (UInt64.lt_trans below above)
  simp [countBefore, apart]

theorem countUpTo_tail (below : other < time) :
    countUpTo other ((time, count) :: rest) = countUpTo other rest := by
  have apart : ¬time ≤ other := UInt64.not_le.mpr below
  simp [countUpTo, apart]

theorem countUpTo_largest (largest : ∀ other ∈ buckets.map (·.1), other ≤ time) :
    countUpTo time buckets = (buckets.map (·.2)).sum := by
  have all : buckets.filter (·.1 ≤ time) = buckets :=
    List.filter_eq_self.mpr fun entry member =>
      decide_eq_true (largest entry.1 (List.mem_map_of_mem member))
  rw [countUpTo, all]

/-- The walk finds the slowest of descending buckets, if `total` counts them and what was passed. -/
theorem slowest_spec (sorted : buckets.Pairwise fun left right => right.1 < left.1)
    (filled : buckets ≠ []) (counted : total = processed + (buckets.map (·.2)).sum) :
    Slowest within buckets (slowest total within processed buckets) := by
  induction buckets generalizing processed with
  | nil => exact absurd rfl filled
  | cons first rest ih =>
    obtain ⟨time, count⟩ := first
    obtain ⟨above, sorted⟩ := List.pairwise_cons.mp sorted
    rw [List.map_cons, List.sum_cons] at counted
    have left : total - (processed + count) = (rest.map (·.2)).sum := by omega
    have earlier : ∀ other ∈ rest.map (·.1), other < time := by
      intro other member
      obtain ⟨entry, here, rfl⟩ := List.mem_map.mp member
      exact above entry here
    unfold slowest
    split
    · rename_i enough
      have largest : ∀ other ∈ time :: rest.map (·.1), other ≤ time := by
        intro other member
        rcases List.mem_cons.mp member with rfl | later
        · exact UInt64.le_refl _
        · exact UInt64.le_of_lt (earlier other later)
      refine ⟨List.mem_cons_self, ?_, fun other member _ => largest other member, .inl largest⟩
      rw [countBefore_head above]
      omega
    · rename_i more
      have others : rest ≠ [] := by
        rintro rfl
        rw [left] at more
        exact more (Nat.zero_le _)
      obtain ⟨bucket, before, greatest, reaches⟩ :=
        @ih (processed + count) sorted others (by omega)
      have below := earlier _ bucket
      refine ⟨List.mem_cons_of_mem _ bucket, ?_, fun other member small => ?_, .inr ?_⟩
      · rwa [countBefore_tail below]
      · rcases List.mem_cons.mp member with rfl | later
        · -- before the first bucket there are all the others, and these are too many
          rw [countBefore_head above] at small
          omega
        · rw [countBefore_tail (earlier _ later)] at small
          exact greatest other later small
      · rw [countUpTo_tail below]
        rcases reaches with largest | reached
        · rw [countUpTo_largest largest]
          omega
        · exact reached

end Buckets

/-! ### Words of 64 bits -/

def word? (n : Nat) : Option Nat := if n < UInt64.size then some n else none

/-- The number of requests, added up in words. -/
def countedWord? (s : RequestStats) : Option Nat :=
  s.histogram.values.foldlM (fun sum count => word? (sum + count)) 0

/-- The walk in words. It fails where a sum overflows, where more was passed than there is, and where
no bucket is left. -/
def slowest? (total within processed : Nat) : List (Millis × Nat) → Option Millis
  | [] => none
  | (time, count) :: rest => do
    let processed ← word? (processed + count)
    guard (processed ≤ total)
    if total - processed ≤ within then some time else slowest? total within processed rest

def percentile? (s : RequestStats) (percent : Float) : Option Millis := do
  let total ← s.countedWord?
  slowest? total (share total percent) 0 s.histogram.entries.reverse

theorem word?_eq_some {n : Nat} (fits : n < UInt64.size) : word? n = some n := if_pos fits

theorem foldlM_word? {counts : List Nat} {sum : Nat} (fits : sum + counts.sum < UInt64.size) :
    counts.foldlM (fun sum count => word? (sum + count)) sum = some (sum + counts.sum) := by
  induction counts generalizing sum with
  | nil => rfl
  | cons count rest ih =>
    rw [List.sum_cons, ← Nat.add_assoc] at fits ⊢
    rw [List.foldlM_cons, word?_eq_some (by omega), Option.bind_eq_bind, Option.bind_some]
    exact ih fits

theorem slowest?_eq {total within processed : Nat} {buckets : List (Millis × Nat)}
    (filled : buckets ≠ []) (counted : total = processed + (buckets.map (·.2)).sum)
    (fits : total < UInt64.size) :
    slowest? total within processed buckets = some (slowest total within processed buckets) := by
  induction buckets generalizing processed with
  | nil => exact absurd rfl filled
  | cons first rest ih =>
    obtain ⟨time, count⟩ := first
    rw [List.map_cons, List.sum_cons] at counted
    have passed : processed + count ≤ total := by omega
    unfold slowest? slowest
    rw [word?_eq_some (by omega), Option.bind_eq_bind, Option.bind_some]
    rw [guard, if_pos passed, pure_bind]
    split
    · rfl
    · rename_i more
      refine ih ?_ (by omega)
      rintro rfl
      simp at counted
      omega

/-! ### Percentiles -/

/-- The bucket where the walk ends that may leave so many requests. -/
def bucketWithin (s : RequestStats) (within : Nat) : Millis :=
  slowest s.counted within 0 s.histogram.entries.reverse

variable {s : RequestStats}

theorem counted_eq (s : RequestStats) : s.counted = (s.histogram.entries.map (·.2)).sum := rfl

theorem counted_reverse (s : RequestStats) :
    s.counted = 0 + (s.histogram.entries.reverse.map (·.2)).sum := by
  rw [Nat.zero_add, counted_eq]
  exact ((List.reverse_perm _).map _).sum_eq.symm

theorem slowest_bucketWithin (filled : s.histogram.entries ≠ []) (within : Nat) :
    Slowest within s.histogram.entries (s.bucketWithin within) := by
  have descending : s.histogram.entries.reverse.Pairwise fun left right => right.1 < left.1 :=
    List.pairwise_reverse.mpr (s.histogram.sorted.imp Std.compare_eq_lt.mp)
  exact (slowest_spec descending (by simpa using filled) s.counted_reverse).perm
    (List.reverse_perm _)

theorem percentile?_eq (filled : s.histogram.entries ≠ []) (fits : s.counted < UInt64.size)
    (percent : Float) : s.percentile? percent = some (s.percentile percent) := by
  have counted : s.countedWord? = some s.counted := by
    have sum := @foldlM_word? s.histogram.values 0
    rw [Nat.zero_add] at sum
    exact sum fits
  rw [percentile?, counted, Option.bind_eq_bind, Option.bind_some]
  exact slowest?_eq (by simpa using filled) s.counted_reverse fits

/-- Of an empty histogram every percentile is zero. Else a percentile is the slowest bucket before
which there are no more requests than the share, it is found without leaving the words, and it
grows with the share. -/
theorem percentile_slowest_within (s : RequestStats) :
    (s.histogram = ∅ → ∀ percent, s.percentile percent = 0) ∧
    (s.histogram ≠ ∅ → s.counted < UInt64.size →
      (∀ percent, s.percentile? percent = some (s.percentile percent) ∧
        s.percentile percent = s.bucketWithin (share s.counted percent) ∧
        Slowest (share s.counted percent) s.histogram.entries (s.percentile percent)) ∧
      ∀ less more, less ≤ more → s.bucketWithin less ≤ s.bucketWithin more) := by
  constructor
  · intro empty percent
    rw [percentile, empty]
    rfl
  · intro some fits
    have filled : s.histogram.entries ≠ [] := by
      intro none
      refine some ?_
      cases table : s.histogram with
      | mk entries sorted =>
        rw [table] at none
        cases none
        rfl
    refine ⟨fun percent => ⟨percentile?_eq filled fits percent, rfl,
      slowest_bucketWithin filled _⟩, fun less more grows => ?_⟩
    exact (slowest_bucketWithin filled less).mono (slowest_bucketWithin filled more) grows

/-- Two fast requests, three slow ones, and a bucket that was read without any. -/
def unevenStats : RequestStats :=
  { requests := 5, histogram := .ofList [(10, 2), (20, 0), (30, 3)] }

theorem percentile_slowest_within_uneven :
    unevenStats.histogram ≠ ∅ ∧ unevenStats.counted < UInt64.size ∧
      unevenStats.percentile 0.5 = 30 ∧ unevenStats.percentile? 0.5 = some 30 ∧
      Slowest 2 unevenStats.histogram.entries 30 ∧
      unevenStats.bucketWithin 1 = 10 ∧ (1 ≤ 2 → unevenStats.bucketWithin 1 ≤ 30) := by
  have filled : unevenStats.histogram ≠ ∅ := by decide
  have fits : unevenStats.counted < UInt64.size := by decide
  have two : share unevenStats.counted 0.5 = 2 := by decide +kernel
  obtain ⟨walks, grows⟩ := (percentile_slowest_within unevenStats).2 filled fits
  obtain ⟨words, walk, slowest⟩ := walks 0.5
  have slow : unevenStats.bucketWithin 2 = 30 := by decide
  rw [two] at walk slowest
  rw [walk, slow] at words slowest
  exact ⟨filled, fits, walk.trans slow, words, slowest, by decide, fun more => slow ▸ grows 1 2 more⟩

end Muster.RequestStats
