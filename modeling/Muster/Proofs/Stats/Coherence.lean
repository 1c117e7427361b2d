import Mathlib.Order.Bounds.Basic
import Muster.Proofs.Stats.Buckets
import Muster.Proofs.Stats.Merging
import Muster.Proofs.Stats.Percentile

/-!
The figures of statistics and their histogram are kept apart, by recording and by merging, and bear
each other out: the buckets count every request once, and the first and the last bucket are those of
the fastest and the slowest request. So every percentile lies between these two.
-/

namespace Muster

namespace Millis

variable {a b : Millis}

theorem min_eq_left (le : a ≤ b) : min a b = a := if_pos le

theorem max_eq_right (le : a ≤ b) : max a b = b := if_pos le

theorem min_eq_right (le : b ≤ a) : min a b = b := by
  rw [UInt64.le_iff_toNat_le] at le
  rw [← UInt64.toNat_inj, UInt64.toNat_min, Nat.min_eq_right le]

theorem max_eq_left (le : b ≤ a) : max a b = a := by
  rw [UInt64.le_iff_toNat_le] at le
  rw [← UInt64.toNat_inj, UInt64.toNat_max, Nat.max_eq_left le]

end Millis

/-! ### Ends of sets of buckets -/

section Ends

variable {times more : Set Millis} {a b first last : Millis}

theorem isLeast_union_of_le (found : IsLeast times a) (other : IsLeast more b) (le : a ≤ b) :
    IsLeast (times ∪ more) a := by
  refine ⟨.inl found.1, ?_⟩
  rintro time (member | member)
  · exact found.2 member
  · exact UInt64.le_trans le (other.2 member)

theorem isGreatest_union_of_le (found : IsGreatest times a) (other : IsGreatest more b)
    (le : b ≤ a) : IsGreatest (times ∪ more) a := by
  refine ⟨.inl found.1, ?_⟩
  rintro time (member | member)
  · exact found.2 member
  · exact UInt64.le_trans (other.2 member) le

theorem isLeast_bucket_min (found : IsLeast times (bucket a)) (other : IsLeast more (bucket b)) :
    IsLeast (times ∪ more) (bucket (min a b)) := by
  rcases UInt64.le_total a b with le | le
  · rw [Millis.min_eq_left le]
    exact isLeast_union_of_le found other (bucket_mono le)
  · rw [Millis.min_eq_right le, Set.union_comm]
    exact isLeast_union_of_le other found (bucket_mono le)

theorem isGreatest_bucket_max (found : IsGreatest times (bucket a))
    (other : IsGreatest more (bucket b)) : IsGreatest (times ∪ more) (bucket (max a b)) := by
  rcases UInt64.le_total a b with le | le
  · rw [Millis.max_eq_right le, Set.union_comm]
    exact isGreatest_union_of_le other found (bucket_mono le)
  · rw [Millis.max_eq_left le]
    exact isGreatest_union_of_le found other (bucket_mono le)

end Ends

namespace RequestStats

/-- The response times that have a bucket. -/
def times (s : RequestStats) : Set Millis := {time | time ∈ s.histogram.keys}

/-- The ends of the buckets are those of a least and a greatest response time. Where there is no
least one there are no buckets, and the greatest stands at zero. -/
def Spans (times : Set Millis) : Option Millis → Millis → Prop
  | none, greatest => times = ∅ ∧ greatest = 0
  | some least, greatest => IsLeast times (bucket least) ∧ IsGreatest times (bucket greatest)

theorem Spans.union {times more : Set Millis} {least other : Option Millis}
    {greatest last : Millis} (spans : Spans times least greatest) (others : Spans more other last) :
    Spans (times ∪ more) (mergeMin least other) (max greatest last) := by
  cases least with
  | none =>
    obtain ⟨rfl, rfl⟩ := spans
    rw [Set.empty_union, Millis.max_eq_right UInt64.zero_le]
    cases other <;> exact others
  | some least =>
    cases other with
    | none =>
      obtain ⟨rfl, rfl⟩ := others
      rw [Set.union_empty, Millis.max_eq_left UInt64.zero_le]
      exact spans
    | some other =>
      exact ⟨isLeast_bucket_min spans.1 others.1, isGreatest_bucket_max spans.2 others.2⟩

/-! ### The invariant -/

/-- Figures and histogram tell the same, as far as buckets can tell. -/
structure Coherent (s : RequestStats) : Prop where
  counted : s.counted = s.requests
  positive : ∀ time count, s.histogram.find? time = some count → 0 < count
  rounded : ∀ time ∈ s.times, bucket time = time
  spans : Spans s.times s.minTime s.maxTime

variable {s other : RequestStats}

theorem additive_counted : Additive counted := by
  have folded : ∀ (added : List (Millis × Nat)) (counts : Table Millis Nat),
      (added.foldl (fun merged entry => merged.alter entry.1 fun count => count.getD 0 + entry.2)
        counts).values.sum = counts.values.sum + (added.map (·.2)).sum := by
    intro added
    induction added with
    | nil => exact fun counts => rfl
    | cons entry rest ih =>
      intro counts
      rw [List.foldl_cons, ih, Table.sum_values_add, List.map_cons, List.sum_cons, Nat.add_assoc]
  exact ⟨rfl, fun s other => folded other.histogram.entries s.histogram⟩

theorem times_eq_empty_iff : s.times = ∅ ↔ s.histogram = ∅ := by
  rw [Table.eq_empty_iff, Set.eq_empty_iff_forall_notMem]
  refine forall_congr' fun time => ?_
  show time ∉ s.histogram.keys ↔ _
  rw [Table.mem_keys_iff, Option.not_isSome_iff_eq_none]

theorem times_merge (s other : RequestStats) : (s.merge other).times = s.times ∪ other.times := by
  ext time
  show time ∈ (s.merge other).histogram.keys ↔
    time ∈ s.histogram.keys ∨ time ∈ other.histogram.keys
  simp only [Table.mem_keys_iff, find?_merge]
  cases s.histogram.find? time <;> cases other.histogram.find? time <;> simp

theorem Coherent.merge (coherent : s.Coherent) (others : other.Coherent) :
    (s.merge other).Coherent := by
  refine ⟨?counted, ?positive, ?rounded, ?spans⟩
  case counted =>
    rw [additive_counted.merge, coherent.counted, others.counted]
    rfl
  case positive =>
    intro time count found
    rw [find?_merge] at found
    cases ours : s.histogram.find? time with
    | none =>
      rw [ours, Option.merge_none_left] at found
      exact others.positive time count found
    | some held =>
      have filled := coherent.positive time held ours
      cases theirs : other.histogram.find? time with
      | none =>
        rw [ours, theirs, Option.merge_none_right] at found
        obtain rfl := Option.some.inj found
        exact filled
      | some added =>
        rw [ours, theirs] at found
        obtain rfl := Option.some.inj found
        exact Nat.add_pos_left filled added
  case rounded =>
    rw [times_merge]
    rintro time (member | member)
    · exact coherent.rounded time member
    · exact others.rounded time member
  case spans =>
    rw [times_merge]
    exact coherent.spans.union others.spans

theorem coherent_of_no_buckets (requests : s.requests = 0) (histogram : s.histogram = ∅)
    (minTime : s.minTime = none) (maxTime : s.maxTime = 0) : s.Coherent := by
  have unfilled : s.times = ∅ := times_eq_empty_iff.mpr histogram
  refine ⟨?counted, ?positive, ?rounded, ?spans⟩
  case counted =>
    rw [RequestStats.counted, histogram, requests]
    rfl
  case positive =>
    rw [histogram]
    exact nofun
  case rounded =>
    rw [unfilled]
    exact nofun
  case spans =>
    rw [minTime]
    exact ⟨unfilled, maxTime⟩

theorem times_single (ms : Millis) : (single (.request ms)).times = {bucket ms} := by
  ext time
  show time ∈ [bucket ms] ↔ time = bucket ms
  exact List.mem_singleton

theorem coherent_single (sample : Sample) : (single sample).Coherent := by
  cases sample with
  | failure => exact coherent_of_no_buckets rfl rfl rfl rfl
  | request ms =>
    have greatest : (single (.request ms)).maxTime = ms := Millis.max_eq_right UInt64.zero_le
    refine ⟨rfl, ?positive, ?rounded, ?spans⟩
    case positive =>
      intro time count found
      have here : (time, count) ∈ [(bucket ms, 1)] := Table.find?_eq_some_iff_mem.mp found
      obtain ⟨-, rfl⟩ := Prod.mk.inj (List.mem_singleton.mp here)
      decide
    case rounded =>
      rw [times_single]
      rintro _ rfl
      exact bucket_bucket ms
    case spans =>
      rw [times_single, greatest]
      refine ⟨⟨rfl, ?_⟩, rfl, ?_⟩ <;>
      · rintro _ rfl
        exact UInt64.le_refl _

theorem Coherent.record (coherent : s.Coherent) (sample : Sample) :
    (s.record sample).Coherent := by
  rw [record_eq]
  exact coherent.merge (coherent_single sample)

/-! ### What follows from it -/

/-- Positive counts add up to zero only if there are none. -/
theorem Coherent.requests_eq_zero_iff (coherent : s.Coherent) :
    s.requests = 0 ↔ s.histogram = ∅ := by
  rw [← coherent.counted]
  constructor
  · intro zero
    apply Table.eq_empty_iff.mpr
    intro time
    cases found : s.histogram.find? time with
    | none => rfl
    | some count =>
      have filled := coherent.positive time count found
      have listed : count ∈ s.histogram.values :=
        List.mem_map_of_mem (f := Prod.snd) (Table.find?_eq_some_iff_mem.mp found)
      have unfilled := List.sum_eq_zero_iff_forall_eq_nat.mp zero count listed
      omega
  · intro empty
    rw [RequestStats.counted, empty]
    rfl

theorem Coherent.ends {least : Millis} (coherent : s.Coherent) (fastest : s.minTime = some least) :
    IsLeast s.times (bucket least) ∧ IsGreatest s.times (bucket s.maxTime) := by
  have spans := coherent.spans
  rwa [fastest] at spans

theorem Coherent.minTime_eq_none_iff (coherent : s.Coherent) :
    s.minTime = none ↔ s.histogram = ∅ := by
  rw [← times_eq_empty_iff]
  cases fastest : s.minTime with
  | none =>
    have spans := coherent.spans
    rw [fastest] at spans
    exact iff_of_true rfl spans.1
  | some least =>
    have filled : s.times.Nonempty := ⟨_, (coherent.ends fastest).1.1⟩
    exact iff_of_false nofun filled.ne_empty

theorem Coherent.entries_ne_nil {least : Millis} (coherent : s.Coherent)
    (fastest : s.minTime = some least) : s.histogram.entries ≠ [] := by
  obtain ⟨entry, member, -⟩ := List.mem_map.mp (coherent.ends fastest).1.1
  exact List.ne_nil_of_mem member

/-- A percentile is one of the buckets, so it lies between their ends. -/
theorem Coherent.percentile_between {least : Millis} (coherent : s.Coherent)
    (fastest : s.minTime = some least) (percent : Float) :
    bucket least ≤ s.percentile percent ∧ s.percentile percent ≤ bucket s.maxTime := by
  obtain ⟨first, last⟩ := coherent.ends fastest
  have walked := slowest_bucketWithin (coherent.entries_ne_nil fastest) (share s.counted percent)
  have member : s.percentile percent ∈ s.times := walked.bucket
  exact ⟨first.2 member, last.2 member⟩

end RequestStats

namespace Gathering

open RequestStats

theorem coherent (g : Gathering) : g.stats.Coherent := by
  induction g with
  | empty => exact coherent_of_no_buckets rfl rfl rfl rfl
  | record g sample ih => exact ih.record sample
  | merge g other first second => exact first.merge second

/-- The buckets count the requests, none is empty and each rounds to itself. Without requests there
is neither a least time nor a bucket. Otherwise the first and the last bucket are those of the least
and the greatest time, and every percentile lies between them; while the requests fit a word, it is
found without leaving the words. -/
theorem histogram_bears_out_figures (g : Gathering) :
    g.stats.counted = g.stats.requests ∧
    (∀ entry ∈ g.stats.histogram.entries, 0 < entry.2 ∧ bucket entry.1 = entry.1) ∧
    (g.stats.minTime = none ↔ g.stats.requests = 0) ∧
    (g.stats.requests = 0 ↔ g.stats.histogram = ∅) ∧
    ∀ least, g.stats.minTime = some least →
      IsLeast g.stats.times (bucket least) ∧
      IsGreatest g.stats.times (bucket g.stats.maxTime) ∧
      ∀ percent, bucket least ≤ g.stats.percentile percent ∧
        g.stats.percentile percent ≤ bucket g.stats.maxTime ∧
        (g.stats.requests < UInt64.size →
          g.stats.percentile? percent = some (g.stats.percentile percent)) := by
  have coherent := g.coherent
  refine ⟨coherent.counted, ?buckets, ?unmeasured, coherent.requests_eq_zero_iff, ?measured⟩
  case buckets =>
    rintro ⟨time, count⟩ member
    have found := Table.find?_eq_some_iff_mem.mpr member
    exact ⟨coherent.positive time count found,
      coherent.rounded time (Table.mem_keys_of_find? found)⟩
  case unmeasured => rw [coherent.minTime_eq_none_iff, coherent.requests_eq_zero_iff]
  case measured =>
    intro least fastest
    obtain ⟨first, last⟩ := coherent.ends fastest
    refine ⟨first, last, fun percent => ?_⟩
    obtain ⟨above, below⟩ := coherent.percentile_between fastest percent
    refine ⟨above, below, fun fits => ?_⟩
    rw [← coherent.counted] at fits
    exact percentile?_eq (coherent.entries_ne_nil fastest) fits percent

/-- Merged statistics merged once more, with a request that rounds into the next band. -/
def doubled : Gathering := spread.merge (spread.record (.request 9999))

theorem histogram_bears_out_figures_doubled :
    doubled.stats.minTime = some 7 ∧
      IsLeast doubled.stats.times 7 ∧
      IsGreatest doubled.stats.times 18446744073709551000 ∧
      (7 ≤ doubled.stats.percentile 0.5 ∧
        doubled.stats.percentile 0.5 ≤ 18446744073709551000) ∧
      doubled.stats.requests < UInt64.size ∧ doubled.stats.percentile? 0.5 = some 120 ∧
      doubled.stats.histogram.entries =
        [(7, 2), (120, 2), (10000, 1), (18446744073709551000, 2)] := by
  have fastest : doubled.stats.minTime = some 7 := by decide +kernel
  have fits : doubled.stats.requests < UInt64.size := by decide +kernel
  have ends : bucket 7 = 7 ∧ bucket doubled.stats.maxTime = 18446744073709551000 := by
    decide +kernel
  obtain ⟨-, -, -, -, measured⟩ := histogram_bears_out_figures doubled
  obtain ⟨first, last, between⟩ := measured 7 fastest
  obtain ⟨above, below, words⟩ := between 0.5
  rw [ends.1] at first above
  rw [ends.2] at last below
  have middle : doubled.stats.percentile 0.5 = 120 := by decide +kernel
  exact ⟨fastest, first, last, ⟨above, below⟩, fits, middle ▸ words fits, by decide +kernel⟩

end Gathering

end Muster
