import Mathlib.Algebra.BigOperators.Group.List.Basic
import Muster.Proofs.Stats.Shares

/-!
Statistics under merging are a commutative monoid, and recording is a merge with the statistics of
what is recorded. So statistics are the sum of what went into them: it does not matter who recorded
what, in which order, and how the parts were merged.
-/

namespace Muster

theorem Millis.saturatingAdd_comm (a b : Millis) : saturatingAdd a b = saturatingAdd b a := by
  rw [saturatingAdd, saturatingAdd, Nat.add_comm]

theorem Millis.saturatingAdd_assoc (a b c : Millis) :
    saturatingAdd (saturatingAdd a b) c = saturatingAdd a (saturatingAdd b c) := by
  refine UInt64.toNat_inj.mp ?_
  simp only [toNat_saturatingAdd]
  omega

theorem Millis.saturatingAdd_zero (a : Millis) : saturatingAdd a 0 = a := by
  refine UInt64.toNat_inj.mp ?_
  have below := a.toNat_lt
  rw [toNat_saturatingAdd, UInt64.toNat_zero, UInt64.size]
  omega

namespace RequestStats

/-- Statistics with the same figures. -/
theorem ext_figures {s t : RequestStats} (requests : s.requests = t.requests)
    (failures : s.failures = t.failures) (totalTime : s.totalTime = t.totalTime)
    (minTime : s.minTime = t.minTime) (maxTime : s.maxTime = t.maxTime)
    (histogram : ∀ time, s.histogram.find? time = t.histogram.find? time) : s = t := by
  have counts := Table.ext_find? histogram
  cases s
  cases t
  congr

theorem mergeMin_eq (a b : Option Millis) : mergeMin a b = Option.merge min a b := by
  cases a <;> cases b <;> rfl

/-! ### The monoid -/

theorem merge_comm (s other : RequestStats) : s.merge other = other.merge s := by
  refine ext_figures ?requests ?failures ?totalTime ?minTime ?maxTime fun time => ?histogram
  case requests => exact Nat.add_comm ..
  case failures => exact Nat.add_comm ..
  case totalTime => exact Millis.saturatingAdd_comm ..
  case minTime =>
    simp only [merge, mergeMin_eq]
    exact Std.Commutative.comm ..
  case maxTime => simp only [merge, ← UInt64.toNat_inj, UInt64.toNat_max, Nat.max_comm]
  case histogram =>
    rw [find?_merge, find?_merge]
    exact Std.Commutative.comm ..

theorem merge_assoc (s other last : RequestStats) :
    (s.merge other).merge last = s.merge (other.merge last) := by
  refine ext_figures ?requests ?failures ?totalTime ?minTime ?maxTime fun time => ?histogram
  case requests => exact Nat.add_assoc ..
  case failures => exact Nat.add_assoc ..
  case totalTime => exact Millis.saturatingAdd_assoc ..
  case minTime =>
    simp only [merge, mergeMin_eq]
    exact Std.Associative.assoc ..
  case maxTime => simp only [merge, ← UInt64.toNat_inj, UInt64.toNat_max, Nat.max_assoc]
  case histogram =>
    rw [find?_merge, find?_merge, find?_merge, find?_merge]
    exact Std.Associative.assoc ..

theorem merge_empty (s : RequestStats) : s.merge {} = s := by
  refine ext_figures (Nat.add_zero _) (Nat.add_zero _) (Millis.saturatingAdd_zero _) ?minTime
    ?maxTime fun time => rfl
  case minTime => cases found : s.minTime <;> simp [merge, mergeMin, found]
  case maxTime => simp [merge, ← UInt64.toNat_inj, UInt64.toNat_max]

theorem empty_merge (s : RequestStats) : merge {} s = s := by
  rw [merge_comm, merge_empty]

instance : AddCommMonoid RequestStats where
  add := merge
  add_assoc := merge_assoc
  zero := {}
  zero_add := empty_merge
  add_zero := merge_empty
  add_comm := merge_comm
  nsmul := @nsmulRec _ ⟨{}⟩ ⟨merge⟩

/-! ### Recording -/

/-- What is recorded about a request. -/
inductive Sample
  | request (ms : Millis)
  | failure
deriving DecidableEq

def record (s : RequestStats) : Sample → RequestStats
  | .request ms => s.logRequest ms
  | .failure => s.logFailure

/-- The statistics of one sample. -/
def single (sample : Sample) : RequestStats := record {} sample

theorem record_eq (s : RequestStats) (sample : Sample) :
    s.record sample = s.merge (single sample) := by
  cases sample with
  | failure =>
    refine ext_figures rfl rfl ?totalTime ?minTime ?maxTime fun time => rfl
    case totalTime => exact (Millis.saturatingAdd_zero _).symm
    case minTime =>
      cases found : s.minTime <;> simp [single, record, logFailure, merge, mergeMin, found]
    case maxTime => simp [single, record, logFailure, merge, ← UInt64.toNat_inj, UInt64.toNat_max]
  | request ms =>
    refine ext_figures rfl rfl ?totalTime ?minTime ?maxTime fun time => ?histogram
    case totalTime =>
      show _ = Millis.saturatingAdd s.totalTime (Millis.saturatingAdd 0 ms)
      rw [Millis.saturatingAdd_comm 0, Millis.saturatingAdd_zero]
      rfl
    case minTime =>
      cases found : s.minTime <;> simp [single, record, logRequest, merge, mergeMin, found]
    case maxTime => simp [single, record, logRequest, merge, ← UInt64.toNat_inj, UInt64.toNat_max]
    case histogram =>
      rw [find?_merge]
      simp only [single, record, logRequest, Table.alter, Table.find?_insert]
      by_cases same : time = bucket ms
      · subst same
        cases s.histogram.find? (bucket ms) <;> simp
      · simp [same]

/-- What a list of samples comes to, recorded one after the other. -/
def ofSamples (samples : List Sample) : RequestStats := samples.foldl record {}

/-- Recording goes on where the statistics stand. -/
theorem foldl_record (s : RequestStats) (samples : List Sample) :
    samples.foldl record s = s + (samples.map single).sum := by
  induction samples generalizing s with
  | nil => exact (add_zero s).symm
  | cons sample rest ih =>
    rw [List.foldl_cons, ih, List.map_cons, List.sum_cons, ← add_assoc]
    exact congrArg (· + _) (record_eq s sample)

theorem ofSamples_eq (samples : List Sample) : ofSamples samples = (samples.map single).sum :=
  (foldl_record {} samples).trans (zero_add _)

theorem ofSamples_append (samples more : List Sample) :
    ofSamples (samples ++ more) = (ofSamples samples).merge (ofSamples more) := by
  rw [ofSamples_eq, List.map_append, List.sum_append, ← ofSamples_eq, ← ofSamples_eq]
  rfl

end RequestStats

/-! ### Gathering -/

/-- How statistics come about: they start empty, record samples, and take in other statistics that
have come about in the same way. -/
inductive Gathering
  | empty
  | record (g : Gathering) (sample : RequestStats.Sample)
  | merge (g other : Gathering)

namespace Gathering

def stats : Gathering → RequestStats
  | empty => {}
  | record g sample => g.stats.record sample
  | merge g other => g.stats.merge other.stats

/-- Everything that is recorded anywhere in it. -/
def samples : Gathering → List RequestStats.Sample
  | empty => []
  | record g sample => g.samples ++ [sample]
  | merge g other => g.samples ++ other.samples

theorem stats_eq (g : Gathering) : g.stats = .ofSamples g.samples := by
  induction g with
  | empty => rfl
  | record g sample ih =>
    rw [stats, samples, ih, RequestStats.ofSamples, RequestStats.ofSamples, List.foldl_concat]
  | merge g other first second =>
    rw [stats, samples, first, second, RequestStats.ofSamples_append]

/-- Merging is associative and commutative, empty statistics change nothing, recording a list in two
parts is merging the parts, and so statistics are told by what was recorded. -/
theorem stats_told_by_samples :
    (∀ a b c : RequestStats, (a.merge b).merge c = a.merge (b.merge c)) ∧
    (∀ a b : RequestStats, a.merge b = b.merge a) ∧
    (∀ a : RequestStats, a.merge {} = a ∧ RequestStats.merge {} a = a) ∧
    (∀ (a : RequestStats) samples, samples.foldl RequestStats.record a =
      a.merge (.ofSamples samples)) ∧
    ∀ g h : Gathering, g.samples.Perm h.samples → g.stats = h.stats := by
  refine ⟨RequestStats.merge_assoc, RequestStats.merge_comm,
    fun a => ⟨a.merge_empty, a.empty_merge⟩, fun a samples => ?_, fun g h perm => ?_⟩
  · rw [RequestStats.foldl_record, RequestStats.ofSamples_eq]
    rfl
  · rw [stats_eq, stats_eq, RequestStats.ofSamples_eq, RequestStats.ofSamples_eq]
    exact (perm.map RequestStats.single).sum_eq

/-- One entry that records everything, with a total that overflows. -/
def alone : Gathering :=
  (((empty.record (.request 120)).record .failure).record (.request 18446744073709551613)).record
    (.request 7)

/-- The same samples in another order, spread over four entries of which one stays empty. -/
def spread : Gathering :=
  ((empty.record .failure).merge empty).merge
    (((empty.record (.request 7)).record (.request 18446744073709551613)).merge
      (empty.record (.request 120)))

theorem stats_told_by_samples_spread : alone.samples.Perm spread.samples ∧
    alone.stats = spread.stats ∧ alone.stats =
      { requests := 3, failures := 1, totalTime := 18446744073709551615, minTime := some 7
        maxTime := 18446744073709551613
        histogram := .ofList [(7, 1), (120, 1), (18446744073709551000, 1)] } := by
  have perm : alone.samples.Perm spread.samples := by decide
  exact ⟨perm, stats_told_by_samples.2.2.2.2 alone spread perm, by decide +kernel⟩

end Gathering

end Muster
