import Mathlib.Algebra.Ring.Nat
import Muster.Proofs.Table
import Muster.Stats.Book

/-!
The share of an identifier in a book: the entries whose names start with it. The statistics of a
scenario are the merge of its share, and the figures that add up under a merge are the sums over the
share.
-/

namespace Muster

namespace RequestStats

def mergeAll (all : List RequestStats) : RequestStats := all.foldl merge {}

/-- The number of requests in one bucket. -/
def countIn (time : Millis) (s : RequestStats) : Nat := (s.histogram.find? time).getD 0

/-- A figure that adds up when statistics are merged. -/
structure Additive (figure : RequestStats → Nat) : Prop where
  empty : figure {} = 0
  merge : ∀ s other, figure (s.merge other) = figure s + figure other

theorem additive_requests : Additive requests := ⟨rfl, fun _ _ => rfl⟩

theorem additive_failures : Additive failures := ⟨rfl, fun _ _ => rfl⟩

theorem find?_foldl_alter (time : Millis) {added : List (Millis × Nat)}
    (once : (added.map Prod.fst).Nodup) (counts : Table Millis Nat) :
    (added.foldl (fun merged entry => merged.alter entry.1 fun count => count.getD 0 + entry.2)
      counts).find? time = (counts.find? time).merge (· + ·) (Table.lookup time added) := by
  induction added generalizing counts with
  | nil => exact Option.merge_none_right.symm
  | cons entry rest ih =>
    obtain ⟨first, count⟩ := entry
    obtain ⟨fresh, once⟩ := List.nodup_cons.mp once
    rw [List.foldl_cons, ih once, Table.alter, Table.find?_insert]
    by_cases same : time = first
    · subst same
      have gone : Table.lookup time rest = none := by
        cases found : Table.lookup time rest with
        | none => rfl
        | some value => exact absurd (Table.mem_of_lookup found) fresh
      cases counts.find? time <;> simp [Table.lookup, gone]
    · simp [Table.lookup, same]

/-- The histograms are added bucket by bucket. -/
theorem find?_merge (s other : RequestStats) (time : Millis) :
    (s.merge other).histogram.find? time =
      (s.histogram.find? time).merge (· + ·) (other.histogram.find? time) :=
  find?_foldl_alter time other.histogram.nodup_keys s.histogram

theorem additive_countIn (time : Millis) : Additive (countIn time) := by
  refine ⟨rfl, fun s other => ?_⟩
  rw [countIn, countIn, countIn, find?_merge]
  cases s.histogram.find? time <;> cases other.histogram.find? time <;> simp

theorem Additive.mergeAll {figure : RequestStats → Nat} (additive : Additive figure)
    (all : List RequestStats) : figure (mergeAll all) = (all.map figure).sum := by
  have folded : ∀ (all : List RequestStats) (start : RequestStats),
      figure (all.foldl RequestStats.merge start) = figure start + (all.map figure).sum := by
    intro all
    induction all with
    | nil => intro start; rfl
    | cons stats rest ih =>
      intro start
      rw [List.foldl_cons, ih, additive.merge, List.map_cons, List.sum_cons, Nat.add_assoc]
  rw [RequestStats.mergeAll, folded, additive.empty, Nat.zero_add]

end RequestStats

namespace StatsBook

def share (book : StatsBook) (identifier : String) : List (String × RequestStats) :=
  book.entries.entries.filter fun entry => scenarioIdentifier entry.1 = identifier

theorem mem_share {book : StatsBook} {identifier : String} {entry : String × RequestStats} :
    entry ∈ book.share identifier ↔
      entry ∈ book.entries.entries ∧ scenarioIdentifier entry.1 = identifier := by
  simp [share]

/-- The statistics of a scenario are those of its share, if it has any. -/
theorem forScenario_eq (book : StatsBook) (identifier : String) :
    book.forScenario identifier =
      if book.share identifier = [] then none
      else some (RequestStats.mergeAll ((book.share identifier).map Prod.snd)) := by
  have folded : ∀ (entries : List (String × RequestStats)) (merged : Option RequestStats),
      entries.foldl (fun merged entry => some ((merged.getD {}).merge entry.2)) merged =
        if entries = [] then merged
        else some ((entries.map Prod.snd).foldl RequestStats.merge (merged.getD {})) := by
    intro entries
    induction entries with
    | nil => intro merged; rfl
    | cons entry rest ih =>
      intro merged
      rw [List.foldl_cons, ih]
      cases rest <;> rfl
  have filtered : (book.share identifier).foldl
      (fun merged entry => some ((merged.getD {}).merge entry.2)) none =
        book.forScenario identifier := by
    rw [share, List.foldl_filter]
    simp only [decide_eq_true_eq]
    rfl
  rw [← filtered, folded]
  rfl

end StatsBook

end Muster
