import Muster.Proofs.Json
import Muster.Proofs.Payload
import Muster.Proofs.Rows
import Muster.Proofs.Table
import Muster.Stats.Book

/-!
Statistics that are written and read back. The buckets of a histogram are keys of an object, written
in digits and so in another order than that of the times; read back they are the same table.
-/

namespace Muster

namespace RequestStats

variable {s : RequestStats}

/-- Its counts fit a word, like all that are written. -/
structure Bounded (s : RequestStats) : Prop where
  requests : s.requests ≤ maxId
  failures : s.failures ≤ maxId
  counts : ∀ entry ∈ s.histogram.entries, entry.2 ≤ maxId

theorem bucketOfKey?_toString (time : Millis) :
    bucketOfKey? (toString time.toNat) = some time := by
  have chars : (toString time.toNat).toList = Nat.toDigits 10 time.toNat := by
    rw [Nat.toString_eq_repr, Nat.toList_repr]
  have small : (time.toNat : Int) ≤ Json.maxInt := by
    have := time.toNat_lt
    unfold Json.maxInt
    omega
  -- the one key that is read in a way of its own is never written
  have signless : toString time.toNat ≠ "-0" := by
    intro same
    have digit : '-' ∈ Nat.toDigits 10 time.toNat := by
      rw [← chars, same]
      decide
    exact absurd (Nat.isDigit_of_mem_toDigits (by decide) (by decide) digit) (by decide)
  rw [bucketOfKey?, if_neg signless, chars, Json.numberOfChars?_toDigits small]
  exact Json.asWord?_toNat time

theorem key_injective {time other : Millis}
    (same : toString time.toNat = toString other.toNat) : time = other :=
  Option.some.inj ((bucketOfKey?_toString time).symm.trans
    ((congrArg bucketOfKey? same).trans (bucketOfKey?_toString other)))

def bucketToField (entry : Millis × Nat) : String × Json := (toString entry.1.toNat, .int entry.2)

def bucketOfField? (field : String × Json) : Option (Millis × Nat) := do
  return (← bucketOfKey? field.1, ← field.2.asNat?)

theorem bucketOfField?_bucketToField {entry : Millis × Nat} (small : entry.2 ≤ maxId) :
    bucketOfField? (bucketToField entry) = some entry := by
  rw [bucketOfField?, bucketToField, bucketOfKey?_toString, Json.asNat?_int, if_pos small]
  rfl

theorem histogramOfJson?_object (fields : List (String × Json)) :
    histogramOfJson? (.object fields) = (fields.mapM bucketOfField?).bind
      fun pairs => some (Table.ofList pairs) := rfl

/-- The keys of the object are in the order of their digits; the table that is read is in the order
of the times. -/
theorem histogramOfJson?_toJson {histogram : Table Millis Nat}
    (bounded : ∀ entry ∈ histogram.entries, entry.2 ≤ maxId) :
    histogramOfJson? (.ofFields (histogram.entries.map bucketToField)) = some histogram := by
  have distinct : ((histogram.entries.map bucketToField).map Prod.fst).Nodup := by
    rw [List.map_map]
    exact List.pairwise_map.mpr ((List.pairwise_map.mp histogram.nodup_keys).imp
      fun apart same => apart (key_injective same))
  obtain ⟨sorted, written, perm⟩ := Json.ofFields_perm distinct
  obtain ⟨read, decoded, same⟩ := mapM_perm bucketOfField?
    (fun entry member => bucketOfField?_bucketToField (bounded entry member)) perm
  rw [written, histogramOfJson?_object, decoded, Option.bind_some, Table.ofList_perm same]

theorem toJson_eq (s : RequestStats) :
    s.toJson = .ofFields [("num_requests", .int s.requests), ("num_failures", .int s.failures),
      ("total_response_time_ms", ofWord s.totalTime),
      ("min_response_time_ms", Json.ofOption ofWord s.minTime),
      ("max_response_time_ms", ofWord s.maxTime),
      ("response_times", .ofFields (s.histogram.entries.map bucketToField))] := rfl

theorem asOption?_ofOption (time : Option Millis) :
    Json.asOption? Json.asWord? (Json.ofOption ofWord time) = some time := by
  cases time with
  | none => rfl
  | some time =>
    show (Json.asWord? (ofWord time)).map some = _
    rw [ofWord, Json.asWord?_toNat]
    rfl

theorem ofJson?_toJson (bounded : s.Bounded) : ofJson? s.toJson = some s := by
  have word : ∀ time : Millis, Json.asWord? (ofWord time) = some time := Json.asWord?_toNat
  obtain ⟨fields, written, found⟩ := Json.Parts.ofJson?_ofFields
    [("num_requests", .int s.requests), ("num_failures", .int s.failures),
      ("total_response_time_ms", ofWord s.totalTime),
      ("min_response_time_ms", Json.ofOption ofWord s.minTime),
      ("max_response_time_ms", ofWord s.maxTime),
      ("response_times", .ofFields (s.histogram.entries.map bucketToField))] (by simp)
  rw [ofJson?, toJson_eq, written]
  simp [Json.Parts.fits, Json.Parts.field, Json.Parts.fieldOpt, found, Json.field?, Json.asNat?_int,
    bounded.requests, bounded.failures, word, asOption?_ofOption,
    histogramOfJson?_toJson bounded.counts, guard]

end RequestStats

namespace StatsBook

/-- Every count in the book fits a word. -/
def Bounded (book : StatsBook) : Prop := ∀ entry ∈ book.entries.entries, entry.2.Bounded

def entryToField (entry : String × RequestStats) : String × Json := (entry.1, entry.2.toJson)

def entryOfField? (field : String × Json) : Option (String × RequestStats) := do
  return (field.1, ← RequestStats.ofJson? field.2)

theorem entryOfField?_entryToField {entry : String × RequestStats} (bounded : entry.2.Bounded) :
    entryOfField? (entryToField entry) = some entry := by
  rw [entryOfField?, entryToField, RequestStats.ofJson?_toJson bounded]
  rfl

theorem ofJson?_object (fields : List (String × Json)) :
    ofJson? (.object fields) = (fields.mapM entryOfField?).bind
      fun pairs => some ⟨Table.ofList pairs⟩ := rfl

theorem ofJson?_toJson {book : StatsBook} (bounded : book.Bounded) :
    ofJson? book.toJson = some book := by
  have written : book.toJson = .object (book.entries.entries.map entryToField) := rfl
  obtain ⟨read, decoded, same⟩ := mapM_perm entryOfField?
    (fun entry member => entryOfField?_entryToField (bounded entry member)) (.refl _)
  rw [written, ofJson?_object, decoded, Option.bind_some, Table.ofList_perm same]

end StatsBook

end Muster
