import Muster.Json.Decode
import Muster.Json.Number
import Muster.Millis
import Muster.Table

/-!
Request statistics: counts, times, and a histogram of response times rounded into buckets.
-/

namespace Muster

/-- The width of the buckets around a response time. -/
def bucketStep (ms : Nat) : Nat :=
  if ms < 100 then 1 else if ms < 1000 then 10 else if ms < 10000 then 100 else 1000

/-- Rounds a response time to its bucket, halves up. -/
def bucket (ms : Millis) : Millis :=
  let step := bucketStep ms.toNat
  UInt64.ofNat ((Millis.saturatingAdd ms (UInt64.ofNat (step / 2))).toNat / step * step)

structure RequestStats where
  requests : Nat := 0
  failures : Nat := 0
  totalTime : Millis := 0
  minTime : Option Millis := none
  maxTime : Millis := 0
  histogram : Table Millis Nat := ∅
deriving DecidableEq, Inhabited

namespace RequestStats

def logRequest (s : RequestStats) (ms : Millis) : RequestStats :=
  { s with
    requests := s.requests + 1
    totalTime := Millis.saturatingAdd s.totalTime ms
    minTime := some ((s.minTime.map fun least => min least ms).getD ms)
    maxTime := max s.maxTime ms
    histogram := s.histogram.alter (bucket ms) fun count => count.getD 0 + 1 }

def logFailure (s : RequestStats) : RequestStats := { s with failures := s.failures + 1 }

def isEmpty (s : RequestStats) : Bool := s.requests == 0 && s.failures == 0

/-- The mean response time, zero without requests. -/
def average (s : RequestStats) : Float :=
  if s.requests = 0 then 0.0 else s.totalTime.toFloat / Float.ofNat s.requests

/-- Failures per request; failures alone count as one. -/
def failRatio (s : RequestStats) : Float :=
  if s.requests = 0 then (if 0 < s.failures then 1.0 else 0.0)
  else Float.ofNat s.failures / Float.ofNat s.requests

/-- The number of requests in the histogram. -/
def counted (s : RequestStats) : Nat := s.histogram.values.foldr (· + ·) 0

/-- A share of a count, the share cut to the unit interval and the product to a whole number. -/
def share (total : Nat) (percent : Float) : Nat :=
  let percent := if percent < 0.0 then 0.0 else if 1.0 < percent then 1.0 else percent
  (Float.ofNat total * percent).toUInt64.toNat

/-- Walks the buckets from the slowest down, until no more than `within` requests are left. -/
def slowest (total within processed : Nat) : List (Millis × Nat) → Millis
  | [] => 0
  | (time, count) :: rest =>
    if total - (processed + count) ≤ within then time
    else slowest total within (processed + count) rest

/-- The bucket below which the given share of the requests lies. -/
def percentile (s : RequestStats) (percent : Float) : Millis :=
  slowest s.counted (share s.counted percent) 0 s.histogram.entries.reverse

def mergeMin : Option Millis → Option Millis → Option Millis
  | some a, some b => some (min a b)
  | some a, none => some a
  | none, b => b

def merge (s other : RequestStats) : RequestStats :=
  { requests := s.requests + other.requests
    failures := s.failures + other.failures
    totalTime := Millis.saturatingAdd s.totalTime other.totalTime
    minTime := mergeMin s.minTime other.minTime
    maxTime := max s.maxTime other.maxTime
    histogram := other.histogram.entries.foldl
      (fun merged entry => merged.alter entry.1 fun count => count.getD 0 + entry.2)
      s.histogram }

def ofWord (w : UInt64) : Json := .int w.toNat

def toJson (s : RequestStats) : Json :=
  .ofFields [("num_requests", .int s.requests), ("num_failures", .int s.failures),
    ("total_response_time_ms", ofWord s.totalTime),
    ("min_response_time_ms", Json.ofOption ofWord s.minTime),
    ("max_response_time_ms", ofWord s.maxTime),
    ("response_times", .ofFields (s.histogram.entries.map fun (time, count) =>
      (toString time.toNat, .int count)))]

/-- A bucket written as a key: a JSON natural number of 64 bits; minus zero is zero. -/
def bucketOfKey? (key : String) : Option Millis :=
  if key = "-0" then some 0
  else
    match Json.numberOfChars? key.toList with
    | some number => number.asWord?
    | none => none

def histogramOfJson? : Json → Option (Table Millis Nat)
  | .object fields => do
    let pairs ← fields.mapM fun (key, count) => do
      return (← bucketOfKey? key, ← count.asNat?)
    return Table.ofList pairs
  | _ => none

def fieldNames : List String :=
  ["num_requests", "num_failures", "total_response_time_ms", "min_response_time_ms",
    "max_response_time_ms", "response_times"]

def ofJson? (j : Json) : Option RequestStats := do
  let parts ← Json.Parts.ofJson? j
  guard (parts.fits fieldNames)
  return {
    requests := ← parts.field "num_requests" 0 Json.asNat?
    failures := ← parts.field "num_failures" 1 Json.asNat?
    totalTime := ← parts.field "total_response_time_ms" 2 Json.asWord?
    minTime := ← parts.fieldOpt "min_response_time_ms" 3 Json.asWord?
    maxTime := ← parts.field "max_response_time_ms" 4 Json.asWord?
    histogram := ← parts.field "response_times" 5 histogramOfJson? }

end RequestStats

end Muster
