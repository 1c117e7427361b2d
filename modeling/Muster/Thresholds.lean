import Muster.Decimal.Fixed
import Muster.Stats

/-!
Limits on the statistics of a scenario, and the breaches that exceed them. Breaches come in a fixed
order: failures, average, percentile.
-/

namespace Muster

structure PercentileLimit where
  percentile : Float
  limit : Millis
deriving DecidableEq

/-- Limits that are set; a value above a limit breaches it. -/
structure Thresholds where
  failRatio : Option Float := none
  averageTime : Option Float := none
  percentile : Option PercentileLimit := none
deriving DecidableEq, Inhabited

inductive Breach
  | failRatio (observed limit : Float)
  | averageTime (observed limit : Float)
  | percentile (rank : Float) (observed limit : Millis)
deriving DecidableEq

namespace PercentileLimit

def toJson (p : PercentileLimit) : Json :=
  .ofFields [("percentile", .float p.percentile), ("threshold_ms", .int p.limit.toNat)]

def fieldNames : List String := ["percentile", "threshold_ms"]

def ofJson? (format : Json.Format) (j : Json) : Option PercentileLimit := do
  let parts ← Json.Parts.ofJson? j
  guard (parts.exact format fieldNames)
  return {
    percentile := ← parts.field "percentile" 0 Json.asFloat?
    limit := ← parts.field "threshold_ms" 1 Json.asWord? }

end PercentileLimit

namespace Thresholds

def isEmpty (t : Thresholds) : Bool :=
  t.failRatio.isNone && t.averageTime.isNone && t.percentile.isNone

/-- The limits that the statistics exceed. -/
def evaluate (t : Thresholds) (stats : RequestStats) : List Breach :=
  (t.failRatio.toList.filter (· < stats.failRatio)).map (Breach.failRatio stats.failRatio)
  ++ (t.averageTime.toList.filter (· < stats.average)).map (Breach.averageTime stats.average)
  ++ (t.percentile.toList.filter fun p => p.limit < stats.percentile p.percentile).map fun p =>
      Breach.percentile p.percentile (stats.percentile p.percentile) p.limit

def toJson (t : Thresholds) : Json :=
  .ofFields [("fail_ratio", Json.ofOption .float t.failRatio),
    ("avg_response_time_ms", Json.ofOption .float t.averageTime),
    ("response_time_percentile", Json.ofOption PercentileLimit.toJson t.percentile)]

def fieldNames : List String := ["fail_ratio", "avg_response_time_ms", "response_time_percentile"]

def ofJson? (format : Json.Format) (j : Json) : Option Thresholds := do
  let parts ← Json.Parts.ofJson? j
  guard (parts.exact format fieldNames)
  return {
    failRatio := ← parts.fieldD "fail_ratio" 0 (Json.asOption? Json.asFloat?) none
    averageTime := ← parts.fieldD "avg_response_time_ms" 1 (Json.asOption? Json.asFloat?) none
    percentile := ←
      parts.fieldD "response_time_percentile" 2 (Json.asOption? (PercentileLimit.ofJson? format))
        none }

end Thresholds

namespace Breach

/-- A number with two places at most: trailing zeros go, and then a trailing point. -/
def shortChars (x : Float) : List Char :=
  let digits := (Decimal.fixedChars 2 x).reverse.dropWhile (· = '0')
  (digits.dropWhile (· = '.')).reverse

def short (x : Float) : String := String.ofList (shortChars x)

def message : Breach → String
  | .failRatio observed limit =>
    "fail ratio " ++ short (observed * 100.0) ++ "% > " ++ short (limit * 100.0) ++ "%"
  | .averageTime observed limit =>
    "average response time " ++ short observed ++ " ms > " ++ short limit ++ " ms"
  | .percentile rank observed limit =>
    "p" ++ short (rank * 100.0) ++ " response time " ++ toString observed.toNat
      ++ " ms > " ++ toString limit.toNat ++ " ms"

end Breach

end Muster
