import Muster.Config
import Muster.Toml

/-!
Reading a configuration out of a JSON or TOML value. No section has fields beyond those declared.
-/

namespace Muster

open Json (Format Parts)

/-- A section with all its fields, an absent one being its default. -/
def section? (format : Format) (names : List String) (j : Json) : Option Parts := do
  let parts ← Parts.ofJson? j
  guard (parts.exact format names)
  return parts

namespace LogSink

def ofJson? (format : Format) (j : Json) : Option LogSink :=
  (Json.choiceName? format j).bind ofName?

end LogSink

namespace ScenarioData

def fieldNames : List String := ["order", "cyclic", "sources"]

def ofJson? (format : Format) (j : Json) : Option ScenarioData := do
  let parts ← section? format fieldNames j
  return {
    order := ← parts.fieldD "order" 0 (PoolOrder.ofJson? format) .sequential
    cyclic := ← parts.fieldD "cyclic" 1 Json.asBool? false
    sources := ←
      parts.fieldD "sources" 2 (fun j => j.asArray?.bind (·.mapM DataSource.ofJson?)) [] }

end ScenarioData

namespace ScenarioConfig

def fieldNames : List String := ["name", "identifier", "testdata", "validation"]

def ofJson? (format : Format) (j : Json) : Option ScenarioConfig := do
  let parts ← section? format fieldNames j
  return {
    name := ← parts.field "name" 0 Json.asString?
    identifier := ← parts.fieldD "identifier" 1 (Json.asOption? Json.asString?) none
    data := ← parts.fieldD "testdata" 2 (Json.asOption? (ScenarioData.ofJson? format)) none
    thresholds := ← parts.fieldD "validation" 3 (Thresholds.ofJson? format) {} }

end ScenarioConfig

namespace Config

def timeoutOfJson? (format : Format) (j : Json) : Option Millis := do
  let parts ← section? format ["request_timeout_ms"] j
  parts.fieldD "request_timeout_ms" 0 Json.asWord? ({} : Config).requestTimeout

def tokensOfJson? (format : Format) (j : Json) : Option TokenPolicy := do
  let parts ← section? format ["refresh_margin_ms", "default_ttl_ms"] j
  let fallback : TokenPolicy := {}
  return {
    refreshMargin := ← parts.fieldD "refresh_margin_ms" 0 Json.asWord? fallback.refreshMargin
    defaultLifetime := ← parts.fieldD "default_ttl_ms" 1 Json.asWord? fallback.defaultLifetime }

def addressOfJson? (format : Format) (j : Json) : Option (Option String) := do
  let parts ← section? format ["producer_address"] j
  parts.fieldD "producer_address" 0 (Json.asOption? Json.asString?) none

def logOfJson? (format : Format) (j : Json) : Option (LogSink × Option String) := do
  let parts ← section? format ["sink", "path"] j
  let sink ← parts.fieldD "sink" 0 (LogSink.ofJson? format) .stderr
  return (sink, ← parts.fieldD "path" 1 (Json.asOption? Json.asString?) none)

def fieldNames : List String := ["timeouts", "tokens", "testdata", "scenarios", "log"]

/-- A configuration that is not checked yet. -/
def ofJson? (format : Format) (j : Json) : Option Config := do
  let parts ← section? format fieldNames j
  let fallback : Config := {}
  let (logSink, logPath) ←
    parts.fieldD "log" 4 (logOfJson? format) (fallback.logSink, fallback.logPath)
  return {
    requestTimeout := ← parts.fieldD "timeouts" 0 (timeoutOfJson? format) fallback.requestTimeout
    tokens := ← parts.fieldD "tokens" 1 (tokensOfJson? format) fallback.tokens
    producerAddress := ← parts.fieldD "testdata" 2 (addressOfJson? format) none
    scenarios := ← parts.fieldD "scenarios" 3
      (fun j => j.asArray?.bind (·.mapM (ScenarioConfig.ofJson? format))) []
    logSink, logPath }

/-- A valid configuration from TOML text. -/
def ofToml (text : String) : Except ConfigError Config :=
  match (Toml.parse? text).bind (ofJson? .toml) with
  | none => .error .parse
  | some config =>
    match config.check with
    | .ok () => .ok config
    | .error fault => .error (.invalid fault)

end Config

end Muster
