import Muster.Catalog
import Muster.Record.Pool
import Muster.Token

/-!
The configuration of a run, what makes it valid, and what a run takes from it: the catalog of its
scenarios and the plans of their pools.
-/

namespace Muster

inductive LogSink
  | stderr
  | file
  | none
deriving DecidableEq, Inhabited

namespace LogSink

def name : LogSink → String
  | .stderr => "stderr"
  | .file => "file"
  | .none => "none"

def ofName? : String → Option LogSink
  | "stderr" => some .stderr
  | "file" => some .file
  | "none" => some .none
  | _ => Option.none

end LogSink

structure ScenarioData where
  order : PoolOrder := .sequential
  cyclic : Bool := false
  sources : List DataSource := []
deriving DecidableEq, Inhabited

structure ScenarioConfig where
  name : String
  identifier : Option String := none
  data : Option ScenarioData := none
  thresholds : Thresholds := {}
deriving DecidableEq

structure Config where
  requestTimeout : Millis := 30000
  tokens : TokenPolicy := {}
  producerAddress : Option String := none
  scenarios : List ScenarioConfig := []
  logSink : LogSink := .stderr
  logPath : Option String := none
  /-- where relative paths start, if the configuration came from a file -/
  directory : Option String := none
deriving DecidableEq, Inhabited

/-- What is wrong with a path that a configuration names. -/
inductive PathFault
  | blank
  | tooLong
deriving DecidableEq

/-- Why a configuration is not valid. -/
inductive ConfigFault
  | timeoutOutOfRange
  | zeroLifetime
  | marginTooLarge
  | blankAddress
  | logPathMissing
  | logPath (fault : PathFault)
  | tooManyScenarios
  | blankName
  | nameTooLong (scenario : String)
  | identifierNotWord (scenario : String)
  | identifierTooLong (scenario : String)
  | sourcePath (scenario : String) (fault : PathFault)
  | failRatioOutOfRange (scenario : String)
  | averageOutOfRange (scenario : String)
  | percentileOutOfRange (scenario : String)
  | duplicateName (name : String)
  | duplicateIdentifier (identifier : String)
  | catalog (error : CatalogError)
  | pathTooLong
  | componentTooLong
  | fileTooLarge
  | fileNotText
deriving DecidableEq

inductive ConfigError
  | io (error : FileError)
  | parse
  | invalid (fault : ConfigFault)
deriving DecidableEq

namespace Config

def minTimeout : Millis := 100
def maxTimeout : Millis := 600000
def maxScenarios : Nat := 1024
def maxNameBytes : Nat := 256
def maxPathBytes : Nat := 4096
def maxComponentBytes : Nat := 255

end Config

def PathFault.describe (field : String) : PathFault → String
  | .blank => field ++ " must be non-empty"
  | .tooLong => field ++ " exceeds path limits"

def ConfigFault.message : ConfigFault → String
  | .timeoutOutOfRange =>
    "timeouts.request_timeout_ms must be between " ++ toString Config.minTimeout.toNat ++ " and "
      ++ toString Config.maxTimeout.toNat
  | .zeroLifetime => "tokens.default_ttl_ms must be > 0"
  | .marginTooLarge => "tokens.refresh_margin_ms must be less than tokens.default_ttl_ms"
  | .blankAddress => "testdata.producer_address must be non-empty"
  | .logPathMissing => "log.path is required for file sink"
  | .logPath fault => fault.describe "log.path"
  | .tooManyScenarios => "too many scenarios"
  | .blankName => "scenario name must be non-empty"
  | .nameTooLong scenario => "scenario " ++ scenario ++ ": name too long"
  | .identifierNotWord scenario =>
    "scenario " ++ scenario ++ ": identifier must be a single non-empty word"
  | .identifierTooLong scenario => "scenario " ++ scenario ++ ": identifier too long"
  | .sourcePath scenario fault =>
    fault.describe ("scenario " ++ scenario ++ ": testdata source path")
  | .failRatioOutOfRange scenario =>
    "scenario " ++ scenario ++ ": validation.fail_ratio must be between 0 and 1"
  | .averageOutOfRange scenario =>
    "scenario " ++ scenario ++ ": validation.avg_response_time_ms must be >= 0"
  | .percentileOutOfRange scenario =>
    "scenario " ++ scenario
      ++ ": validation.response_time_percentile.percentile must be in (0, 1]"
  | .duplicateName name => "duplicate scenario name: " ++ name
  | .duplicateIdentifier identifier => "duplicate scenario identifier: " ++ identifier
  | .catalog error => error.message
  | .pathTooLong => "config path exceeds max length"
  | .componentTooLong => "config path component too long"
  | .fileTooLarge => "config file exceeds size limit"
  | .fileNotText => "config file must be utf-8"

def ConfigError.message : ConfigError → String
  | .io error => "config io error: " ++ error.message
  | .parse => "config parse error"
  | .invalid fault => "invalid config: " ++ fault.message

/-- A path that is not too long, neither as a whole nor in a component. -/
def checkPath (path : String) : Except ConfigFault Unit :=
  if Config.maxPathBytes < path.utf8ByteSize then .error .pathTooLong
  else if (Path.components path).any fun c => Config.maxComponentBytes < c.utf8ByteSize then
    .error .componentTooLong
  else .ok ()

/-- A path named in a configuration: the blanks around it do not count. -/
def pathFault? (path : String) : Option PathFault :=
  let trimmed := Text.trim path
  if trimmed.isEmpty then some .blank
  else
    match checkPath trimmed with
    | .ok () => none
    | .error _ => some .tooLong

namespace ScenarioConfig

/-- The identifier that counts: without one it is the position from one, in three digits. -/
def effectiveIdentifier (s : ScenarioConfig) (index : Nat) : String :=
  s.identifier.getD
    (let digits := Nat.toDigits 10 (index + 1)
     String.ofList (List.replicate (3 - digits.length) '0' ++ digits))

/-- A single word that is not empty. -/
def isWord (text : String) : Bool := !text.isEmpty && !text.toList.any Text.isBlank

def checkIdentifier (name : String) : Option String → Except ConfigFault Unit
  | none => .ok ()
  | some identifier =>
    if !isWord identifier then .error (.identifierNotWord name)
    else if Config.maxNameBytes < identifier.utf8ByteSize then .error (.identifierTooLong name)
    else .ok ()

def checkSource (name : String) (source : DataSource) : Except ConfigFault Unit :=
  match source.path?.bind pathFault? with
  | some fault => .error (.sourcePath name fault)
  | none => .ok ()

/-- Limits in their ranges; not-a-number is in none. -/
def checkThresholds (name : String) (t : Thresholds) : Except ConfigFault Unit :=
  if t.failRatio.any fun ratio => !(0.0 ≤ ratio && ratio ≤ 1.0) then
    .error (.failRatioOutOfRange name)
  else if t.averageTime.any fun average => !average.isFinite || average < 0.0 then
    .error (.averageOutOfRange name)
  else if t.percentile.any fun p => !(0.0 < p.percentile && p.percentile ≤ 1.0) then
    .error (.percentileOutOfRange name)
  else .ok ()

/-- Checks a scenario by itself. The blanks around its name do not count. -/
def check (s : ScenarioConfig) : Except ConfigFault Unit := do
  let name := Text.trim s.name
  if name.isEmpty then throw .blankName
  if Config.maxNameBytes < name.utf8ByteSize then throw (.nameTooLong name)
  checkIdentifier name s.identifier
  for source in (s.data.map (·.sources)).getD [] do
    checkSource name source
  checkThresholds name s.thresholds

end ScenarioConfig

namespace Config

def checkTokens (p : TokenPolicy) : Except ConfigFault Unit :=
  if p.defaultLifetime = 0 then .error .zeroLifetime
  else if p.defaultLifetime ≤ p.refreshMargin then .error .marginTooLarge
  else .ok ()

def checkLog (c : Config) : Except ConfigFault Unit :=
  match c.logSink, c.logPath with
  | .file, none => .error .logPathMissing
  | .file, some path =>
    match pathFault? path with
    | some fault => .error (.logPath fault)
    | none => .ok ()
  | _, _ => .ok ()

/-- Checks scenarios from a position on, given the names and identifiers before it. -/
def checkScenarios (names identifiers : List String) :
    Nat → List ScenarioConfig → Except ConfigFault Unit
  | _, [] => .ok ()
  | index, s :: rest =>
    match s.check with
    | .error fault => .error fault
    | .ok () =>
      if names.contains s.name then .error (.duplicateName s.name)
      else if identifiers.contains (s.effectiveIdentifier index) then
        .error (.duplicateIdentifier (s.effectiveIdentifier index))
      else
        checkScenarios (s.name :: names) (s.effectiveIdentifier index :: identifiers) (index + 1)
          rest

/-- Checks the sections in order and then the scenarios; the first fault counts. -/
def check (c : Config) : Except ConfigFault Unit := do
  if c.requestTimeout < minTimeout || maxTimeout < c.requestTimeout then
    throw .timeoutOutOfRange
  checkTokens c.tokens
  if c.producerAddress.any Text.allBlank then throw .blankAddress
  checkLog c
  if maxScenarios < c.scenarios.length then throw .tooManyScenarios
  checkScenarios [] [] 0 c.scenarios

/-- A path as the run uses it: a relative one starts at the directory of the configuration. -/
def resolve (c : Config) (path : String) : String :=
  match c.directory with
  | some directory => Path.join directory path
  | none => path

def resolveSource (c : Config) : DataSource → DataSource
  | .inline records => .inline records
  | .jsonFile path => .jsonFile (c.resolve path)
  | .jsonLines path => .jsonLines (c.resolve path)

/-- The pools of the scenarios that have test data. -/
def plans (c : Config) : List PoolPlan :=
  c.scenarios.filterMap fun s => s.data.map fun data =>
    { scenario := s.name
      order := data.order
      cyclic := data.cyclic
      sources := data.sources.map c.resolveSource }

def toScenario (s : ScenarioConfig) (index : Nat) : Scenario :=
  { name := s.name, identifier := s.effectiveIdentifier index, thresholds := s.thresholds }

/-- The scenarios as they are judged after the run. -/
def catalog (c : Config) : Except ConfigError Catalog :=
  (Catalog.ofList (c.scenarios.zipIdx.map fun (s, index) => toScenario s index)).mapError
    fun error => .invalid (.catalog error)

end Config

end Muster
