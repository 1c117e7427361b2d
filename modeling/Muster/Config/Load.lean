import Muster.Config.Decode

/-!
Loading the configuration of a run from a file: the one asked for, else the one the environment
names, else the default one.
-/

namespace Muster.Config

def defaultFile : String := "swarmgate.toml"
def maxFileBytes : Nat := 1024 * 1024

/-- The path of the file to load. -/
def chooseFile (asked environment : Option String) : Except ConfigFault String :=
  match asked, environment with
  | some path, _ => .ok path
  | none, some path => if maxPathBytes < path.utf8ByteSize then .error .pathTooLong else .ok path
  | none, none => .ok defaultFile

/-- The text of a file that is not too large. -/
def readText (files : Files) (path : String) : Except ConfigError String :=
  match files.read path with
  | .error error => .error (.io error)
  | .ok bytes =>
    if maxFileBytes < bytes.size then .error (.invalid .fileTooLarge)
    else
      match String.fromUTF8? bytes with
      | none => .error (.invalid .fileNotText)
      | some text => .ok text

/-- A valid configuration, which knows the directory it came from. -/
def load (files : Files) (asked environment : Option String) : Except ConfigError Config := do
  let path ← (chooseFile asked environment).mapError .invalid
  (checkPath path).mapError .invalid
  let config ← ofToml (← readText files path)
  return { config with directory := Path.parent? path }

end Muster.Config
