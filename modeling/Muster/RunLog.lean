import Muster.Config
import Muster.Event

/-!
Where the events of a run go: to the operator's terminal, nowhere, or to a file that grows by a
line for each event.
-/

namespace Muster

inductive RunLog
  | terminal
  | discarded
  | file (path : String)
deriving DecidableEq

namespace RunLog

/-- Opens a log file; what it holds stays. -/
def openFile (files : Files) (path : String) : Except FileError Files := files.append path .empty

/-- Records an event. A file that cannot be written to is left as it is. -/
def record (log : RunLog) (files : Files) (event : Event) (timestamp : Nat) : Files :=
  match log with
  | .file path =>
    match files.append path (String.ofList (event.line timestamp)).toUTF8 with
    | .ok files => files
    | .error _ => files
  | _ => files

/-- The log that a configuration asks for, opened. -/
def ofConfig (files : Files) (c : Config) : Except ConfigError (RunLog × Files) :=
  match c.logSink, c.logPath with
  | .stderr, _ => .ok (.terminal, files)
  | .none, _ => .ok (.discarded, files)
  | .file, none => .error (.invalid .logPathMissing)
  | .file, some path =>
    match openFile files (c.resolve path) with
    | .ok files => .ok (.file (c.resolve path), files)
    | .error error => .error (.io error)

end RunLog

end Muster
