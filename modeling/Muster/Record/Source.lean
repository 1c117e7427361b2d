import Muster.Files
import Muster.Json.Decode
import Muster.Json.Reader
import Muster.Text.Blank
import Muster.Text.Lines

/-!
Where test data records come from: listed inline, in a file with a JSON array, or in a file with
one JSON record on every line that is not blank.
-/

namespace Muster

inductive DataSource
  | inline (records : List Json)
  | jsonFile (path : String)
  | jsonLines (path : String)
deriving DecidableEq

/-- Why a file gives no records; a malformed line is numbered from one. -/
inductive SourceFault
  | file (error : FileError)
  | tooLarge
  | notText
  | notAnArray
  | malformed
  | malformedLine (number : Nat)
deriving DecidableEq

def SourceFault.message : SourceFault → String
  | .file error => error.message
  | .tooLarge => "file exceeds size limit"
  | .notText => "file must be utf-8"
  | .notAnArray => "expected a JSON array of records"
  | .malformed => "invalid JSON"
  | .malformedLine number => "line " ++ toString number ++ ": invalid JSON"

namespace DataSource

def maxBytes : Nat := 64 * 1024 * 1024

/-- The records of a JSON array. -/
def recordsOfArray (text : String) : Except SourceFault (List Json) :=
  match Json.ofText? text with
  | some (.array records) => .ok records
  | some _ => .error .notAnArray
  | none => .error .malformed

/-- Reads on with the records of numbered lines, those read before being in reverse. Blank lines
count but hold no record. -/
def recordsOfLines (read : List Json) : Nat → List String → Except SourceFault (List Json)
  | _, [] => .ok read.reverse
  | number, line :: rest =>
    if Text.allBlank line then recordsOfLines read (number + 1) rest
    else
      match Json.ofText? line with
      | some record => recordsOfLines (record :: read) (number + 1) rest
      | none => .error (.malformedLine number)

def recordsOfText (text : String) : Except SourceFault (List Json) :=
  recordsOfLines [] 1 (Text.lines text)

def readCapped (files : Files) (path : String) : Except SourceFault ByteArray :=
  match files.read path with
  | .error error => .error (.file error)
  | .ok bytes => if maxBytes < bytes.size then .error .tooLarge else .ok bytes

def path? : DataSource → Option String
  | .inline _ => none
  | .jsonFile path => some path
  | .jsonLines path => some path

/-- The records in declared order. -/
def load (files : Files) : DataSource → Except (String × SourceFault) (List Json)
  | .inline records => .ok records
  | .jsonFile path =>
    match readCapped files path with
    | .error fault => .error (path, fault)
    | .ok bytes =>
      match String.fromUTF8? bytes with
      | none => .error (path, .malformed)
      | some text => (recordsOfArray text).mapError (path, ·)
  | .jsonLines path =>
    match readCapped files path with
    | .error fault => .error (path, fault)
    | .ok bytes =>
      match String.fromUTF8? bytes with
      | none => .error (path, .notText)
      | some text => (recordsOfText text).mapError (path, ·)

def toJson : DataSource → Json
  | .inline records => .ofFields [("type", .string "inline"), ("records", .array records)]
  | .jsonFile path => .ofFields [("type", .string "json_file"), ("path", .string path)]
  | .jsonLines path => .ofFields [("type", .string "json_lines_file"), ("path", .string path)]

/-- All of a source is read before its kind is known, so it is storable as a whole. -/
def ofJson? (j : Json) : Option DataSource := do
  match ← Json.tagged? "type" (← j.storable?) with
  | ("inline", parts) =>
    guard (parts.fits ["records"])
    return .inline (← parts.field "records" 0 Json.asArray?)
  | ("json_file", parts) =>
    guard (parts.fits ["path"])
    return .jsonFile (← parts.field "path" 0 Json.asString?)
  | ("json_lines_file", parts) =>
    guard (parts.fits ["path"])
    return .jsonLines (← parts.field "path" 0 Json.asString?)
  | _ => none

end DataSource

end Muster
