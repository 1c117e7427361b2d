import Muster.Proofs.Files
import Muster.Proofs.Json.LargeNumbers
import Muster.Proofs.Json.Reading
import Muster.Proofs.Text.Lines
import Muster.RunLog

/-!
What a log file holds. Every recorded event adds one line at the end of the file, whatever else is
in the file and however often it is opened. The line is a JSON object that gives the event back, and
no text in an event can end it early.
-/

namespace Muster

namespace Event

variable {event : Event} {timestamp : Nat} {time : Json} {cs : List Char}

/-! ### The line of an event -/

/-- The fields of an event whose time is written as this value. -/
def fieldsAt (event : Event) (time : Json) : List (String × Json) :=
  [("event", .string event.name), ("timestamp_ms", time),
    ("level", .string event.level.name), ("message", .string event.message)]
  ++ event.scenario.toList.map (fun s => ("scenario", .string s))
  ++ event.node.toList.map (fun n => ("node", .string n))

theorem fieldsAt_int (event : Event) (timestamp : Nat) :
    event.fieldsAt (.int timestamp) = event.fields timestamp := rfl

theorem keys_fieldsAt_nodup (event : Event) (time : Json) :
    ((event.fieldsAt time).map Prod.fst).Nodup := by
  obtain ⟨_, _, _, _ | _, _ | _⟩ := event <;> simp [fieldsAt]

theorem fieldsReadAs_fieldsAt (event : Event) {parsed : Json} (reads : Json.ReadsAs time parsed) :
    Json.FieldsReadAs (event.fieldsAt time) (event.fieldsAt parsed) := by
  obtain ⟨_, _, _, _ | _, _ | _⟩ := event <;>
    simp [fieldsAt, Json.FieldsReadAs, Json.readsAs_string, reads]

/-- The line without its line feed. -/
def text (event : Event) (timestamp : Nat) : List Char :=
  Json.render (.object (event.fields timestamp))

theorem line_eq (event : Event) (timestamp : Nat) :
    event.line timestamp = event.text timestamp ++ ['\n'] := by
  simp [line, text, Json.render]

theorem printed_text (event : Event) (timestamp : Nat) : Json.Printed (event.text timestamp) := by
  have printed : ∀ field ∈ event.fields timestamp, Json.Printed (Json.render field.2) := by
    obtain ⟨_, _, _, _ | _, _ | _⟩ := event <;>
      simp [fields, Json.printed_string, Json.printed_nat]
  rw [text, Json.render]
  refine Json.printed_cons.mpr ⟨by decide, Json.printed_append.mpr ⟨?_, by simp [Json.Printed]⟩⟩
  exact Json.printed_renderFields printed

/-- The name, level and message of the event are among the fields; its scenario and its node are if
it has them, and else there is no such field. -/
structure Among (event : Event) (fields : List (String × Json)) : Prop where
  name : Json.field? "event" fields = some (.string event.name)
  level : Json.field? "level" fields = some (.string event.level.name)
  message : Json.field? "message" fields = some (.string event.message)
  scenario : Json.field? "scenario" fields = event.scenario.map .string
  node : Json.field? "node" fields = event.node.map .string

theorem among_fieldsAt (event : Event) (time : Json) : event.Among (event.fieldsAt time) := by
  obtain ⟨_, _, _, _ | _, _ | _⟩ := event <;> constructor <;> rfl

theorem Among.of_perm {fields sorted : List (String × Json)} (among : event.Among fields)
    (distinct : (fields.map Prod.fst).Nodup) (perm : sorted.Perm fields) :
    event.Among sorted := by
  have same := Json.field?_perm distinct perm
  constructor <;> rw [same]
  exacts [among.name, among.level, among.message, among.scenario, among.node]

/-- The text is one line of JSON that gives the event back. -/
structure WrittenAs (event : Event) (cs : List Char) : Prop where
  oneLine : '\n' ∉ cs
  object : ∃ fields, Json.parse? cs = some (.object fields) ∧ event.Among fields

theorem WrittenAs.ofLine? (written : event.WrittenAs cs) : Event.ofLine? cs = some event := by
  obtain ⟨fields, parsed, among⟩ := written.object
  rw [Event.ofLine?, parsed]
  simp only [among.name, among.level, among.message, among.scenario, among.node,
    Level.ofName?_name]
  obtain ⟨_, _, _, _ | _, _ | _⟩ := event <;> rfl

/-- A time of 128 bits may be beyond the integers that are kept as such; the line is read all the
same. -/
theorem writtenAs_text (event : Event) (small : timestamp < 2 ^ 128) :
    event.WrittenAs (event.text timestamp) := by
  refine ⟨(printed_text event timestamp).lineFeed, ?_⟩
  obtain ⟨number, read⟩ := Option.isSome_iff_exists.mp (Json.numberOfChars?_isSome small)
  have distinct := keys_fieldsAt_nodup event number
  obtain ⟨sorted, made, perm⟩ := Json.ofFields_perm distinct
  refine ⟨sorted, ?_, (among_fieldsAt event number).of_perm distinct perm⟩
  rw [← made, text, ← fieldsAt_int]
  exact Json.parse?_object (fieldsReadAs_fieldsAt event (Json.readsAs_nat read))

end Event

namespace RunLog

variable {files start : Files} {path : String} {content : ByteArray}

/-! ### The lines of a file -/

/-- An event and its time in milliseconds, a number of 128 bits. -/
structure Entry where
  event : Event
  timestamp : Nat
  small : timestamp < 2 ^ 128

def Entry.text (entry : Entry) : List Char := entry.event.text entry.timestamp

/-- What is done with a log file. -/
inductive Use
  | reopen
  | record (entry : Entry)

def Use.run (path : String) (files : Files) : Use → Except FileError Files
  | .reopen => openFile files path
  | .record entry => .ok ((RunLog.file path).record files entry.event entry.timestamp)

def Use.entry? : Use → Option Entry
  | .reopen => none
  | .record entry => some entry

/-- The events that were recorded, in order. -/
def recorded (uses : List Use) : List Event := uses.filterMap fun use => use.entry?.map (·.event)

/-- The lines that were written for them. -/
def written (uses : List Use) : List (List Char) :=
  uses.filterMap fun use => use.entry?.map Entry.text

theorem writtenAs_written (uses : List Use) :
    List.Forall₂ Event.WrittenAs (recorded uses) (written uses) := by
  induction uses with
  | nil => exact .nil
  | cons use rest ih =>
    cases use with
    | reopen => exact ih
    | record entry => exact .cons (Event.writtenAs_text entry.event entry.small) ih

theorem map_ofLine? {events : List Event} {lines : List (List Char)}
    (each : List.Forall₂ Event.WrittenAs events lines) :
    lines.map Event.ofLine? = events.map some := by
  induction each with
  | nil => rfl
  | cons written _ ih => rw [List.map_cons, List.map_cons, written.ofLine?, ih]

/-- The text of these lines, each with its line feed. -/
def ended (lines : List (List Char)) : List Char := lines.flatMap (· ++ ['\n'])

/-- These lines as they stand in a file. -/
def bytes (lines : List (List Char)) : ByteArray := (String.ofList (ended lines)).toUTF8

theorem bytes_append (lines more : List (List Char)) :
    bytes (lines ++ more) = bytes lines ++ bytes more := by
  rw [bytes, bytes, bytes, ended, List.flatMap_append, String.ofList_append]
  exact String.toByteArray_append

theorem splitOn_ended {lines : List (List Char)} (whole : ∀ line ∈ lines, '\n' ∉ line) :
    (ended lines).splitOn '\n' = lines ++ [[]] := by
  induction lines with
  | nil => rfl
  | cons line rest ih =>
    obtain ⟨first, later⟩ := List.forall_mem_cons.mp whole
    rw [ended, List.flatMap_cons, List.append_assoc, List.singleton_append,
      List.splitOn_append_cons_self_of_not_mem first]
    exact congrArg (line :: ·) (ih later)

/-- What was written falls into the lines that were written. -/
theorem lines_ended_written (uses : List Use) :
    Text.lines (String.ofList (ended (written uses))) = (written uses).map String.ofList := by
  have printed : ∀ line ∈ written uses, Json.Printed line := by
    intro line member
    obtain ⟨use, -, told⟩ := List.mem_filterMap.mp member
    obtain ⟨entry, -, rfl⟩ := Option.map_eq_some_iff.mp told
    exact Event.printed_text entry.event entry.timestamp
  rw [Text.lines_eq, String.toList_ofList,
    splitOn_ended fun line member => (printed line member).lineFeed, Text.linesOfPieces_concat_nil]
  intro line member carriage
  exact absurd (printed line member '\r' (List.mem_of_getLast? carriage)) (by decide)

/-! ### A file in use -/

theorem Use.run_of_open (opened : files.Open path content) (use : Use) :
    ∃ next, use.run path files = .ok next ∧ next.Open path (content ++ bytes (written [use])) := by
  cases use with
  | reopen => exact opened.append .empty
  | record entry =>
    obtain ⟨next, appended, more⟩ :=
      opened.append (String.ofList (entry.event.line entry.timestamp)).toUTF8
    have line : ended (written [.record entry]) = entry.event.line entry.timestamp := by
      rw [Event.line_eq]
      exact List.append_nil _
    rw [← line] at appended more
    refine ⟨next, ?_, more⟩
    rw [run, RunLog.record, ← line, appended]

theorem run_of_open (opened : files.Open path content) (uses : List Use) :
    ∃ now, uses.foldlM (Use.run path) files = .ok now ∧
      now.Open path (content ++ bytes (written uses)) := by
  induction uses generalizing files content with
  | nil => exact ⟨files, rfl, by simpa [written, bytes, ended] using opened⟩
  | cons use rest ih =>
    obtain ⟨next, ran, reopened⟩ := use.run_of_open opened
    obtain ⟨now, runs, last⟩ := ih reopened
    refine ⟨now, by rw [List.foldlM_cons, ran]; exact runs, ?_⟩
    have both : written (use :: rest) = written [use] ++ written rest := by cases use <;> rfl
    rw [both, bytes_append, ← ByteArray.append_assoc]
    exact last

/-- The lines of the events so far are the first lines of all. -/
theorem take_written (uses : List Use) (count : Nat) :
    (written uses).take (recorded (uses.take count)).length = written (uses.take count) := by
  have both : written uses = written (uses.take count) ++ written (uses.drop count) := by
    rw [written, written, written, ← List.filterMap_append, List.take_append_drop]
  rw [both, (writtenAs_written _).length_eq, List.take_left']
  rfl

/-- However a log file is used after it is opened, it holds what it held before and then a line for
every event recorded so far. The lines are those of the text that was added, in the order of the
events, and each gives its event back. -/
theorem file_grows_by_lines (opened : openFile files path = .ok start) (uses : List Use) :
    ∃ lines, List.Forall₂ Event.WrittenAs (recorded uses) lines ∧
      lines.map Event.ofLine? = (recorded uses).map some ∧
      Text.lines (String.ofList (ended lines)) = lines.map String.ofList ∧
      ∀ count, ∃ now, (uses.take count).foldlM (Use.run path) start = .ok now ∧
        now.read path = .ok (files.contentAt path ++
          bytes (lines.take (recorded (uses.take count)).length)) := by
  have each := writtenAs_written uses
  have ready : start.Open path (files.contentAt path) := by
    have held := Files.open_of_append opened
    rwa [ByteArray.append_empty] at held
  refine ⟨written uses, each, map_ofLine? each, lines_ended_written uses, fun count => ?_⟩
  obtain ⟨now, ran, last⟩ := run_of_open ready (uses.take count)
  refine ⟨now, ran, ?_⟩
  rw [take_written]
  exact last.read

/-- A message of two lines with quotes around it, and the file opened again after it. -/
theorem file_grows_by_lines_reopened :
    let uses (entry other : Entry) : List Use := [.record entry, .reopen, .record other]
    let entry : Entry := ⟨⟨"started", .info, "\"a\nb\"", some "s\\", none⟩, 0, by decide⟩
    let other : Entry := ⟨⟨"ended", .warn, "", none, some "n\r"⟩, 1, by decide⟩
    let start : Files := ⟨[(["log"], .file .empty)]⟩
    ∃ lines, List.Forall₂ Event.WrittenAs [entry.event, other.event] lines ∧
      ∃ now, (uses entry other).foldlM (Use.run "log") start = .ok now ∧
        now.read "log" = .ok (bytes lines) := by
  intro uses entry other start
  have opened : openFile {} "log" = .ok start := rfl
  obtain ⟨lines, each, -, -, grows⟩ := file_grows_by_lines opened (uses entry other)
  obtain ⟨now, ran, held⟩ := grows 3
  have all : lines.take 2 = lines := List.take_of_length_le (Nat.le_of_eq each.length_eq.symm)
  change now.read "log" = .ok (.empty ++ bytes (lines.take 2)) at held
  rw [all, ByteArray.empty_append] at held
  exact ⟨lines, each, now, ran, held⟩

end RunLog

end Muster
