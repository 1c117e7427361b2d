import Mathlib.Data.List.ReduceOption
import Mathlib.Logic.Relation
import Muster.Proofs.Json.Reading
import Muster.Proofs.Text.Lines
import Muster.Record.Source

/-!
Files with a record on every line that is not blank. The lines of the text decide: there are the
records of all lines, or there is the number of the first line that is neither blank nor JSON. The
style of the line endings does not matter, nor do blank lines, except that they count.
-/

namespace Muster

/-- The text is the content of the file at this path, and within the limit for sources. -/
structure Files.Holds (files : Files) (path text : String) : Prop where
  content : files.read path = .ok text.toUTF8
  size : text.toUTF8.size ≤ DataSource.maxBytes

namespace DataSource

/-- What a line holds: nothing if it is blank, and otherwise a record if it is JSON. -/
def held? (line : String) : Option (Option Json) :=
  if Text.allBlank line then none else some (Json.ofText? line)

def malformed (line : String) : Bool := held? line = some none

def record? (line : String) : Option Json := (held? line).join

/-- What is read from lines that hold this, the first one so numbered. -/
def verdict (number : Nat) (held : List (Option (Option Json))) : Except SourceFault (List Json) :=
  match held.findIdx? (· = some none) with
  | some before => .error (.malformedLine (number + before))
  | none => .ok (held.filterMap Option.join)

/-! ### Lines -/

theorem verdict_map_held (number : Nat) (lines : List String) :
    verdict number (lines.map held?) =
      match lines.findIdx? malformed with
      | some before => .error (.malformedLine (number + before))
      | none => .ok (lines.filterMap record?) := by
  rw [verdict, List.findIdx?_map, List.filterMap_map]
  rfl

theorem verdict_blank (number : Nat) (held : List (Option (Option Json))) :
    verdict number (none :: held) = verdict (number + 1) held := by
  have apart : ¬decide ((none : Option (Option Json)) = some none) = true := by decide
  rw [verdict, verdict, List.findIdx?_cons, if_neg apart]
  cases held.findIdx? (· = some none) with
  | none => rfl
  | some before => simp only [Option.map_some, Nat.add_right_comm, Nat.add_assoc]

theorem verdict_malformed (number : Nat) (held : List (Option (Option Json))) :
    verdict number (some none :: held) = .error (.malformedLine number) := rfl

theorem verdict_record (number : Nat) (record : Json) (held : List (Option (Option Json))) :
    verdict number (some (some record) :: held) =
      (verdict (number + 1) held).map (record :: ·) := by
  have apart : ¬decide (some (some record) = some none) = true := by simp
  rw [verdict, verdict, List.findIdx?_cons, if_neg apart]
  cases held.findIdx? (· = some none) with
  | none => rfl
  | some before => simp only [Option.map_some, Except.map, Nat.add_right_comm, Nat.add_assoc]

theorem recordsOfLines_eq (read : List Json) (number : Nat) (lines : List String) :
    recordsOfLines read number lines =
      (verdict number (lines.map held?)).map (read.reverse ++ ·) := by
  induction lines generalizing read number with
  | nil => exact congrArg Except.ok (List.append_nil _).symm
  | cons line rest ih =>
    rw [recordsOfLines, List.map_cons]
    by_cases blank : Text.allBlank line = true
    · rw [if_pos blank, held?, if_pos blank, verdict_blank, ih]
    · rw [if_neg blank, held?, if_neg blank]
      cases Json.ofText? line with
      | none =>
        rw [verdict_malformed]
        rfl
      | some record =>
        rw [verdict_record]
        dsimp only
        rw [ih]
        cases verdict (number + 1) (rest.map held?) with
        | error fault => rfl
        | ok records =>
          simp only [Except.map, List.reverse_cons, List.append_assoc, List.singleton_append]

theorem recordsOfText_eq_lines (text : String) :
    recordsOfText text = verdict 1 ((Text.lines text).map held?) := by
  rw [recordsOfText, recordsOfLines_eq]
  cases verdict 1 ((Text.lines text).map held?) <;> rfl

/-! ### Texts -/

/-- What the pieces between the line feeds of a text hold. -/
def heldIn (cs : List Char) : List (Option (Option Json)) :=
  (cs.splitOn '\n').map fun piece => held? (String.ofList piece)

theorem held_of_blank {piece : List Char} (blank : ∀ c ∈ piece, Text.isBlank c = true) :
    held? (String.ofList piece) = none := by
  refine if_pos ?_
  rw [Text.allBlank_eq_all, String.toList_ofList]
  exact List.all_eq_true.mpr blank

/-- A carriage return behind a line does not change what it holds. -/
theorem held_concat_carriage (piece : List Char) :
    held? (String.ofList (piece ++ ['\r'])) = held? (String.ofList piece) := by
  have blank : Text.isBlank '\r' = true := by decide
  simp only [held?, Text.allBlank_eq_all, Json.ofText?_eq_parse?, String.toList_ofList,
    Json.parse?_concat_space piece (c := '\r') rfl, List.all_append, List.all_cons, List.all_nil,
    blank, Bool.and_true]

theorem held_withoutCarriage (piece : List Char) :
    held? (String.ofList (Text.withoutCarriage piece)) = held? (String.ofList piece) := by
  rw [Text.withoutCarriage]
  split
  · rename_i carriage
    rw [← held_concat_carriage, List.dropLast_append_getLast? _ carriage]
  · rfl

theorem verdict_concat_none (number : Nat) (held : List (Option (Option Json))) :
    verdict number (held ++ [none]) = verdict number held := by
  rw [verdict, verdict, List.findIdx?_append, List.filterMap_append]
  simp

/-- The lines hold what the pieces hold, but for an empty piece at the end. -/
theorem held_linesOfPieces (pieces : List (List Char)) :
    ∃ rest, (rest = [] ∨ rest = [none]) ∧
      pieces.map (fun piece => held? (String.ofList piece)) =
        (Text.linesOfPieces pieces).map (fun piece => held? (String.ofList piece)) ++ rest := by
  induction pieces with
  | nil => exact ⟨[], .inl rfl, rfl⟩
  | cons piece more ih =>
    cases more with
    | nil =>
      by_cases empty : piece = []
      · subst empty
        have nothing : held? (String.ofList []) = none := held_of_blank nofun
        exact ⟨[none], .inr rfl, congrArg ([·]) nothing⟩
      · refine ⟨[], .inl rfl, ?_⟩
        rw [Text.linesOfPieces, if_neg empty, List.append_nil]
    | cons next last =>
      obtain ⟨rest, kind, same⟩ := ih
      refine ⟨rest, kind, ?_⟩
      rw [List.map_cons, same, Text.linesOfPieces_cons piece (List.cons_ne_nil next last),
        List.map_cons, held_withoutCarriage, List.cons_append]

theorem recordsOfText_eq (text : String) : recordsOfText text = verdict 1 (heldIn text.toList) := by
  obtain ⟨rest, kind, same⟩ := held_linesOfPieces (text.toList.splitOn '\n')
  rw [recordsOfText_eq_lines, Text.lines_eq, List.map_map, heldIn, same]
  rcases kind with rfl | rfl
  · rw [List.append_nil]
    rfl
  · rw [verdict_concat_none]
    rfl

theorem heldIn_append (before after : List Char) :
    heldIn (before ++ '\n' :: after) = heldIn before ++ heldIn after := by
  rw [heldIn, List.splitOn_append_cons_self, List.map_append]
  rfl

theorem heldIn_concat_carriage (cs : List Char) : heldIn (cs ++ ['\r']) = heldIn cs := by
  obtain ⟨pieces, last, before, after⟩ := Text.splitOn_concat cs (c := '\r') (by decide)
  rw [heldIn, after, heldIn, before, List.map_append, List.map_append, List.map_singleton,
    List.map_singleton, held_concat_carriage]

theorem heldIn_carriage (before after : List Char) :
    heldIn (before ++ '\r' :: '\n' :: after) = heldIn (before ++ '\n' :: after) := by
  have split : before ++ '\r' :: '\n' :: after = (before ++ ['\r']) ++ '\n' :: after := by simp
  rw [split, heldIn_append, heldIn_append, heldIn_concat_carriage]

theorem reduceOption_heldIn_of_blank {cs : List Char} (blank : ∀ c ∈ cs, Text.isBlank c = true) :
    (heldIn cs).reduceOption = [] := by
  refine List.filterMap_eq_nil_iff.mpr fun held member => ?_
  obtain ⟨piece, inside, rfl⟩ := List.mem_map.mp member
  exact held_of_blank fun c here => blank c (Text.mem_of_mem_splitOn inside here)

/-- The records do not depend on the blank lines. -/
theorem toOption_verdict (number : Nat) (held : List (Option (Option Json))) :
    (verdict number held).toOption =
      if none ∈ held.reduceOption then none else some held.reduceOption.reduceOption := by
  have joined : held.filterMap Option.join = held.reduceOption.reduceOption := by
    rw [List.reduceOption, List.reduceOption, List.filterMap_filterMap]
    rfl
  have found : (held.findIdx? (· = some none)).isSome = true ↔ none ∈ held.reduceOption := by
    rw [List.reduceOption_mem_iff, List.findIdx?_isSome, List.any_eq_true]
    simp
  rw [verdict, joined]
  cases first : held.findIdx? (· = some none) with
  | none =>
    rw [first] at found
    exact (if_neg fun member => Bool.false_ne_true (found.mpr member)).symm
  | some before =>
    rw [first] at found
    exact (if_pos (found.mp rfl)).symm

theorem verdict_append {held next : List (Option (Option Json))} {records more : List Json}
    (first : verdict 1 held = .ok records) (second : verdict 1 next = .ok more) :
    verdict 1 (held ++ next) = .ok (records ++ more) := by
  have read : ∀ {held : List (Option (Option Json))} {records : List Json},
      verdict 1 held = .ok records →
        held.findIdx? (· = some none) = none ∧ held.filterMap Option.join = records := by
    intro held records
    rw [verdict]
    split
    · exact nofun
    · rename_i sound
      exact fun same => ⟨sound, Except.ok.inj same⟩
  obtain ⟨sound, rfl⟩ := read first
  obtain ⟨sound', rfl⟩ := read second
  rw [verdict, List.findIdx?_append, sound, sound', List.filterMap_append]
  rfl

/-! ### Edits -/

/-- A carriage return before a line feed, or a line feed behind the text. -/
inductive Restyled : List Char → List Char → Prop
  | carriage (before after : List Char) :
    Restyled (before ++ '\n' :: after) (before ++ '\r' :: '\n' :: after)
  | final (cs : List Char) : Restyled cs (cs ++ ['\n'])

/-- Blank lines before the first line, between two lines, or behind the last line. -/
inductive Respaced : List Char → List Char → Prop
  | first (blank cs : List Char) (isBlank : ∀ c ∈ blank, Text.isBlank c = true) :
    Respaced cs (blank ++ '\n' :: cs)
  | between (before blank after : List Char) (isBlank : ∀ c ∈ blank, Text.isBlank c = true) :
    Respaced (before ++ '\n' :: after) (before ++ '\n' :: (blank ++ '\n' :: after))
  | last (cs blank : List Char) (isBlank : ∀ c ∈ blank, Text.isBlank c = true) :
    Respaced cs (cs ++ '\n' :: blank)

theorem Restyled.verdict {cs ds : List Char} (restyled : Restyled cs ds) :
    verdict 1 (heldIn cs) = verdict 1 (heldIn ds) := by
  cases restyled with
  | carriage before after => rw [heldIn_carriage]
  | final =>
    have nothing : heldIn [] = [none] := congrArg ([·]) (held_of_blank nofun)
    rw [heldIn_append, nothing, verdict_concat_none]

theorem Respaced.reduceOption {cs ds : List Char} (respaced : Respaced cs ds) :
    (heldIn cs).reduceOption = (heldIn ds).reduceOption := by
  cases respaced with
  | first blank _ isBlank =>
    rw [heldIn_append, List.reduceOption_append, reduceOption_heldIn_of_blank isBlank,
      List.nil_append]
  | between before blank after isBlank =>
    rw [heldIn_append, heldIn_append, heldIn_append]
    simp only [List.reduceOption_append, reduceOption_heldIn_of_blank isBlank, List.nil_append]
  | last _ blank isBlank =>
    rw [heldIn_append, List.reduceOption_append, reduceOption_heldIn_of_blank isBlank,
      List.append_nil]

theorem Restyled.reduceOption {cs ds : List Char} (restyled : Restyled cs ds) :
    (heldIn cs).reduceOption = (heldIn ds).reduceOption := by
  cases restyled with
  | carriage before after => rw [heldIn_carriage]
  | final => exact (Respaced.last cs [] (by simp)).reduceOption

/-- Any number of changes, each way. -/
def Edited (change : List Char → List Char → Prop) (text other : String) : Prop :=
  Relation.EqvGen change text.toList other.toList

theorem verdict_of_edited {text other : String} (edited : Edited Restyled text other) :
    verdict 1 (heldIn text.toList) = verdict 1 (heldIn other.toList) :=
  (InvImage.equivalence _ (fun cs => verdict 1 (heldIn cs)) eq_equivalence).eqvGen_iff.mp
    (edited.mono fun _ _ => Restyled.verdict)

theorem reduceOption_of_edited {text other : String}
    (edited : Edited (fun cs ds => Restyled cs ds ∨ Respaced cs ds) text other) :
    (heldIn text.toList).reduceOption = (heldIn other.toList).reduceOption :=
  (InvImage.equivalence _ (fun cs => (heldIn cs).reduceOption) eq_equivalence).eqvGen_iff.mp
    (edited.mono fun _ _ step => step.elim Restyled.reduceOption Respaced.reduceOption)

/-! ### Files -/

theorem load_of_holds {files : Files} {path text : String} (holds : files.Holds path text) :
    load files (.jsonLines path) = (verdict 1 (heldIn text.toList)).mapError (path, ·) := by
  have decoded : String.fromUTF8? text.toUTF8 = some text := dif_pos text.isValidUTF8
  rw [load, readCapped, holds.content]
  simp only [if_neg (Nat.not_lt.mpr holds.size), decoded, recordsOfText_eq]

theorem verdict_eq_ok {files : Files} {path text : String} {records : List Json}
    (holds : files.Holds path text) :
    load files (.jsonLines path) = .ok records ↔ verdict 1 (heldIn text.toList) = .ok records := by
  rw [load_of_holds holds]
  cases verdict 1 (heldIn text.toList) with
  | error fault => exact ⟨nofun, nofun⟩
  | ok _ => exact Iff.of_eq (by simp only [Except.mapError, Except.ok.injEq])

/-- A file is read line by line: all records in order, or the number of the first line that should
be a record and is none. The style of the line endings does not matter, blank lines do not matter to
the records, and the records of two texts follow each other if the texts do. -/
theorem load_by_lines {files : Files} {path text : String} (holds : files.Holds path text) :
    Text.lines text =
      (Text.linesOfPieces (text.toList.splitOn '\n')).map String.ofList ∧
    load files (.jsonLines path) =
      (match (Text.lines text).findIdx? malformed with
      | some before => .error (path, .malformedLine (before + 1))
      | none => .ok ((Text.lines text).filterMap record?)) ∧
    (∀ files' other, Files.Holds files' path other → Edited Restyled text other →
      load files' (.jsonLines path) = load files (.jsonLines path)) ∧
    (∀ files' path' other, Files.Holds files' path' other →
      Edited (fun cs ds => Restyled cs ds ∨ Respaced cs ds) text other →
        (load files' (.jsonLines path')).toOption = (load files (.jsonLines path)).toOption) ∧
    ∀ files' path' next both place records more, Files.Holds files' path' next →
      Files.Holds both place (text ++ "\n" ++ next) →
      load files (.jsonLines path) = .ok records → load files' (.jsonLines path') = .ok more →
        load both (.jsonLines place) = .ok (records ++ more) := by
  have unnamed : ∀ {path : String} (held : List (Option (Option Json))),
      ((verdict 1 held).mapError (path, ·)).toOption = (verdict 1 held).toOption := by
    intro path held
    cases verdict 1 held <;> rfl
  refine ⟨Text.lines_eq text, ?_, fun files' other held edited => ?_,
    fun files' path' other held edited => ?_,
    fun files' path' next both place records more second joined first later => ?_⟩
  · rw [load_of_holds holds, ← recordsOfText_eq, recordsOfText_eq_lines, verdict_map_held]
    split
    · simp only [Except.mapError, Nat.add_comm]
    · rfl
  · rw [load_of_holds holds, load_of_holds held, verdict_of_edited edited]
  · rw [load_of_holds holds, load_of_holds held, unnamed, unnamed, toOption_verdict,
      toOption_verdict, reduceOption_of_edited edited]
  · have split : (text ++ "\n" ++ next).toList = text.toList ++ '\n' :: next.toList := by simp
    rw [verdict_eq_ok joined, split, heldIn_append]
    exact verdict_append ((verdict_eq_ok holds).mp first) ((verdict_eq_ok second).mp later)

/-- An array is opened in the third line, after a record and a blank line. Without it there is the
record, whether its line is ended or comes after a blank one, and the record of another text comes
after it. -/
theorem load_by_lines_blank :
    let files (text : String) : Files := ⟨[(["a"], .file text.toUTF8)]⟩
    load (files "1\n \n[") (.jsonLines "a") = .error ("a", .malformedLine 3) ∧
    load (files "1") (.jsonLines "a") = .ok [.int 1] ∧
    load (files "1\n") (.jsonLines "a") = .ok [.int 1] ∧
    (load (files " \n1") (.jsonLines "a")).toOption = some [.int 1] ∧
    load (files "1\n1") (.jsonLines "a") = .ok [.int 1, .int 1] := by
  intro files
  have holds (text : String) (size : text.toUTF8.size ≤ maxBytes) : (files text).Holds "a" text :=
    ⟨rfl, size⟩
  obtain ⟨opened, loaded, -⟩ := load_by_lines (holds "1\n \n[" (by decide))
  have third : (Text.lines "1\n \n[").findIdx? (fun line => held? line = some none) = some 2 := by
    simp only [opened, held?, Text.allBlank_eq_all, Json.ofText?_eq_parse?]
    decide +kernel
  obtain ⟨-, -, restyled, respaced, follows⟩ := load_by_lines (holds "1" (by decide))
  have one : load (files "1") (.jsonLines "a") = .ok [.int 1] := by
    refine (verdict_eq_ok (holds "1" (by decide))).mpr ?_
    simp only [heldIn, held?, Text.allBlank_eq_all, Json.ofText?_eq_parse?]
    decide +kernel
  refine ⟨?_, one, ?_, ?_, ?_⟩
  · rw [loaded, show List.findIdx? malformed _ = _ from third]
  · have ended : Edited Restyled "1" "1\n" := .rel _ _ (.final ['1'])
    rw [restyled (files "1\n") "1\n" (holds _ (by decide)) ended, one]
  · have blank : Respaced "1".toList " \n1".toList :=
      .first [' '] ['1'] (List.forall_mem_singleton.mpr rfl)
    rw [respaced (files " \n1") "a" " \n1" (holds _ (by decide)) (.rel _ _ (.inr blank)), one]
    rfl
  · exact follows (files "1") "a" "1" (files "1\n1") "a" _ _ (holds _ (by decide))
      (holds _ (by decide)) one one

end DataSource

end Muster
