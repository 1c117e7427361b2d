import Muster.Toml.Scalar
import Muster.Toml.Token
import Muster.Toml.Tree

/-!
The statements of a TOML document: headers and assignments, a line each unless a value spans lines.
The reader is an automaton over tokens with a stack of the arrays and inline tables that are open.
-/

namespace Muster.Toml

inductive Statement
  /-- a header in brackets -/
  | table (path : List String)
  /-- a header in double brackets -/
  | element (path : List String)
  | assign (path : List String) (value : Json)
deriving DecidableEq

/-- What is open around a value: the items of an array in reverse, or the entries of an inline
table and the key whose value is due. -/
inductive Frame
  | array (items : List Json)
  | inlineTable (entries : Children) (path : List String)

/-- What a key is for. -/
inductive Use
  | table
  | element
  | value
deriving DecidableEq

inductive Goal
  | lineStart
  /-- nothing but a comment until the line ends -/
  | lineEnd
  /-- a bracket at the start of a line -/
  | bracket
  /-- the parts of a key in reverse; either a part is due, or a dot or the end of the key -/
  | key (use : Use) (parts : List String) (due : Bool)
  /-- the equals sign after a key of an inline table, which may stand on a later line -/
  | equals (path : List String)
  /-- one of two closing brackets -/
  | closing (path : List String)
  | value
  /-- an unquoted value; it may be a date and one space, which a time may follow -/
  | bare (read : String) (spaced : Bool)
  /-- an item of an array, or its end -/
  | item
  | afterItem
  /-- an entry of an inline table, or its end -/
  | entry
  | afterEntry
deriving DecidableEq

/-- The statements so far in reverse, the key on the left of the current one, and the position. -/
structure Reader where
  statements : List Statement := []
  assigned : List String := []
  frames : List Frame := []
  goal : Goal := .lineStart

namespace Reader

/-- Arrays and inline tables nest no deeper. -/
def maxDepth : Nat := 80

/-- A key has no more parts. -/
def maxKeyParts : Nat := 80

def isBareKeyChar (c : Char) : Bool := c.isAlphanum || c = '_' || c = '-'

/-- The part of a key that a token stands for. -/
def keyPart? : Token → Option String
  | .word content => if content.toList.all isBareKeyChar then some content else none
  | .text content => some content
  | _ => none

def give (r : Reader) (value : Json) : Option Reader :=
  match r.frames with
  | [] =>
    some { r with statements := .assign r.assigned value :: r.statements, goal := .lineEnd }
  | .array items :: rest =>
    some { r with frames := .array (value :: items) :: rest, goal := .afterItem }
  | .inlineTable entries path :: rest =>
    (entries.assign value path).map fun entries =>
      { r with frames := .inlineTable entries [] :: rest, goal := .afterEntry }

def openFrame (r : Reader) (frame : Frame) (goal : Goal) : Option Reader :=
  if r.frames.length < maxDepth then some { r with frames := frame :: r.frames, goal } else none

def closeArray (r : Reader) : Option Reader :=
  match r.frames with
  | .array items :: rest => { r with frames := rest }.give (.array items.reverse)
  | _ => none

def closeTable (r : Reader) : Option Reader :=
  match r.frames with
  | .inlineTable entries _ :: rest => { r with frames := rest }.give entries.toJson
  | _ => none

def expectValue (r : Reader) (path : List String) : Reader :=
  match r.frames with
  | .inlineTable entries _ :: rest =>
    { r with frames := .inlineTable entries path :: rest, goal := .value }
  | _ => { r with assigned := path, goal := .value }

/-- A token that ends a key. Only in an inline table may that be the end of a line. -/
def endKey (r : Reader) (use : Use) (path : List String) (token : Token) : Option Reader :=
  match use, token with
  | .table, .closeBracket =>
    some { r with statements := .table path :: r.statements, goal := .lineEnd }
  | .element, .closeBracket => some { r with goal := .closing path }
  | .value, .equals => some (r.expectValue path)
  | .value, .newline => if r.frames.isEmpty then none else some { r with goal := .equals path }
  | _, _ => none

def keyStep (r : Reader) (use : Use) (parts : List String) (due : Bool) (token : Token) :
    Option Reader :=
  match token, due with
  | .blank _, _ => some r
  | token, true =>
    if parts.length < maxKeyParts then
      (keyPart? token).map fun part => { r with goal := .key use (part :: parts) false }
    else none
  | .dot, false => some { r with goal := .key use parts true }
  | token, false => r.endKey use parts.reverse token

/-- The first token of a value. Only in an inline table may lines end before it. -/
def valueStep (r : Reader) (token : Token) : Option Reader :=
  match token with
  | .blank _ => some r
  | .newline => if r.frames.isEmpty then none else some r
  | .text content => r.give (.string content)
  | .block content => r.give (.string content)
  | .word content => some { r with goal := .bare content false }
  | .openBracket => r.openFrame (.array []) .item
  | .openBrace => r.openFrame (.inlineTable [] []) .entry
  | _ => none

def settledStep (r : Reader) (token : Token) : Option Reader :=
  match r.goal, token with
  | .lineStart, .blank _ => some r
  | .lineStart, .newline => some r
  | .lineStart, .openBracket => some { r with goal := .bracket }
  | .lineStart, token => r.keyStep .value [] true token
  | .lineEnd, .blank _ => some r
  | .lineEnd, .newline => some { r with goal := .lineStart }
  | .bracket, .openBracket => some { r with goal := .key .element [] true }
  | .bracket, .blank _ => some { r with goal := .key .table [] true }
  | .bracket, token => r.keyStep .table [] true token
  | .key use parts due, token => r.keyStep use parts due token
  | .equals _, .blank _ => some r
  | .equals _, .newline => some r
  | .equals path, .equals => some (r.expectValue path)
  | .closing path, .closeBracket =>
    some { r with statements := .element path :: r.statements, goal := .lineEnd }
  | .value, token => r.valueStep token
  | .item, .blank _ => some r
  | .item, .newline => some r
  | .item, .closeBracket => r.closeArray
  | .item, token => { r with goal := .value }.valueStep token
  | .afterItem, .blank _ => some r
  | .afterItem, .newline => some r
  | .afterItem, .comma => some { r with goal := .item }
  | .afterItem, .closeBracket => r.closeArray
  | .entry, .blank _ => some r
  | .entry, .newline => some r
  | .entry, .closeBrace => r.closeTable
  | .entry, token => r.keyStep .value [] true token
  | .afterEntry, .blank _ => some r
  | .afterEntry, .newline => some r
  | .afterEntry, .comma => some { r with goal := .entry }
  | .afterEntry, .closeBrace => r.closeTable
  | _, _ => none

/-- A token after an unquoted value, which it may carry on or end. -/
def bareStep (r : Reader) (read : String) (spaced : Bool) (token : Token) : Option Reader :=
  match token, spaced with
  | .word content, false => some { r with goal := .bare (read ++ content) false }
  | .dot, false => some { r with goal := .bare (read ++ ".") false }
  | .blank oneSpace, false =>
    if oneSpace && Moment.isDate read.toList then some { r with goal := .bare read true }
    else (Scalar.read? read).bind r.give
  | .word content, true =>
    if (content.toList.head?.map Char.isDigit).getD false then
      some { r with goal := .bare (read ++ " " ++ content) false }
    else none
  | token, _ => do (← (Scalar.read? read).bind r.give).settledStep token

def step (r : Reader) (token : Token) : Option Reader :=
  match r.goal with
  | .bare read spaced => r.bareStep read spaced token
  | _ => r.settledStep token

def finish (r : Reader) : Option (List Statement) := do
  let last ← r.step .newline
  guard (last.goal = .lineStart)
  return last.statements.reverse

end Reader

def statements? (tokens : List Token) : Option (List Statement) :=
  (tokens.foldlM Reader.step {}).bind Reader.finish

end Muster.Toml
