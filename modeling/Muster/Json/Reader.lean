import Muster.Json.Number

/-!
Reading JSON text one character at a time. The reader is an automaton with a stack of the arrays
and objects that are still open, at most 127 of them.
-/

namespace Muster.Json

/-- An array or object that is still open: its items in reverse, or its fields and the key whose
value is due. -/
inductive Frame
  | array (items : List Json)
  | object (fields : List (String × Json)) (key : Option String)

/-- What may come between lexemes. -/
inductive Goal
  /-- a value, or the end of the array just opened -/
  | value (closable : Bool)
  /-- a key, or the end of the object just opened -/
  | key (closable : Bool)
  | colon
  /-- a comma or the end of the innermost frame -/
  | next
deriving DecidableEq

/-- Where the reader stands inside a string. -/
inductive Quote
  | plain
  | escaped
  /-- hexadecimal digits still due, their value so far, and a leading surrogate before them -/
  | hex (due value : Nat) (high : Option Nat)
  /-- a leading surrogate waits for the backslash, then the `u`, of its partner -/
  | pairSlash (high : Nat)
  | pairMark (high : Nat)
deriving DecidableEq

inductive Reader
  | seek (frames : List Frame) (goal : Goal)
  | quoted (frames : List Frame) (isKey : Bool) (read : List Char) (quote : Quote)
  | number (frames : List Frame) (read : List Char)
  | word (frames : List Frame) (due : List Char) (value : Json)
  | done (value : Json)

namespace Reader

def maxDepth : Nat := 127

def isSpace (c : Char) : Bool := c = ' ' || c = '\n' || c = '\t' || c = '\r'

/-- A finished value goes into the innermost frame, or ends the text. -/
def emit (value : Json) : List Frame → Reader
  | [] => .done value
  | .array items :: frames => .seek (.array (value :: items) :: frames) .next
  | .object fields (some key) :: frames =>
    .seek (.object (putField key value fields) none :: frames) .next
  | .object fields none :: frames => .seek (.object fields none :: frames) .next

def open? (frame : Frame) (goal : Goal) (frames : List Frame) : Option Reader :=
  if frames.length < maxDepth then some (.seek (frame :: frames) goal) else none

/-- The first character of a value. -/
def startValue (frames : List Frame) (c : Char) : Option Reader :=
  if c = '[' then open? (.array []) (.value true) frames
  else if c = '{' then open? (.object [] none) (.key true) frames
  else if c = '"' then some (.quoted frames false [] .plain)
  else if c = '-' || c.isDigit then some (.number frames [c])
  else if c = 't' then some (.word frames ['r', 'u', 'e'] (.bool true))
  else if c = 'f' then some (.word frames ['a', 'l', 's', 'e'] (.bool false))
  else if c = 'n' then some (.word frames ['u', 'l', 'l'] .null)
  else none

/-- A character between lexemes that is not a space. -/
def structural (frames : List Frame) : Goal → Char → Option Reader
  | .value closable, c =>
    match frames, c, closable with
    | .array items :: rest, ']', true => some (emit (.array items.reverse) rest)
    | _, _, _ => startValue frames c
  | .key closable, c =>
    match frames, c, closable with
    | _, '"', _ => some (.quoted frames true [] .plain)
    | .object fields _ :: rest, '}', true => some (emit (.object fields) rest)
    | _, _, _ => none
  | .colon, c => if c = ':' then some (.seek frames (.value false)) else none
  | .next, c =>
    match frames, c with
    | .array _ :: _, ',' => some (.seek frames (.value false))
    | .object _ _ :: _, ',' => some (.seek frames (.key false))
    | .array items :: rest, ']' => some (emit (.array items.reverse) rest)
    | .object fields _ :: rest, '}' => some (emit (.object fields) rest)
    | _, _ => none

def between (frames : List Frame) (goal : Goal) (c : Char) : Option Reader :=
  if isSpace c then some (.seek frames goal) else structural frames goal c

/-- The string ends: it is a value, or the key of the innermost object. -/
def closeText (frames : List Frame) (isKey : Bool) (read : List Char) : Option Reader :=
  let text := String.ofList read.reverse
  if isKey then
    match frames with
    | .object fields _ :: rest => some (.seek (.object fields (some text) :: rest) .colon)
    | _ => none
  else some (emit (.string text) frames)

def hexValue? (c : Char) : Option Nat :=
  if c.isDigit then some (c.toNat - '0'.toNat)
  else if 'a' ≤ c ∧ c ≤ 'f' then some (c.toNat - 'a'.toNat + 10)
  else if 'A' ≤ c ∧ c ≤ 'F' then some (c.toNat - 'A'.toNat + 10)
  else none

/-- The characters that a backslash and one letter stand for. -/
def shortEscape? : Char → Option Char
  | '"' => some '"'
  | '\\' => some '\\'
  | '/' => some '/'
  | 'b' => some '\x08'
  | 'f' => some '\x0c'
  | 'n' => some '\n'
  | 'r' => some '\r'
  | 't' => some '\t'
  | _ => none

def isHigh (unit : Nat) : Bool := 0xD800 ≤ unit && unit ≤ 0xDBFF
def isLow (unit : Nat) : Bool := 0xDC00 ≤ unit && unit ≤ 0xDFFF

/-- Four hexadecimal digits are read. Surrogates must come in pairs. -/
def closeHex (frames : List Frame) (isKey : Bool) (read : List Char) (unit : Nat) :
    Option Nat → Option Reader
  | none =>
    if isLow unit then none
    else if isHigh unit then some (.quoted frames isKey read (.pairSlash unit))
    else some (.quoted frames isKey (Char.ofNat unit :: read) .plain)
  | some high =>
    if isLow unit then
      let point := 0x10000 + (high - 0xD800) * 0x400 + (unit - 0xDC00)
      some (.quoted frames isKey (Char.ofNat point :: read) .plain)
    else none

def quotedStep (frames : List Frame) (isKey : Bool) (read : List Char) :
    Quote → Char → Option Reader
  | .plain, c =>
    if c = '"' then closeText frames isKey read
    else if c = '\\' then some (.quoted frames isKey read .escaped)
    else if c.toNat < 0x20 then none
    else some (.quoted frames isKey (c :: read) .plain)
  | .escaped, c =>
    if c = 'u' then some (.quoted frames isKey read (.hex 4 0 none))
    else (shortEscape? c).map fun d => .quoted frames isKey (d :: read) .plain
  | .hex due value high, c => do
    let unit := value * 16 + (← hexValue? c)
    if due ≤ 1 then closeHex frames isKey read unit high
    else some (.quoted frames isKey read (.hex (due - 1) unit high))
  | .pairSlash high, c =>
    if c = '\\' then some (.quoted frames isKey read (.pairMark high)) else none
  | .pairMark high, c =>
    if c = 'u' then some (.quoted frames isKey read (.hex 4 0 (some high))) else none

def isNumberChar (c : Char) : Bool :=
  c.isDigit || c = '-' || c = '+' || c = '.' || c = 'e' || c = 'E'

def closeNumber (frames : List Frame) (read : List Char) : Option Reader :=
  (numberOfChars? read.reverse).map fun value => emit value frames

/-- One character. The character that ends a number is read again after it. -/
def step : Reader → Char → Option Reader
  | .seek frames goal, c => between frames goal c
  | .quoted frames isKey read quote, c => quotedStep frames isKey read quote c
  | .number frames read, c =>
    if isNumberChar c then some (.number frames (c :: read))
    else
      match closeNumber frames read with
      | some (.seek frames goal) => between frames goal c
      | some (.done value) => if isSpace c then some (.done value) else none
      | _ => none
  | .word frames due value, c =>
    match due with
    | [last] => if c = last then some (emit value frames) else none
    | d :: rest => if c = d then some (.word frames rest value) else none
    | [] => none
  | .done value, c => if isSpace c then some (.done value) else none

/-- One character for a reader that may have failed before. -/
def advance (reader : Option Reader) (c : Char) : Option Reader := reader.bind (·.step c)

def start : Reader := .seek [] (.value false)

/-- The value, if the text may end here. -/
def finish : Reader → Option Json
  | .done value => some value
  | .number [] read => numberOfChars? read.reverse
  | _ => none

end Reader

/-- The value that a whole text stands for. -/
def parse? (cs : List Char) : Option Json :=
  (cs.foldl Reader.advance (some Reader.start)).bind Reader.finish

/-- The same, without taking the text apart first. -/
def ofText? (text : String) : Option Json :=
  (text.foldl Reader.advance (some Reader.start)).bind Reader.finish

theorem ofText?_eq_parse? (text : String) : ofText? text = parse? text.toList := by
  rw [ofText?, parse?, String.foldl_eq_foldl_toList]

end Muster.Json
