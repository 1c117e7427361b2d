/-!
The tokens of a TOML text. Strings are read here, with their escapes; a comment leaves no token, and
a character that may not stand where it does fails the text.
-/

namespace Muster.Toml

inductive Token
  | dot
  | equals
  | comma
  | openBracket
  | closeBracket
  | openBrace
  | closeBrace
  /-- spaces and tabs, and whether they are one space -/
  | blank (oneSpace : Bool)
  | newline
  /-- a string on one line -/
  | text (content : String)
  /-- a string in triple quotes -/
  | block (content : String)
  /-- an unquoted run -/
  | word (content : String)
deriving DecidableEq

/-- Where the scanner stands in the content of a string. -/
inductive Inside
  | content
  /-- right after triple quotes: a line break here does not count -/
  | fresh
  | freshReturn
  | escape
  /-- hexadecimal digits still due, and their value so far -/
  | hex (due value : Nat)
  /-- after a backslash at the end of a line: white space is skipped -/
  | fold (broken : Bool)
  | foldReturn
  | carriageReturn
  /-- quotes that may close a block -/
  | quotes (count : Nat)
deriving DecidableEq

inductive Mode
  | plain
  | blank (oneSpace : Bool)
  | word (read : List Char)
  | comment
  | carriageReturn
  /-- one or two quotes at the start of a string -/
  | opening (quote : Char) (two : Bool)
  | string (quote : Char) (block : Bool) (read : List Char) (inside : Inside)
deriving DecidableEq

/-- The tokens so far, in reverse, and what is being read. -/
structure Scanner where
  tokens : List Token := []
  mode : Mode := .plain
deriving DecidableEq

namespace Scanner

/-- Characters that end an unquoted run. -/
def isDelimiter (c : Char) : Bool :=
  ['.', '=', ',', '[', ']', '\x7b', '\x7d', ' ', '\t', '#', '\r', '\n'].contains c

/-- Characters that may stand in comments and strings: no control but the tab. -/
def isPrintable (c : Char) : Bool := c = '\t' || (' ' ≤ c && c ≠ '\x7f')

def emit (s : Scanner) (token : Token) : Scanner := ⟨token :: s.tokens, .plain⟩

def between (s : Scanner) (c : Char) : Scanner :=
  match c with
  | '.' => s.emit .dot
  | '=' => s.emit .equals
  | ',' => s.emit .comma
  | '[' => s.emit .openBracket
  | ']' => s.emit .closeBracket
  | '\x7b' => s.emit .openBrace
  | '\x7d' => s.emit .closeBrace
  | '\n' => s.emit .newline
  | ' ' => { s with mode := .blank true }
  | '\t' => { s with mode := .blank false }
  | '#' => { s with mode := .comment }
  | '\r' => { s with mode := .carriageReturn }
  | '"' => { s with mode := .opening '"' false }
  | '\x27' => { s with mode := .opening '\x27' false }
  | _ => { s with mode := .word [c] }

def closeWord (s : Scanner) (read : List Char) : Scanner :=
  s.emit (.word (String.ofList read.reverse))

def closeString (s : Scanner) (block : Bool) (read : List Char) : Scanner :=
  let content := String.ofList read.reverse
  s.emit (if block then .block content else .text content)

def hexValue? (c : Char) : Option Nat :=
  if '0' ≤ c ∧ c ≤ '9' then some (c.toNat - '0'.toNat)
  else if 'a' ≤ c ∧ c ≤ 'f' then some (c.toNat - 'a'.toNat + 10)
  else if 'A' ≤ c ∧ c ≤ 'F' then some (c.toNat - 'A'.toNat + 10)
  else none

/-- What a backslash and one letter stand for. -/
def shortEscape? : Char → Option Char
  | 'b' => some '\x08'
  | 'e' => some '\x1b'
  | 'f' => some '\x0c'
  | 'n' => some '\n'
  | 'r' => some '\r'
  | 't' => some '\t'
  | '"' => some '"'
  | '\\' => some '\\'
  | _ => none

/-- How many hexadecimal digits follow the letter of an escape. -/
def hexLength? : Char → Option Nat
  | 'x' => some 2
  | 'u' => some 4
  | 'U' => some 8
  | _ => none

def contentStep (quote : Char) (block : Bool) (read : List Char) (c : Char) :
    Option (List Char × Inside) :=
  if c = quote then some (read, .quotes 1)
  else if c = '\\' && quote = '"' then some (read, .escape)
  else if block && c = '\n' then some (c :: read, .content)
  else if block && c = '\r' then some (read, .carriageReturn)
  else if isPrintable c then some (c :: read, .content)
  else none

def escapeStep (block : Bool) (read : List Char) (c : Char) : Option (List Char × Inside) :=
  match hexLength? c, shortEscape? c with
  | some due, _ => some (read, .hex due 0)
  | none, some value => some (value :: read, .content)
  | none, none =>
    if !block then none
    else if c = ' ' || c = '\t' then some (read, .fold false)
    else if c = '\n' then some (read, .fold true)
    else if c = '\r' then some (read, .foldReturn)
    else none

/-- A digit of an escape; the last one must complete a character. -/
def hexStep (read : List Char) (due value : Nat) (c : Char) : Option (List Char × Inside) := do
  let value := value * 16 + (← hexValue? c)
  if 1 < due then return (read, .hex (due - 1) value)
  else if value.isValidChar then return (Char.ofNat value :: read, .content)
  else none

/-- One character inside a string that does not end there. -/
def insideStep (quote : Char) (block : Bool) (read : List Char) :
    Inside → Char → Option (List Char × Inside)
  | .content, c => contentStep quote block read c
  | .fresh, c =>
    if c = '\n' then some (read, .content)
    else if c = '\r' then some (read, .freshReturn)
    else contentStep quote block read c
  | .freshReturn, c => if c = '\n' then some (read, .content) else none
  | .escape, c => escapeStep block read c
  | .hex due value, c => hexStep read due value c
  | .fold broken, c =>
    if c = ' ' || c = '\t' then some (read, .fold broken)
    else if c = '\n' then some (read, .fold true)
    else if c = '\r' then some (read, .foldReturn)
    else if broken then contentStep quote block read c
    else none
  | .foldReturn, c => if c = '\n' then some (read, .fold true) else none
  | .carriageReturn, c => if c = '\n' then some ('\n' :: '\r' :: read, .content) else none
  | .quotes count, c =>
    if c = quote then some (read, .quotes (count + 1))
    else contentStep quote block (List.replicate count quote ++ read) c

/-- The content of a block that ends with this many quotes, three of which close it. -/
def closed (quote : Char) (read : List Char) (count : Nat) : List Char :=
  List.replicate (count - 3) quote ++ read

/-- One character that may still belong to a string; on one line a quote ends it. -/
def carryOn (s : Scanner) (quote : Char) (block : Bool) (read : List Char) (inside : Inside)
    (c : Char) : Option Scanner :=
  (insideStep quote block read inside c).map fun (read, inside) =>
    if !block && inside = .quotes 1 then s.closeString false read
    else { s with mode := .string quote block read inside }

/-- A string ends at its quote, a block with the third quote in a row and takes in two more. -/
def stringStep (s : Scanner) (quote : Char) (block : Bool) (read : List Char) (inside : Inside)
    (c : Char) : Option Scanner :=
  match inside with
  | .quotes count =>
    if 3 ≤ count && c ≠ quote then some ((s.closeString true (closed quote read count)).between c)
    else if count = 4 then some (s.closeString true (closed quote read 5))
    else s.carryOn quote block read (.quotes count) c
  | inside => s.carryOn quote block read inside c

def step (s : Scanner) (c : Char) : Option Scanner :=
  match s.mode with
  | .plain => some (s.between c)
  | .blank oneSpace =>
    if c = ' ' || c = '\t' then some { s with mode := .blank false }
    else some ((s.emit (.blank oneSpace)).between c)
  | .word read =>
    if isDelimiter c then some ((s.closeWord read).between c)
    else some { s with mode := .word (c :: read) }
  | .comment =>
    if c = '\n' || c = '\r' then some (s.between c) else if isPrintable c then some s else none
  | .carriageReturn => if c = '\n' then some (s.emit .newline) else none
  | .opening quote false =>
    if c = quote then some { s with mode := .opening quote true }
    else s.stringStep quote false [] .content c
  | .opening quote true =>
    if c = quote then some { s with mode := .string quote true [] .fresh }
    else some ((s.closeString false []).between c)
  | .string quote block read inside => s.stringStep quote block read inside c

def advance (s : Option Scanner) (c : Char) : Option Scanner := s.bind (·.step c)

def finish (s : Scanner) : Option (List Token) :=
  match s.mode with
  | .plain => some s.tokens.reverse
  | .comment => some s.tokens.reverse
  | .blank oneSpace => some (s.emit (.blank oneSpace)).tokens.reverse
  | .word read => some (s.closeWord read).tokens.reverse
  | .opening _ true => some (s.closeString false []).tokens.reverse
  | .string quote true read (.quotes count) =>
    if 3 ≤ count then some (s.closeString true (closed quote read count)).tokens.reverse else none
  | _ => none

end Scanner

/-- The tokens of a text. A byte order mark at its start does not count. -/
def tokens? (text : String) : Option (List Token) :=
  let cs := text.toList
  let cs := if cs.head? = some '\ufeff' then cs.tail else cs
  (cs.foldl Scanner.advance (some {})).bind Scanner.finish

end Muster.Toml
