import Muster.Json
import Muster.Decimal.Shortest

/-!
Writing JSON text without spaces. Only quotes, backslashes and control characters are escaped.
-/

namespace Muster.Json

def hexDigit (n : Nat) : Char := (Nat.digitChar n)

/-- One character inside a string. -/
def escapeChar (c : Char) : List Char :=
  if c = '"' then ['\\', '"']
  else if c = '\\' then ['\\', '\\']
  else if c = '\x08' then ['\\', 'b']
  else if c = '\x0c' then ['\\', 'f']
  else if c = '\n' then ['\\', 'n']
  else if c = '\r' then ['\\', 'r']
  else if c = '\t' then ['\\', 't']
  else if c.toNat < 0x20 then
    ['\\', 'u', '0', '0', hexDigit (c.toNat / 16), hexDigit (c.toNat % 16)]
  else [c]

def quote (text : String) : List Char := '"' :: (text.toList.flatMap escapeChar ++ ['"'])

/-- Digits with the point set where the magnitude is moderate, else with an exponent. -/
def layout (s : Decimal.Scientific) : List Char :=
  let digits := Nat.toDigits 10 s.digits
  let point : Int := Int.ofNat digits.length + s.exponent
  if 0 ≤ s.exponent ∧ point ≤ 16 then
    digits ++ List.replicate s.exponent.toNat '0' ++ ['.', '0']
  else if 0 < point ∧ point ≤ 16 then
    digits.take point.toNat ++ '.' :: digits.drop point.toNat
  else if -5 < point ∧ point ≤ 0 then
    ['0', '.'] ++ List.replicate (-point).toNat '0' ++ digits
  else
    let mantissa :=
      match digits with
      | [d] => [d]
      | d :: rest => d :: '.' :: rest
      | [] => []
    mantissa ++ 'e' :: (toString (point - 1)).toList

/-- A double that is not finite has no number and is written as null. -/
def floatChars (x : Float) : List Char :=
  match Decimal.read x with
  | .finite b =>
    let text := if b.mantissa = 0 then ['0', '.', '0'] else layout b.shortest
    if b.negative then '-' :: text else text
  | _ => "null".toList

mutual

def render : Json → List Char
  | .null => "null".toList
  | .bool true => "true".toList
  | .bool false => "false".toList
  | .int n => (toString n).toList
  | .float x => floatChars x
  | .string s => quote s
  | .array items => '[' :: (renderItems items ++ [']'])
  | .object fields => '{' :: (renderFields fields ++ ['}'])

def renderItems : List Json → List Char
  | [] => []
  | [item] => render item
  | item :: rest => render item ++ ',' :: renderItems rest

def renderFields : List (String × Json) → List Char
  | [] => []
  | [(key, value)] => quote key ++ ':' :: render value
  | (key, value) :: rest => quote key ++ ':' :: (render value ++ ',' :: renderFields rest)

end

/-- One UTF-16 unit as an escape. -/
def unitEscape (unit : Nat) : List Char :=
  ['\\', 'u', hexDigit (unit / 4096 % 16), hexDigit (unit / 256 % 16), hexDigit (unit / 16 % 16),
    hexDigit (unit % 16)]

/-- JSON text in ASCII alone: any other character is escaped, as one unit or as a pair. -/
def asciiOnly (cs : List Char) : List Char :=
  cs.flatMap fun c =>
    let point := c.toNat
    if point < 0x80 then [c]
    else if point < 0x10000 then unitEscape point
    else
      unitEscape (0xD800 + (point - 0x10000) / 0x400)
        ++ unitEscape (0xDC00 + (point - 0x10000) % 0x400)

end Muster.Json
