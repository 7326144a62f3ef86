import Findings.Json.Value

/-!
# Writing JSON

Values are written without spaces. In a text only quotes, backslashes and control characters
are escaped.
-/
namespace Findings.Json

/-- A hexadecimal digit in lower case. -/
def hexChar (n : Nat) : Char := (Nat.toDigits 16 (n % 16)).headD '0'

def escapeChar (c : Char) : List Char :=
  match c with
  | '"' => ['\\', '"']
  | '\\' => ['\\', '\\']
  | '\x08' => ['\\', 'b']
  | '\x0c' => ['\\', 'f']
  | '\n' => ['\\', 'n']
  | '\r' => ['\\', 'r']
  | '\t' => ['\\', 't']
  | c =>
    if c.toNat < 0x20 then ['\\', 'u', '0', '0', hexChar (c.toNat / 16), hexChar c.toNat] else [c]

/-- A quoted text; one without characters is an unpaired surrogate. -/
def writeText : Option String → List Char
  | some s => '"' :: s.toList.flatMap escapeChar ++ ['"']
  | none => ['"', '\\', 'u', 'd', '8', '0', '0', '"']

/-- A number as it was written, with a small letter before its power of ten. -/
def writeNumber (n : Number) : List Char :=
  (if n.negative then ['-'] else []) ++ n.whole ++
    (if n.fraction.isEmpty then [] else '.' :: n.fraction) ++
    match n.power with
    | none => []
    | some power =>
      'e' :: ((if power < 0 then ['-'] else []) ++ Nat.toDigits 10 power.natAbs)

mutual

def writeValue : Value → List Char
  | .null => ['n', 'u', 'l', 'l']
  | .bool true => ['t', 'r', 'u', 'e']
  | .bool false => ['f', 'a', 'l', 's', 'e']
  | .number n => writeNumber n
  | .text s => writeText s
  | .array [] => ['[', ']']
  | .array (item :: items) => '[' :: writeValue item ++ writeItems items
  | .object [] => ['\x7b', '\x7d']
  | .object (field :: fields) =>
    '\x7b' :: writeText field.1 ++ ':' :: writeValue field.2 ++ writeFields fields

/-- The items after the first one and the end of an array. -/
def writeItems : List Value → List Char
  | [] => [']']
  | item :: items => ',' :: writeValue item ++ writeItems items

/-- The fields after the first one and the end of an object. -/
def writeFields : List (Option String × Value) → List Char
  | [] => ['\x7d']
  | field :: fields =>
    ',' :: writeText field.1 ++ ':' :: writeValue field.2 ++ writeFields fields

end

/-- The text of a value without spaces. -/
def write (value : Value) : String := String.ofList (writeValue value)

end Findings.Json
