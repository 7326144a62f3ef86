import Findings.Number.Shortest
import Findings.Toml.Value

/-!
# Writing TOML

A text is written in the plainest of its forms: in quotes if nothing has to be escaped, else in
apostrophes, else over lines in three quotes or three apostrophes, and with escapes where no
form can do without them. A float has the fewest digits that read back and always a point.
-/
namespace Findings.Toml

open Findings.Number

/-- Whether a character can only be written as an escape. -/
def needsEscape (c : Char) : Bool :=
  (c.toNat < 0x20 && c != '\t' && c != '\n') || c.toNat == 0x7F

/-- The longest run of a character in a text. -/
def longestRun (wanted : Char) (cs : List Char) : Nat :=
  (cs.foldl
    (fun (run, longest) c =>
      if c = wanted then (run + 1, max longest (run + 1)) else (0, longest)) (0, 0)).2

/-- The form in which a text is written. -/
inductive TextForm where
  /-- In quotes. -/
  | basic
  /-- In apostrophes. -/
  | literal
  /-- In three quotes. -/
  | longBasic
  /-- In three apostrophes. -/
  | longLiteral
  deriving DecidableEq, Repr

def textForm (cs : List Char) : TextForm :=
  let escapes := cs.any needsEscape
  let lines := cs.contains '\n'
  let backslashes := cs.contains '\\'
  if !escapes && !backslashes && !cs.contains '"' && !lines then .basic
  else if !escapes && !cs.contains '\'' && !lines then .literal
  else if !escapes && !backslashes && longestRun '"' cs ≤ 2 then .longBasic
  else if !escapes && longestRun '\'' cs ≤ 2 then .longLiteral
  else if lines then .longBasic
  else .basic

/-- A hexadecimal digit in upper case. -/
def upperHex (n : Nat) : Char := ((Nat.toDigits 16 (n % 16)).headD '0').toUpper

/-- A character between quotes; a quote and a line feed are not special here. -/
def escapeChar (c : Char) : List Char :=
  match c with
  | '\\' => ['\\', '\\']
  | '\x08' => ['\\', 'b']
  | '\t' => ['\\', 't']
  | '\x0c' => ['\\', 'f']
  | '\r' => ['\\', 'r']
  | c =>
    if needsEscape c then ['\\', 'u', '0', '0', upperHex (c.toNat / 16), upperHex c.toNat]
    else [c]

def basicChars (cs : List Char) : List Char :=
  cs.flatMap fun c =>
    if c = '"' then ['\\', '"'] else if c = '\n' then ['\\', 'n'] else escapeChar c

/-- The characters of a text between three quotes: of a run of quotes each third is escaped. -/
def longBasicChars : Nat → List Char → List Char
  | _, [] => []
  | run, c :: rest =>
    if c = '"' then
      if run = 2 then '\\' :: '"' :: longBasicChars 0 rest
      else '"' :: longBasicChars (run + 1) rest
    else escapeChar c ++ longBasicChars 0 rest

/-- A text between its delimiters. A text with a line feed begins on a line of its own. -/
def writeText (s : String) : List Char :=
  let cs := s.toList
  let first := if cs.contains '\n' then ['\n'] else []
  match textForm cs with
  | .basic => '"' :: basicChars cs ++ ['"']
  | .literal => '\'' :: cs ++ ['\'']
  | .longBasic => ['"', '"', '"'] ++ first ++ longBasicChars 0 cs ++ ['"', '"', '"']
  | .longLiteral => ['\'', '\'', '\''] ++ first ++ cs ++ ['\'', '\'', '\'']

def writeFloat (x : Double) : List Char :=
  if x.isNaN then ['n', 'a', 'n']
  else
    let text := x.plainText.toList
    if x.isInfinite || text.contains '.' then text else text ++ ['.', '0']

def writeNatural (n : Nat) : List Char := Nat.toDigits 10 n

end Findings.Toml
