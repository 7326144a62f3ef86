import Findings.Json.Token

/-!
# Texts of TOML

A text stands in one or three quotes or apostrophes. Between apostrophes every character means
itself; between quotes a backslash begins an escape. Three of them let the text run over lines:
a line end right behind the opening ones is left out, line ends are read as line feeds, and up
to two quotes may stand before the closing ones.
-/
namespace Findings.Toml

/-- Whether a character may stand in a comment or a text of one line as it is. -/
def isPlainChar (c : Char) : Bool :=
  c == '\t' || (0x20 ≤ c.toNat && c.toNat != 0x7F)

def isSpace (c : Char) : Bool := c == ' ' || c == '\t'

def skipSpaces (cs : List Char) : List Char := cs.dropWhile isSpace

/-- The rest of a text behind a line end, if it begins with one. -/
def lineEnd? : List Char → Option (List Char)
  | '\n' :: rest => some rest
  | '\r' :: '\n' :: rest => some rest
  | _ => none

/-- The rest of a text behind spaces, tabs and line ends. -/
def skipLines : List Char → List Char
  | '\r' :: '\n' :: rest => skipLines rest
  | c :: rest => if isSpace c || c == '\n' then skipLines rest else c :: rest
  | [] => []

def hexValue? (digits : List Char) : Option Nat :=
  digits.foldlM (fun n c => (Json.hexDigit? c).map (16 * n + ·)) 0

/-- The character of an escaped code. -/
def charOfCode? (digits : List Char) : Option Char :=
  (hexValue? digits).bind fun n => if n.isValidChar then some (Char.ofNat n) else none

/-- The character of an escape behind its backslash, and the rest. -/
def escape? : List Char → Option (Char × List Char)
  | 'b' :: rest => some ('\x08', rest)
  | 't' :: rest => some ('\t', rest)
  | 'n' :: rest => some ('\n', rest)
  | 'f' :: rest => some ('\x0c', rest)
  | 'r' :: rest => some ('\r', rest)
  | '"' :: rest => some ('"', rest)
  | '\\' :: rest => some ('\\', rest)
  | 'u' :: a :: b :: c :: d :: rest => (charOfCode? [a, b, c, d]).map (·, rest)
  | 'U' :: a :: b :: c :: d :: e :: f :: g :: h :: rest =>
    (charOfCode? [a, b, c, d, e, f, g, h]).map (·, rest)
  | _ => none

def consChar (c : Char) (read : List Char × List Char) : List Char × List Char :=
  (c :: read.1, read.2)

/-- A text in quotes behind the opening quote. At most `fuel` characters are read. -/
def readBasic : Nat → List Char → Option (List Char × List Char)
  | 0, _ => none
  | fuel + 1, cs =>
    match cs with
    | [] => none
    | '"' :: rest => some ([], rest)
    | '\\' :: rest => do
      let (c, rest) ← escape? rest
      return consChar c (← readBasic fuel rest)
    | c :: rest =>
      if isPlainChar c then (readBasic fuel rest).map (consChar c) else none

/-- A text in apostrophes behind the opening one. -/
def readLiteral : List Char → Option (List Char × List Char)
  | [] => none
  | '\'' :: rest => some ([], rest)
  | c :: rest => if isPlainChar c then (readLiteral rest).map (consChar c) else none

/-- The quotes at the front of a text that belong to it when three of them close it. -/
def closing? (quote : Char) (cs : List Char) : Option (List Char × List Char) :=
  let run := (cs.take 5).takeWhile (· == quote)
  if 3 ≤ run.length then some (run.drop 3, cs.drop run.length) else none

/-- The rest behind a backslash that ends its line: the white space up to the next character. -/
def continuation? (cs : List Char) : Option (List Char) :=
  (lineEnd? (skipSpaces cs)).map skipLines

/-- A text over lines in quotes. At most `fuel` characters are read. -/
def readLongBasic : Nat → List Char → Option (List Char × List Char)
  | 0, _ => none
  | fuel + 1, cs =>
    match closing? '"' cs with
    | some closed => some closed
    | none =>
      match cs with
      | [] => none
      | '\\' :: rest =>
        match continuation? rest with
        | some rest => readLongBasic fuel rest
        | none => do
          let (c, rest) ← escape? rest
          return consChar c (← readLongBasic fuel rest)
      | '\r' :: '\n' :: rest => (readLongBasic fuel rest).map (consChar '\n')
      | c :: rest =>
        if isPlainChar c || c == '\n' then (readLongBasic fuel rest).map (consChar c) else none

/-- A text over lines in apostrophes. At most `fuel` characters are read. -/
def readLongLiteral : Nat → List Char → Option (List Char × List Char)
  | 0, _ => none
  | fuel + 1, cs =>
    match closing? '\'' cs with
    | some closed => some closed
    | none =>
      match cs with
      | [] => none
      | '\r' :: '\n' :: rest => (readLongLiteral fuel rest).map (consChar '\n')
      | c :: rest =>
        if isPlainChar c || c == '\n' then (readLongLiteral fuel rest).map (consChar c) else none

/-- A text without the line end that it may begin with. -/
def skipFirstLineEnd (cs : List Char) : List Char := (lineEnd? cs).getD cs

/-- A text of one line at the front of a document. -/
def readShort? : List Char → Option (List Char × List Char)
  | '"' :: rest => readBasic (rest.length + 1) rest
  | '\'' :: rest => readLiteral rest
  | _ => none

/-- A text of any form at the front of a document. -/
def readText? : List Char → Option (List Char × List Char)
  | '"' :: '"' :: '"' :: rest => readLongBasic (rest.length + 1) (skipFirstLineEnd rest)
  | '\'' :: '\'' :: '\'' :: rest => readLongLiteral (rest.length + 1) (skipFirstLineEnd rest)
  | cs => readShort? cs

end Findings.Toml
