import Findings.Time.Calendar
import Findings.Toml.Text
import Findings.Toml.Value
import Findings.Number.Decimal

/-!
# Numbers, dates and times of TOML

Digits may be grouped by single underscores between them. Whole numbers are signed 64-bit words;
those in hexadecimal, octal or binary digits have no sign. A float has a point or a power of ten,
or is a name; one above all doubles is refused. Dates and times are checked against the calendar.
-/
namespace Findings.Toml

open Findings.Number

/-- Digits of a kind at the front of a text, with underscores between them left out. -/
def readGrouped (isDigit : Char → Bool) : List Char → List Char × List Char
  | [] => ([], [])
  | '_' :: c :: rest =>
    if isDigit c then
      let (digits, rest) := readGrouped isDigit rest
      (c :: digits, rest)
    else ([], '_' :: c :: rest)
  | c :: rest =>
    if isDigit c then
      let (digits, rest) := readGrouped isDigit rest
      (c :: digits, rest)
    else ([], c :: rest)

/-- One or more digits of a kind. -/
def grouped? (isDigit : Char → Bool) : List Char → Option (List Char × List Char)
  | [] => none
  | c :: rest => if isDigit c then some (readGrouped isDigit (c :: rest)) else none

/-- A sign at the front of a text: whether it is a minus, whether there is one, and the rest. -/
def readSign : List Char → Bool × Bool × List Char
  | '-' :: rest => (true, true, rest)
  | '+' :: rest => (false, true, rest)
  | rest => (false, false, rest)

/-- Decimal digits that do not begin with a zero, unless there is no other. -/
def wholeDigits? : List Char → Option (List Char × List Char)
  | '0' :: rest => some (['0'], rest)
  | cs => grouped? Char.isDigit cs

/-- The value of digits in a base, at most the largest signed word. -/
def based? (base : Nat) (digits : List Char) : Option Value := do
  let n ← digits.foldlM (fun n c => (Json.hexDigit? c).map (base * n + ·)) 0
  (signedWord? false n).map .integer

/-- A whole number in another base. -/
def prefixed? : List Char → Option (Value × List Char)
  | '0' :: 'x' :: rest => do
    let (digits, rest) ← grouped? (fun c => (Json.hexDigit? c).isSome) rest
    return (← based? 16 digits, rest)
  | '0' :: 'o' :: rest => do
    let (digits, rest) ← grouped? (fun c => '0' ≤ c && c ≤ '7') rest
    return (← based? 8 digits, rest)
  | '0' :: 'b' :: rest => do
    let (digits, rest) ← grouped? (fun c => c == '0' || c == '1') rest
    return (← based? 2 digits, rest)
  | _ => none

def signed? (negative : Bool) (digits : List Char) : Option Value :=
  (signedWord? negative (digitsValue digits)).map .integer

/-- The digits behind a point, if there is one. -/
def fractionDigits? : List Char → Option (Option (List Char) × List Char)
  | '.' :: rest => (grouped? Char.isDigit rest).map fun (digits, rest) => (some digits, rest)
  | cs => some (none, cs)

/-- The power of ten behind digits, if there is one. -/
def exponent? : List Char → Option (Option Int × List Char)
  | [] => some (none, [])
  | c :: rest =>
    if c == 'e' || c == 'E' then do
      let (negative, _, rest) := readSign rest
      let (digits, rest) ← grouped? Char.isDigit rest
      let n : Int := digitsValue digits
      return (some (if negative then -n else n), rest)
    else some (none, c :: rest)

/-- A float by its parts. One above all doubles is refused. -/
def float? (negative : Bool) (whole fraction : List Char) (exponent : Int) : Option Value :=
  let x : Double :=
    Binary.ofDecimal negative (digitsValue (whole ++ fraction)) (exponent - fraction.length)
  if x.isInfinite && !negative then none else some (.float x)

def decimal? (cs : List Char) : Option (Value × List Char) := do
  let (negative, _, cs) := readSign cs
  let (whole, cs) ← wholeDigits? cs
  let (fraction, cs) ← fractionDigits? cs
  let (exponent, cs) ← exponent? cs
  match fraction, exponent with
  | none, none => return (← signed? negative whole, cs)
  | _, _ => return (← float? negative whole (fraction.getD []) (exponent.getD 0), cs)

/-- An infinity or what is not a number. -/
def named? (cs : List Char) : Option (Value × List Char) :=
  let (negative, _, cs) := readSign cs
  match cs with
  | 'i' :: 'n' :: 'f' :: rest => some (.float (Binary.infinity negative), rest)
  | 'n' :: 'a' :: 'n' :: rest => some (.float (Binary.nan negative), rest)
  | _ => none

/-- A number of exactly `count` digits, at most `most`. -/
def fixed? (count most : Nat) (cs : List Char) : Option (Nat × List Char) :=
  let digits := cs.take count
  if digits.length = count && digits.all Char.isDigit && digitsValue digits ≤ most then
    some (digitsValue digits, cs.drop count)
  else none

/-- The rest of a text behind one character. -/
def skipChar? (expected : Char) : List Char → Option (List Char)
  | c :: rest => if c = expected then some rest else none
  | [] => none

def date? (cs : List Char) : Option (List Char) := do
  let (year, cs) ← fixed? 4 9999 cs
  let cs ← skipChar? '-' cs
  let (month, cs) ← fixed? 2 12 cs
  let cs ← skipChar? '-' cs
  let (day, cs) ← fixed? 2 31 cs
  if (Time.Date.mk year month day).isValid then some cs else none

/-- The rest of a text behind the fraction of a second, if there is one. -/
def fractionRest? : List Char → Option (List Char)
  | '.' :: c :: rest => if c.isDigit then some (rest.dropWhile Char.isDigit) else none
  | '.' :: [] => none
  | cs => some cs

def time? (cs : List Char) : Option (List Char) := do
  let (_, cs) ← fixed? 2 23 cs
  let cs ← skipChar? ':' cs
  let (_, cs) ← fixed? 2 59 cs
  let cs ← skipChar? ':' cs
  let (_, cs) ← fixed? 2 60 cs
  fractionRest? cs

/-- The rest of a text behind a zone, if there is one. -/
def zoneRest (cs : List Char) : List Char :=
  match cs with
  | c :: rest =>
    if c == 'Z' || c == 'z' then rest
    else if c == '+' || c == '-' then
      (do
        let (_, cs) ← fixed? 2 23 rest
        let cs ← skipChar? ':' cs
        let (_, cs) ← fixed? 2 59 cs
        return cs : Option (List Char)).getD cs
    else cs
  | [] => []

/-- The rest of a text behind a time and a zone that follow a date, if there are any. -/
def timeRest (cs : List Char) : List Char :=
  match cs with
  | c :: rest =>
    if c == 'T' || c == 't' || c == ' ' then ((time? rest).map zoneRest).getD cs else cs
  | [] => []

/-- A date, a time, or both. -/
def moment? (cs : List Char) : Option (Value × List Char) :=
  match date? cs with
  | some rest => some (.moment, timeRest rest)
  | none => (time? cs).map (.moment, ·)

/-- A number, date or time at the front of a document. -/
def number? (cs : List Char) : Option (Value × List Char) :=
  match moment? cs with
  | some read => some read
  | none =>
    match named? cs with
    | some read => some read
    | none =>
      match prefixed? cs with
      | some read => some read
      | none => decimal? cs

end Findings.Toml
