import Findings.Text.Character
import Findings.Time.Timestamp

/-!
# Reading timestamps

Two forms are read. A document has a date, a time and a zone, with white space tolerated around
most of the parts. A table column has less of that tolerance, but its zone may be short or
missing, and then it is universal time.
-/
namespace Findings.Time

open Findings.Text

/-- The rest of a text behind white space. -/
def skipBlank (cs : List Char) : List Char := cs.dropWhile isBlank

/-- One to `most` digits and the rest. -/
def digits? (most : Nat) (cs : List Char) : Option (Nat × List Char) :=
  let digits := (cs.take most).takeWhile Char.isDigit
  if digits.isEmpty then none
  else
    some (digits.foldl (fun n c => 10 * n + (c.toNat - '0'.toNat)) 0, cs.drop digits.length)

/-- A number of one or two digits behind white space. -/
def pair? (cs : List Char) : Option (Nat × List Char) := digits? 2 (skipBlank cs)

/-- A year behind white space: up to four digits, or a sign and any digits. -/
def year? (cs : List Char) : Option (Int × List Char) :=
  match skipBlank cs with
  | '-' :: rest => (digits? rest.length rest).map fun (n, rest) => (-(n : Int), rest)
  | '+' :: rest => (digits? rest.length rest).map fun (n, rest) => ((n : Int), rest)
  | rest => (digits? 4 rest).map fun (n, rest) => ((n : Int), rest)

/-- The rest of a text behind one character. -/
def expect? (expected : Char) : List Char → Option (List Char)
  | c :: rest => if c = expected then some rest else none
  | [] => none

/-- A fraction of a second in nanoseconds, with digits past the ninth passed over. -/
def fraction? : List Char → Option (Nat × List Char)
  | '.' :: rest =>
    (digits? 9 rest).map fun (n, after) =>
      (n * Nat.pow 10 (9 - (rest.length - after.length)), after.dropWhile Char.isDigit)
  | rest => some (0, rest)

/-- A date whose parts may be separated by what `gap` passes over and a hyphen. -/
def date? (gap : List Char → List Char) (cs : List Char) : Option (Date × List Char) := do
  let (year, cs) ← year? cs
  let cs ← expect? '-' (gap cs)
  let (month, cs) ← pair? cs
  let cs ← expect? '-' (gap cs)
  let (day, cs) ← pair? cs
  return (⟨year, month, day⟩, cs)

/-- A time of day whose parts may be separated by what `gap` passes over and a colon. -/
def clock? (gap : List Char → List Char) (date : Date) (cs : List Char) :
    Option (ClockReading × List Char) := do
  let (hour, cs) ← pair? cs
  let cs ← expect? ':' (gap cs)
  let (minute, cs) ← pair? cs
  let cs ← expect? ':' (gap cs)
  let (second, cs) ← pair? cs
  let (nanos, cs) ← fraction? cs
  return (⟨date, hour, minute, second, nanos⟩, cs)

/-- The value of exactly two digits. -/
def twoDigits? : List Char → Option (Nat × List Char)
  | a :: b :: rest =>
    if a.isDigit && b.isDigit then
      some ((a.toNat - '0'.toNat) * 10 + (b.toNat - '0'.toNat), rest)
    else none
  | _ => none

/-- The minutes of a zone. If they may be missing, nothing may follow then. -/
def zoneMinutes? (mayMiss : Bool) : List Char → Option (Nat × List Char)
  | [] => if mayMiss then some (0, []) else none
  | cs => (twoDigits? cs).filter (·.1 ≤ 59)

/-- A signed zone behind its sign, in seconds: hours, any colons and white space, minutes. -/
def signedZone? (mayMiss negative : Bool) (cs : List Char) : Option (Int × List Char) := do
  let (hours, cs) ← twoDigits? cs
  let (minutes, cs) ← zoneMinutes? mayMiss (cs.dropWhile fun c => c == ':' || isBlank c)
  let seconds : Int := hours * 3600 + minutes * 60
  if seconds < 86400 then return (if negative then -seconds else seconds, cs) else none

/-- A zone in seconds ahead of universal time. -/
def zone? (mayMiss : Bool) : List Char → Option (Int × List Char)
  | c :: rest =>
    if c = 'Z' || c = 'z' then some (0, rest)
    else if c = '+' then signedZone? mayMiss false rest
    else if c = '-' || c = '\u2212' then signedZone? mayMiss true rest
    else none
  | [] => none

/-- A zone of a document, which may also be named. -/
def namedZone? : List Char → Option (Int × List Char)
  | u :: t :: c :: rest =>
    if u.toLower = 'u' && t.toLower = 't' && c.toLower = 'c' then some (0, rest)
    else zone? false (u :: t :: c :: rest)
  | cs => zone? false cs

/-- The separator of date and time in a document. -/
def separator? : List Char → Option (List Char)
  | c :: rest => if c = 'T' || c = 't' || c = ' ' then some rest else none
  | [] => none

def Timestamp.read? (s : String) : Option Timestamp := do
  let (date, cs) ← date? skipBlank s.toList
  let cs ← separator? cs
  let (reading, cs) ← clock? skipBlank date cs
  let (offset, cs) ← namedZone? (skipBlank cs)
  if cs.all isBlank then reading.timestamp? offset else none

/-- The separator of date and time in a column: a `T` if the eleventh byte is one, else white
space or nothing. -/
def columnSeparator? (hasT : Bool) (cs : List Char) : Option (List Char) :=
  if hasT then expect? 'T' cs else some (skipBlank cs)

/-- The clock reading at the front of a column text. -/
def columnReading? (s : String) : Option (ClockReading × List Char) := do
  let hasT := s.toUTF8[10]? == some 'T'.toUInt8
  let (date, cs) ← date? id s.toList
  let cs ← columnSeparator? hasT cs
  clock? id date cs

/-- The timestamp of a column text with a zone. -/
def zonedColumn? (s : String) : Option Timestamp := do
  let (reading, cs) ← columnReading? s
  let (offset, cs) ← zone? true (skipBlank cs)
  if cs.isEmpty then reading.timestamp? offset else none

/-- The timestamp of a column text without a zone. -/
def universalColumn? (s : String) : Option Timestamp := do
  let (reading, cs) ← columnReading? s
  if cs.isEmpty then reading.timestamp? 0 else none

/-- The timestamp of a column text. -/
def Timestamp.ofColumn? (s : String) : Option Timestamp :=
  zonedColumn? s <|> universalColumn? s

end Findings.Time
