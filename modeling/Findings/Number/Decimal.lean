import Findings.Number.Binary

/-!
# Decimal texts of numbers

A decimal text is an optional sign and then digits with at most one point among or around
them, followed by an optional power of ten; or a name of an infinity or of what is not a
number. Reading rounds to the nearest number. Whole numbers of documents and tables are words of 64
bits, signed or unsigned; powers are taken by the function of natural numbers itself, so that their
values can be computed in proofs.
-/
namespace Findings.Number

/-- How many unsigned words there are; each is below this number. -/
def wordCount : Nat := Nat.pow 2 64

/-- How many signed words are not negative; each is below this number. -/
def signedCount : Nat := Nat.pow 2 63

/-- The value of a signed word of a magnitude, if there is such a word. -/
def signedWord? (negative : Bool) (magnitude : Nat) : Option Int :=
  if negative then
    if magnitude ≤ signedCount then some (-(magnitude : Int)) else none
  else if magnitude < signedCount then some magnitude else none

/-- The value of a list of decimal digits, most significant first. -/
def digitsValue (digits : List Char) : Nat :=
  digits.foldl (fun n c => 10 * n + (c.toNat - '0'.toNat)) 0

/-- The whole number written in decimal digits. -/
def wholeNumber? (cs : List Char) : Option Nat :=
  if !cs.isEmpty && cs.all Char.isDigit then some (digitsValue cs) else none

/-- A sign before the rest of a text: whether it is a minus, and the rest. -/
def takeSign : List Char → Bool × List Char
  | '-' :: rest => (true, rest)
  | '+' :: rest => (false, rest)
  | rest => (false, rest)

/-- The power of ten that ends a decimal text; an empty text is the power zero. -/
def powerOfTen? : List Char → Option Int
  | [] => some 0
  | c :: rest =>
    if c = 'e' || c = 'E' then
      let (negative, digits) := takeSign rest
      (wholeNumber? digits).map fun n => if negative then -(n : Int) else n
    else none

def unsignedDecimal? (negative : Bool) (cs : List Char) : Option Double :=
  let whole := cs.takeWhile Char.isDigit
  let rest := cs.dropWhile Char.isDigit
  let (fraction, rest) :=
    match rest with
    | '.' :: tail => (tail.takeWhile Char.isDigit, tail.dropWhile Char.isDigit)
    | _ => ([], rest)
  if whole.isEmpty && fraction.isEmpty then none
  else
    (powerOfTen? rest).map fun power =>
      Binary.ofDecimal negative (digitsValue (whole ++ fraction)) (power - fraction.length)

/-- The number a decimal text stands for. Names may be in either case. -/
def decimal? (text : String) : Option Double :=
  let (negative, cs) := takeSign text.toList
  match String.ofList (cs.map Char.toLower) with
  | "inf" | "infinity" => some (Binary.infinity negative)
  | "nan" => some (Binary.nan negative)
  | _ => unsignedDecimal? negative cs

/-- An unsigned whole number of at most 64 bits, with an optional plus. -/
def word? (text : String) : Option Nat :=
  let digits := match text.toList with
    | '+' :: rest => rest
    | rest => rest
  (wholeNumber? digits).filter (· < wordCount)

end Findings.Number
