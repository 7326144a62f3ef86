import Findings.Number.Binary

/-!
# Decimal places

A decimal number is written with a point in its place and without a power of ten. A number that is
written with a fixed count of decimal places is the nearest such decimal, the even one of two equally
near; its sign is kept where the digits are all zero.
-/
namespace Findings.Number

/-- Digits with a point in front of the last `places` of them, and zeros where digits are missing. -/
def withPoint (places : Nat) (digits : List Char) : List Char :=
  let padded := List.replicate (places + 1 - digits.length) '0' ++ digits
  let whole := padded.length - places
  padded.take whole ++ (if places = 0 then [] else '.' :: padded.drop whole)

/-- A finite number with exactly `places` digits after the point. -/
def Binary.fixedText {f : Format} (places : Nat) (x : Binary f) : String :=
  let digits := Nat.toDigits 10 (roundDiv (x.units * Nat.pow 10 places) f.one)
  (if x.negative then "-" else "") ++ String.ofList (withPoint places digits)

/-- A decimal number: `digits` times ten to the power of `exponent`. -/
structure Decimal where
  digits : Nat
  exponent : Int
  deriving DecidableEq, Repr

namespace Decimal

/-- The same number without zeros at its end. -/
def strip : Nat → Decimal → Decimal
  | 0, d => d
  | fuel + 1, d =>
    if d.digits ≠ 0 && d.digits % 10 = 0 then strip fuel ⟨d.digits / 10, d.exponent + 1⟩ else d

/-- Digits with a point where it belongs and no power of ten; a whole number has no point. -/
def positional (d : Decimal) : String :=
  let digits := Nat.toDigits 10 d.digits
  if 0 ≤ d.exponent then String.ofList (digits ++ List.replicate d.exponent.toNat '0')
  else String.ofList (withPoint (-d.exponent).toNat digits)

end Decimal

end Findings.Number
