import Findings.Json.Value
import Findings.Number.Arithmetic
import Findings.Number.Decimal

/-!
# The value of a JSON number

A whole number that fits a word is taken as it is. Any other number is the significand, as many
of the digits as fit 64 bits, times or by one rounded power of ten, so its last bit may differ
from the nearest double. A number above all doubles has no value.
-/
namespace Findings.Json

open Findings.Number

/-- Digits appended to a significand while it fits 64 bits, and the count of those left over. -/
def takeSignificand (significand : Nat) : List Char → Nat × Nat
  | [] => (significand, 0)
  | c :: rest =>
    let next := 10 * significand + (c.toNat - '0'.toNat)
    if next < wordCount then takeSignificand next rest else (significand, rest.length + 1)

/-- The double nearest to a power of ten. -/
def tenTo (n : Nat) : Double := Binary.ofDecimal false 1 n

/-- A magnitude times ten to the power of `exponent`, none if it is above all doubles. Powers
below the smallest are taken in steps. -/
def scaleByTen : Nat → Double → Int → Option Double
  | 0, x, _ => some x
  | fuel + 1, x, exponent =>
    if exponent.natAbs ≤ 308 then
      if 0 ≤ exponent then
        let product := x.mul (tenTo exponent.natAbs)
        if product.isInfinite then none else some product
      else some (x.div (tenTo exponent.natAbs))
    else if x.isZero then some x
    else if 0 ≤ exponent then none
    else scaleByTen fuel (x.div (tenTo 308)) (exponent + 308)

namespace Number

/-- The significand of a number and the power of ten that belongs to it. -/
def parts (n : Number) : Nat × Int :=
  let (significand, skipped) := takeSignificand 0 n.whole
  let (significand, dropped) := takeSignificand significand n.fraction
  (significand, (skipped : Int) - (n.fraction.length - dropped : Nat))

def magnitude? (n : Number) : Option Double :=
  let (significand, exponent) := n.parts
  let power := n.power.getD 0
  if Nat.pow 2 31 ≤ power.natAbs then
    if significand ≠ 0 && 0 < power then none else some Binary.zero
  else scaleByTen 8 (Binary.ofNat significand) (exponent + power)

def double? (n : Number) : Option Double :=
  n.magnitude?.map fun x => if n.negative then x.neg else x

/-- The value of a number written without point and power. -/
def whole? (n : Number) : Option Nat :=
  if n.isWhole then some (n.whole.foldl (fun m c => 10 * m + (c.toNat - '0'.toNat)) 0) else none

/-- The value of a signed 64-bit word. A zero has no minus. -/
def integer? (n : Number) : Option Int := do
  let m ← n.whole?
  if n.negative && m = 0 then none else signedWord? n.negative m

/-- The value of an unsigned 64-bit word. -/
def natural? (n : Number) : Option Nat := do
  let m ← n.whole?
  if !n.negative && m < wordCount then some m else none

/-- The value as a component of an embedding: words are rounded once, other numbers twice. -/
def single? (n : Number) : Option Single :=
  match n.natural?, n.integer? with
  | some m, _ => some (Binary.ofNat m)
  | none, some i => some (Binary.ofInt i)
  | none, none => n.double?.map (Binary.convert .single)

end Number

end Findings.Json
