import Findings.Number.FixedPlaces

/-!
# Shortest decimal digits

The digits of a finite number are the fewest that read back as the same number and, of these,
the nearest to it. The search tries one digit, then two, and looks in each case at the two
neighbours of the value on that decimal grid; seventeen digits always suffice.
-/
namespace Findings.Number

/-- The numbers that read back as the same one: between `low` and `high` over twice the value's
denominator, the ends included if the code is even. -/
structure Span where
  low : Nat
  value : Nat
  high : Nat
  closed : Bool
  deriving Repr

namespace Span

/-- The span of a finite number, in half units. -/
def ofBinary {f : Format} (x : Binary f) : Span :=
  let below : Binary f := ⟨false, x.code - 1⟩
  let above : Binary f := ⟨false, x.code + 1⟩
  { low := below.units + x.units
    value := 2 * x.units
    high := x.units + above.units
    closed := x.code % 2 == 0 }

/-- Whether `n / d` half units read back as the number. -/
def contains (span : Span) (n d : Nat) : Bool :=
  if span.closed then span.low * d ≤ n && n ≤ span.high * d
  else span.low * d < n && n < span.high * d

end Span

/-- The decimal on the grid of ten to the power of `exponent` that reads back as the number, the
nearer of two, the larger of two equally near. -/
def onGrid (f : Format) (span : Span) (exponent : Int) : Option Decimal :=
  -- one step of the grid is `n / d` half units
  let n := (if 0 ≤ exponent then Nat.pow 10 exponent.toNat else 1) * (2 * f.one)
  let d := if 0 ≤ exponent then 1 else Nat.pow 10 (-exponent).toNat
  let below := span.value * d / n
  let above := below + 1
  let hasBelow := below ≠ 0 && span.contains (below * n) d
  let hasAbove := span.contains (above * n) d
  if hasBelow && hasAbove then
    if span.value * d - below * n < above * n - span.value * d then some ⟨below, exponent⟩
    else some ⟨above, exponent⟩
  else if hasBelow then some ⟨below, exponent⟩
  else if hasAbove then some ⟨above, exponent⟩
  else none

/-- The least power of ten, at most `fuel` above `start`, that brings the value to one or more. -/
def raiseToOne (f : Format) (units : Nat) : Nat → Nat → Nat
  | 0, start => start
  | fuel + 1, start =>
    if f.one ≤ units * Nat.pow 10 start then start else raiseToOne f units fuel (start + 1)

/-- The exponent of the first decimal digit of a positive number. -/
def leadingExponent (f : Format) (units : Nat) : Int :=
  if f.one ≤ units then (Nat.toDigits 10 (units / f.one)).length - 1
  else -(raiseToOne f units 4 ((f.places - units.log2 - 1) * 3010 / 10000) : Nat)

/-- The first grid with a hit, from `count` digits on. -/
def searchGrids (f : Format) (span : Span) (leading : Int) : Nat → Nat → Option Decimal
  | 0, _ => none
  | fuel + 1, count =>
    match onGrid f span (leading - count + 1) with
    | some decimal => some decimal
    | none => searchGrids f span leading fuel (count + 1)

/-- The fewest digits that read back as the magnitude of a finite number. -/
def shortest {f : Format} (x : Binary f) : Decimal :=
  if x.code = 0 then ⟨0, 0⟩
  else
    let decimal := (searchGrids f (Span.ofBinary x) (leadingExponent f x.units) 17 1).getD ⟨0, 0⟩
    decimal.strip 20

namespace Binary

/-- The number in positional digits, without a point if it is whole: `60`, `0.7`, `-0`, `inf`,
`NaN`. -/
def plainText {f : Format} (x : Binary f) : String :=
  if x.isNaN then "NaN"
  else
    let sign := if x.negative then "-" else ""
    sign ++ (if x.isInfinite then "inf" else (shortest x).positional)

end Binary

end Findings.Number
