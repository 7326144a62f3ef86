/-!
# Binary floating-point numbers

A number of a binary format is a sign and a code. The code counts the magnitudes of the format
upwards from zero: zero has code 0, the smallest positive number code 1, and infinity follows
the largest finite number. Every finite number is a whole multiple of the smallest positive
one, so its exact value is a count of these units, and rounding an exact quotient of units is
one division.
-/
namespace Findings.Number

/-- The widths of a binary interchange format. -/
structure Format where
  fractionBits : Nat
  exponentBits : Nat
  deriving DecidableEq, Repr

namespace Format

/-- Eight bytes: 52 fraction bits and 11 exponent bits. -/
abbrev double : Format := ⟨52, 11⟩

/-- Four bytes: 23 fraction bits and 8 exponent bits. -/
abbrev single : Format := ⟨23, 8⟩

/-- The code of infinity: every exponent bit set and no fraction bit. -/
def infinity (f : Format) : Nat := (Nat.pow 2 f.exponentBits - 1) * Nat.pow 2 f.fractionBits

/-- The code of the result that is not a number. -/
def nan (f : Format) : Nat := f.infinity + Nat.pow 2 (f.fractionBits - 1)

/-- The unit of the format is two to the power of minus this many places. -/
def places (f : Format) : Nat := Nat.pow 2 (f.exponentBits - 1) - 2 + f.fractionBits

/-- How many units make one. -/
def one (f : Format) : Nat := Nat.pow 2 f.places

/-- The weight of the sign in the bits of a number. -/
def signBit (f : Format) : Nat := Nat.pow 2 (f.exponentBits + f.fractionBits)

def hexDigits (f : Format) : Nat := (1 + f.exponentBits + f.fractionBits) / 4

end Format

/-- A number of the format `f`. -/
structure Binary (f : Format) where
  negative : Bool
  code : Nat
  deriving DecidableEq, Repr, Inhabited

/-- Eight-byte numbers: scores, weights and distances. -/
abbrev Double := Binary Format.double

/-- Four-byte numbers: the components of embeddings. -/
abbrev Single := Binary Format.single

/-- The whole number nearest to a quotient, the even one of two equally near. -/
def roundDiv (n d : Nat) : Nat :=
  let q := n / d
  let r := n % d
  if 2 * r < d then q
  else if d < 2 * r then q + 1
  else q + q % 2

namespace Binary

variable {f : Format}

def zero : Binary f := ⟨false, 0⟩

def infinity (negative : Bool) : Binary f := ⟨negative, f.infinity⟩

/-- A result that is not a number, with a sign. -/
def nan (negative : Bool) : Binary f := ⟨negative, f.nan⟩

def isNaN (x : Binary f) : Bool := f.infinity < x.code

def isInfinite (x : Binary f) : Bool := x.code == f.infinity

def isFinite (x : Binary f) : Bool := x.code < f.infinity

/-- Whether this is a zero of either sign. -/
def isZero (x : Binary f) : Bool := x.code == 0

/-- The magnitude of a finite number as a count of units. -/
def units (x : Binary f) : Nat :=
  let exponent := x.code / Nat.pow 2 f.fractionBits
  let fraction := x.code % Nat.pow 2 f.fractionBits
  if exponent = 0 then fraction
  else (Nat.pow 2 f.fractionBits + fraction) * Nat.pow 2 (exponent - 1)

/-- The value of a finite number as a signed count of units. -/
def signedUnits (x : Binary f) : Int :=
  if x.negative then -(x.units : Int) else x.units

/-- The code of the magnitude nearest to `n / d` units, if it were never too large. -/
def roundCode (f : Format) (n d : Nat) : Nat :=
  let shift := (n / d).log2 - f.fractionBits
  shift * Nat.pow 2 f.fractionBits + roundDiv n (d * Nat.pow 2 shift)

/-- The number nearest to `n / d` units, an infinity if none is large enough. -/
def ofUnits (negative : Bool) (n d : Nat) : Binary f :=
  ⟨negative, min f.infinity (roundCode f n d)⟩

def ofNat (n : Nat) : Binary f := ofUnits false (n * f.one) 1

def ofInt (n : Int) : Binary f := ofUnits (n < 0) (n.natAbs * f.one) 1

/-- The number nearest to `digits` times ten to the power of `exponent`. Powers that no number
of the format comes near are not computed. -/
def ofDecimal (negative : Bool) (digits : Nat) (exponent : Int) : Binary f :=
  if digits = 0 then ⟨negative, 0⟩
  else if 0 ≤ exponent then
    if (Nat.pow 2 f.exponentBits : Nat) ≤ exponent then infinity negative
    else ofUnits negative (digits * Nat.pow 10 exponent.toNat * f.one) 1
  else
    let power := (-exponent).toNat
    if digits.log2 + f.places + 2 < 3 * power then ⟨negative, 0⟩
    else ofUnits negative (digits * f.one) (Nat.pow 10 power)

/-- The number with its sign turned. -/
def neg (x : Binary f) : Binary f := ⟨!x.negative, x.code⟩

/-- The bits of a number, the sign first, as a whole number. -/
def bits (x : Binary f) : Nat := (if x.negative then f.signBit else 0) + x.code

def ofBits (n : Nat) : Binary f := ⟨n / f.signBit % 2 == 1, n % f.signBit⟩

def hex (x : Binary f) : String :=
  let digits := Nat.toDigits 16 x.bits
  String.ofList (List.replicate (f.hexDigits - digits.length) '0' ++ digits)

/-- The nearest number of another format. -/
def convert (g : Format) (x : Binary f) : Binary g :=
  if x.isNaN then nan x.negative
  else if x.isInfinite then infinity x.negative
  else ofUnits x.negative (x.units * g.one) f.one

end Binary

end Findings.Number
