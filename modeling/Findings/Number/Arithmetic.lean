import Findings.Number.Binary

/-!
# Arithmetic of binary numbers

Each operation is its exact result rounded to the nearest number. An operand that is not a
number is itself the result, the first one if there are two; an operation without a result
gives the negative one. Only the logarithm is the one of the machine, taken from the bits of a
number to the bits of its logarithm: nothing is assumed of it but that it is a function.
-/
namespace Findings.Number.Binary

variable {f : Format}

/-- The result of an operation that has none. -/
def invalid : Binary f := nan true

/-- The operand that is not a number, or what the operation makes of two numbers. -/
def unlessNaN (x y : Binary f) (result : Binary f) : Binary f :=
  if x.isNaN then x else if y.isNaN then y else result

/-- The nearest number to a signed count of units; a zero takes the given sign. -/
def ofSignedUnits (zeroSign : Bool) (n : Int) : Binary f :=
  if n = 0 then ⟨zeroSign, 0⟩ else ofUnits (n < 0) n.natAbs 1

/-- The sum. Opposite infinities have none. -/
def add (x y : Binary f) : Binary f :=
  unlessNaN x y <|
    if x.isInfinite then
      if y.isInfinite && x.negative != y.negative then invalid else x
    else if y.isInfinite then y
    else ofSignedUnits (x.negative && y.negative) (x.signedUnits + y.signedUnits)

def sub (x y : Binary f) : Binary f :=
  unlessNaN x y (add x y.neg)

/-- The product. Zero times infinity has none. -/
def mul (x y : Binary f) : Binary f :=
  unlessNaN x y <|
    if x.isInfinite || y.isInfinite then
      if x.isZero || y.isZero then invalid else infinity (x.negative != y.negative)
    else ofUnits (x.negative != y.negative) (x.units * y.units) f.one

/-- The quotient. Zero by zero and infinity by infinity have none. -/
def div (x y : Binary f) : Binary f :=
  unlessNaN x y <|
    if x.isInfinite then
      if y.isInfinite then invalid else infinity (x.negative != y.negative)
    else if y.isInfinite then ⟨x.negative != y.negative, 0⟩
    else if y.isZero then
      if x.isZero then invalid else infinity (x.negative != y.negative)
    else ofUnits (x.negative != y.negative) (x.units * f.one) y.units

/-- The whole part of the square root. -/
def wholeRoot (n : Nat) : Nat :=
  if n = 0 then 0
  else
    let root := 2 * wholeRoot (n / 4)
    if (root + 1) * (root + 1) ≤ n then root + 1 else root
termination_by n

/-- The code of the number nearest to the square root of `n`, both in units. -/
def rootCode (f : Format) (n : Nat) : Nat :=
  let square := n * f.one
  let shift := square.log2 / 2 - f.fractionBits
  let root := wholeRoot (square / Nat.pow 4 shift)
  let nearest :=
    if (2 * root + 1) * (2 * root + 1) * Nat.pow 4 shift ≤ 4 * square then root + 1 else root
  shift * Nat.pow 2 f.fractionBits + nearest

/-- The square root. A negative number has none. -/
def sqrt (x : Binary f) : Binary f :=
  if x.isNaN || x.isZero then x
  else if x.negative then invalid
  else if x.isInfinite then x
  else ⟨false, rootCode f x.units⟩

def log (x : Double) : Double :=
  Binary.ofBits (Float.log (Float.ofBits (UInt64.ofNat x.bits))).toBits.toNat

/-- The place of a number among the numbers; the two zeros share one. -/
def place (x : Binary f) : Int :=
  if x.negative then -(x.code : Int) else x.code

/-- Numeric order. What is not a number is not below or above anything. -/
def lt (x y : Binary f) : Bool :=
  !x.isNaN && !y.isNaN && decide (x.place < y.place)

def isPositive (x : Binary f) : Bool := lt zero x

/-- The place in the total order of all codes: negative ones first, by falling magnitude, with
the negative zero below the positive one and what is not a number outside of the infinities. -/
def orderKey (x : Binary f) : Int :=
  if x.negative then -1 - (x.code : Int) else x.code

/-- Total order on all codes. -/
def totalLE (x y : Binary f) : Bool := decide (x.orderKey ≤ y.orderKey)

theorem orderKey_inj {x y : Binary f} (h : x.orderKey = y.orderKey) : x = y := by
  rcases x with ⟨sx, cx⟩
  rcases y with ⟨sy, cy⟩
  cases sx <;> cases sy <;> simp [orderKey] at h ⊢ <;> omega

@[simp] theorem totalLE_iff {x y : Binary f} : x.totalLE y = true ↔ x.orderKey ≤ y.orderKey := by
  simp [totalLE]

theorem totalLE_antisymm {x y : Binary f} (h : x.totalLE y = true) (h' : y.totalLE x = true) :
    x = y := by
  rw [totalLE_iff] at h h'
  exact orderKey_inj (by omega)

end Findings.Number.Binary
