import Findings.Proofs.Number.Monotone
import Findings.Number.Decimal

/-!
# Results that are not numbers

A sum of magnitudes is a magnitude, and so is a quotient by one that is not zero, unless infinity is
divided by infinity. What is not a number stays so in sums. A sum with a word is infinite only if
its other term is: the largest number is too large to be raised to infinity by a word.
-/
namespace Findings.Number.Binary

variable {f : Format} {x y : Binary f}

/-- Infinity over a magnitude that is not zero. -/
lemma IsMagnitude.infinity_div (hx : IsMagnitude x) (hy : IsMagnitude y)
    (hinfinite : x.isInfinite = true) :
    x.div y = if y.isInfinite then invalid else infinity false := by
  simp [Binary.div, unlessNaN, hx.number, hy.number, hx.sign, hy.sign, hinfinite]

/-- A quotient of magnitudes is not a number if and only if both are infinite. -/
lemma IsMagnitude.isNaN_div (hx : IsMagnitude x) (hy : IsMagnitude y) (hne : y.code ≠ 0) :
    (x.div y).isNaN = (x.isInfinite && y.isInfinite) := by
  cases hinfinite : x.isInfinite with
  | true =>
    rw [hx.infinity_div hy hinfinite]
    cases y.isInfinite
    · exact isNaN_infinity false
    · exact isNaN_nan true
  | false =>
    exact (hx.div hy (isFinite_of_not_isInfinite hx hinfinite) hne).number

/-- A quotient of magnitudes is a magnitude or not a number. -/
lemma IsMagnitude.isMeasure_div (hx : IsMagnitude x) (hy : IsMagnitude y) (hne : y.code ≠ 0) :
    IsMeasure (x.div y) := by
  cases hinfinite : x.isInfinite with
  | true =>
    rw [hx.infinity_div hy hinfinite]
    cases y.isInfinite
    · exact .inr ⟨isNaN_infinity false, rfl⟩
    · exact .inl (isNaN_nan true)
  | false =>
    exact .inr (hx.div hy (isFinite_of_not_isInfinite hx hinfinite) hne)

/-- A sum is not a number if and only if a term is none. -/
lemma IsMeasure.isNaN_add (hx : IsMeasure x) (hy : IsMeasure y) :
    (x.add y).isNaN = (x.isNaN || y.isNaN) := by
  rcases hx with hx | hx
  · rw [hx, Bool.true_or]
    exact isNaN_unlessNaN (.inl hx)
  · rcases hy with hy | hy
    · rw [hy, Bool.or_true]
      exact isNaN_unlessNaN (.inr hy)
    · rw [hx.number, hy.number]
      exact (hx.add hy).number

/-- A sum with an infinite term is infinite. -/
lemma IsMagnitude.isInfinite_add (hx : IsMagnitude x) (hy : IsMagnitude y)
    (hinfinite : x.isInfinite = true) : (x.add y).isInfinite = true := by
  rw [isInfinite, hx.code_add hy, hinfinite, Bool.true_or, if_pos rfl]
  exact beq_self_eq_true _

/-- What comes first in the total order is not above what follows. -/
lemma lt_eq_false_of_totalLE (h : x.totalLE y = true) : y.lt x = false := by
  rw [totalLE_iff] at h
  have hplace : ¬ y.place < x.place := by
    cases hx : x.negative <;> cases hy : y.negative <;>
      simp only [orderKey, hx, hy, if_true, if_false, Bool.false_eq_true] at h <;>
      simp only [place, hx, hy, if_true, if_false, Bool.false_eq_true] <;> omega
  rw [lt, decide_eq_false hplace, Bool.and_false]

/-! ### Sums with words -/

def largest : Double := ⟨false, Format.double.infinity - 1⟩

lemma isFinite_add_word {x : Double} (hx : IsMagnitude x) (hfinite : x.isFinite = true) {n : Nat}
    (hn : n < wordCount) : (x.add (ofNat n)).isFinite = true := by
  have hword : (ofNat n : Double).code ≤ (ofNat wordCount : Double).code := ofNat_mono hn.le
  have hcount : (ofNat wordCount : Double).code < Format.double.infinity := by decide +kernel
  have hcode := isFinite_iff.mp hfinite
  have hwordFinite : (ofNat n : Double).isFinite = true := isFinite_iff.mpr (by omega)
  rw [isFinite_iff, hx.code_add (isMagnitude_ofNat n), isInfinite_of_isFinite hfinite,
    isInfinite_of_isFinite hwordFinite, Bool.or_self, if_neg Bool.false_ne_true]
  have hfirst : x.units ≤ largest.units :=
    units_mono (show x.code ≤ Format.double.infinity - 1 by omega)
  have hsecond : (ofNat n : Double).units ≤ (ofNat wordCount : Double).units := units_mono hword
  have hsum : roundCode .double (x.units + (ofNat n : Double).units) 1 ≤
      roundCode .double (largest.units + (ofNat wordCount : Double).units) 1 :=
    roundCode_mono Nat.one_pos Nat.one_pos (by omega)
  have hbound : roundCode .double (largest.units + (ofNat wordCount : Double).units) 1 <
      Format.double.infinity := by decide +kernel
  exact lt_of_le_of_lt (Nat.min_le_right _ _) (lt_of_le_of_lt hsum hbound)

/-- A sum with a word is infinite if and only if its other term is. -/
lemma isInfinite_add_word {x : Double} (hx : IsMagnitude x) {n : Nat} (hn : n < wordCount) :
    (x.add (ofNat n)).isInfinite = x.isInfinite := by
  cases hinfinite : x.isInfinite with
  | true => exact hx.isInfinite_add (isMagnitude_ofNat n) hinfinite
  | false =>
    have hfinite := isFinite_of_not_isInfinite hx hinfinite
    exact isInfinite_of_isFinite (isFinite_add_word hx hfinite hn)

end Findings.Number.Binary
