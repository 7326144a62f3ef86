import Findings.Number.Arithmetic
import Mathlib.Tactic.Ring

/-!
# Magnitudes

A magnitude is a number without a negative sign; infinity counts as one. Squares, sums and roots
of magnitudes are magnitudes. What would have no result needs opposite infinities, zero times
infinity or a negative square, and none of these is met on the way.
-/
namespace Findings.Number

/-- The whole part of the root is not above the root. -/
lemma Binary.wholeRoot_sq_le (n : Nat) :
    Binary.wholeRoot n * Binary.wholeRoot n ≤ n := by
  fun_induction Binary.wholeRoot n with
  | case1 => exact Nat.le_refl 0
  | case2 n hn root hle => exact hle
  | case3 n hn root hgt ih =>
    have hsquare : root * root = 4 * (Binary.wholeRoot (n / 4) * Binary.wholeRoot (n / 4)) := by
      simp only [root]
      ring
    omega

lemma Binary.wholeRoot_lt {n bits : Nat} (h : n < 4 ^ bits) : Binary.wholeRoot n < 2 ^ bits := by
  have hroot := Binary.wholeRoot_sq_le n
  have hpow : 4 ^ bits = 2 ^ bits * 2 ^ bits := by
    rw [← Nat.mul_pow]
  by_contra hge
  have := Nat.mul_le_mul (Nat.le_of_not_lt hge) (Nat.le_of_not_lt hge)
  omega

namespace Binary

variable {f : Format} {x y : Binary f}

lemma isNaN_eq_false_iff : x.isNaN = false ↔ x.code ≤ f.infinity := by
  simp [isNaN]

lemma isFinite_iff : x.isFinite = true ↔ x.code < f.infinity := by
  simp [isFinite]

@[simp] lemma isNaN_ofUnits (negative : Bool) (n d : Nat) :
    (ofUnits negative n d : Binary f).isNaN = false :=
  isNaN_eq_false_iff.mpr (Nat.min_le_left _ _)

@[simp] lemma isNaN_infinity (negative : Bool) :
    (infinity negative : Binary f).isNaN = false :=
  isNaN_eq_false_iff.mpr (Nat.le_refl _)

@[simp] lemma isNaN_nan (negative : Bool) : (nan negative : Binary f).isNaN = true := by
  have hpow : 0 < Nat.pow 2 (f.fractionBits - 1) := Nat.two_pow_pos _
  show decide (f.infinity < f.infinity + Nat.pow 2 (f.fractionBits - 1)) = true
  exact decide_eq_true (Nat.lt_add_of_pos_right hpow)

@[simp] lemma isNaN_ofSignedUnits (negative : Bool) (n : Int) :
    (ofSignedUnits negative n : Binary f).isNaN = false := by
  unfold ofSignedUnits
  split
  · exact isNaN_eq_false_iff.mpr (Nat.zero_le _)
  · exact isNaN_ofUnits _ _ _

lemma isNaN_of_isFinite (h : x.isFinite = true) : x.isNaN = false :=
  isNaN_eq_false_iff.mpr (Nat.le_of_lt (isFinite_iff.mp h))

lemma isInfinite_of_isFinite (h : x.isFinite = true) : x.isInfinite = false := by
  have hlt := isFinite_iff.mp h
  simp only [isInfinite, beq_eq_false_iff_ne]
  omega

/-- The difference of finite numbers is a number. -/
lemma isNaN_sub (hx : x.isFinite = true) (hy : y.isFinite = true) : (x.sub y).isNaN = false := by
  have hneg : y.neg.isFinite = true := hy
  simp [sub, add, unlessNaN, isNaN_of_isFinite hx, isNaN_of_isFinite hy, isNaN_of_isFinite hneg,
    isInfinite_of_isFinite hx, isInfinite_of_isFinite hneg]

/-- A number without a negative sign. -/
structure IsMagnitude (x : Binary f) : Prop where
  number : x.isNaN = false
  sign : x.negative = false

lemma isMagnitude_zero : IsMagnitude (zero : Binary f) :=
  ⟨isNaN_eq_false_iff.mpr (Nat.zero_le _), rfl⟩

/-- The square of a number is a magnitude. -/
lemma isMagnitude_square (hf : 0 < f.infinity) (hx : x.isNaN = false) : IsMagnitude (x.mul x) := by
  have hmul : x.mul x =
      if x.isInfinite then infinity false else ofUnits false (x.units * x.units) f.one := by
    have hzero : x.isInfinite = true → x.isZero = false := by
      simp only [isInfinite, isZero, beq_iff_eq, beq_eq_false_iff_ne]
      omega
    by_cases hinfinite : x.isInfinite = true <;> simp [mul, unlessNaN, hx, hinfinite, hzero]
  rw [hmul]
  split
  · exact ⟨isNaN_infinity _, rfl⟩
  · exact ⟨isNaN_ofUnits _ _ _, rfl⟩

lemma IsMagnitude.add_eq (hx : IsMagnitude x) (hy : IsMagnitude y) :
    x.add y = if x.isInfinite then x else if y.isInfinite then y
      else ofSignedUnits false (x.units + y.units : Nat) := by
  simp [Binary.add, unlessNaN, hx.number, hy.number, hx.sign, hy.sign, signedUnits]

/-- The sum of magnitudes is a magnitude. -/
lemma IsMagnitude.add (hx : IsMagnitude x) (hy : IsMagnitude y) : IsMagnitude (x.add y) := by
  rw [hx.add_eq hy]
  split_ifs
  · exact hx
  · exact hy
  · refine ⟨isNaN_ofSignedUnits _ _, ?_⟩
    have hsign : ¬ ((x.units + y.units : Nat) : Int) < 0 := Int.not_lt.mpr (Int.natCast_nonneg _)
    unfold ofSignedUnits
    split
    · rfl
    · rw [ofUnits, decide_eq_false hsign]

/-- The code of a root is about half as large as the code of its square. -/
lemma rootCode_le (f : Format) (n : Nat) :
    rootCode f n ≤ ((n * f.one).log2 / 2 - f.fractionBits + 2) * 2 ^ f.fractionBits := by
  unfold rootCode
  simp only [Nat.pow_eq]
  generalize n * f.one = square
  generalize hshift : square.log2 / 2 - f.fractionBits = shift
  have hroot : wholeRoot (square / 4 ^ shift) < 2 ^ (f.fractionBits + 1) := by
    refine wholeRoot_lt (Nat.div_lt_of_lt_mul ?_)
    calc square < 2 ^ (square.log2 + 1) := Nat.lt_log2_self
      _ ≤ 2 ^ (2 * (shift + (f.fractionBits + 1))) :=
        Nat.pow_le_pow_right (by decide) (by omega)
      _ = 4 ^ shift * 4 ^ (f.fractionBits + 1) := by rw [Nat.pow_mul, Nat.pow_add]
  have hsum := Nat.add_mul shift 2 (2 ^ f.fractionBits)
  rw [Nat.pow_succ] at hroot
  split <;> omega

lemma units_lt (h : x.isFinite = true) :
    x.units < 2 ^ (f.fractionBits + 2 ^ f.exponentBits) := by
  have hcode : x.code < 2 ^ f.fractionBits * (2 ^ f.exponentBits - 1) :=
    Nat.mul_comm _ _ ▸ isFinite_iff.mp h
  have hexponent := Nat.div_lt_of_lt_mul hcode
  have hfraction : x.code % 2 ^ f.fractionBits < 2 ^ f.fractionBits :=
    Nat.mod_lt _ (Nat.two_pow_pos _)
  simp only [units, Nat.pow_eq]
  generalize x.code / 2 ^ f.fractionBits = exponent at hexponent ⊢
  generalize x.code % 2 ^ f.fractionBits = fraction at hfraction ⊢
  split
  · exact hfraction.trans_le (Nat.pow_le_pow_right (by decide) (by omega))
  · calc (2 ^ f.fractionBits + fraction) * 2 ^ (exponent - 1)
        < 2 ^ (f.fractionBits + 1) * 2 ^ (exponent - 1) := by
          refine Nat.mul_lt_mul_of_pos_right ?_ (Nat.two_pow_pos _)
          rw [Nat.pow_succ]
          omega
      _ = 2 ^ (f.fractionBits + 1 + (exponent - 1)) := (Nat.pow_add _ _ _).symm
      _ ≤ 2 ^ (f.fractionBits + 2 ^ f.exponentBits) :=
          Nat.pow_le_pow_right (by decide) (by omega)

/-- The root of a magnitude is a magnitude. -/
lemma IsMagnitude.sqrt (hf : 3 ≤ f.exponentBits) (hx : IsMagnitude x) : IsMagnitude x.sqrt := by
  unfold Binary.sqrt
  simp only [hx.number, hx.sign, Bool.false_or, Bool.false_eq_true, if_false]
  split_ifs with hzero hinfinite
  · exact hx
  · exact hx
  · refine ⟨isNaN_eq_false_iff.mpr ((rootCode_le f x.units).trans ?_), rfl⟩
    have hfinite : x.isFinite = true := by
      have hle := isNaN_eq_false_iff.mp hx.number
      simp only [isInfinite, beq_iff_eq] at hinfinite
      exact isFinite_iff.mpr (by omega)
    have hbits : (x.units * f.one).log2 < f.fractionBits + 2 ^ f.exponentBits + f.places := by
      have hlt : x.units * f.one < 2 ^ (f.fractionBits + 2 ^ f.exponentBits + f.places) := by
        rw [Nat.pow_add]
        exact Nat.mul_lt_mul_of_pos_right (units_lt hfinite) (Nat.two_pow_pos _)
      by_cases hunits : x.units * f.one = 0
      · rw [hunits, Nat.log2_zero]
        have := Nat.two_pow_pos f.exponentBits
        omega
      · exact (Nat.log2_lt hunits).mpr hlt
    have hplaces : f.places = 2 ^ (f.exponentBits - 1) - 2 + f.fractionBits := rfl
    obtain ⟨rest, hrest⟩ := Nat.exists_eq_add_of_le' hf
    have hless : f.exponentBits - 1 = rest + 2 := by omega
    rw [hless] at hplaces
    refine Nat.mul_le_mul_right _ ?_
    simp only [Nat.pow_eq, hrest, Nat.pow_succ] at hbits hplaces ⊢
    have := Nat.two_pow_pos rest
    omega

/-- A number stays one in another format. -/
lemma isNaN_convert (g : Format) (h : x.isNaN = false) : (x.convert g).isNaN = false := by
  simp only [convert, h, Bool.false_eq_true, if_false]
  split
  · exact isNaN_infinity _
  · exact isNaN_ofUnits _ _ _

/-- A magnitude stays one in another format. -/
lemma IsMagnitude.convert (g : Format) (hx : IsMagnitude x) : IsMagnitude (x.convert g) := by
  refine ⟨isNaN_convert g hx.number, ?_⟩
  simp only [Binary.convert, hx.number, hx.sign, Bool.false_eq_true, if_false]
  split <;> rfl

/-- What is not a number is not one in another format either. -/
lemma isNaN_convert_of_isNaN (g : Format) (hx : x.isNaN = true) : (x.convert g).isNaN = true := by
  rw [convert, if_pos hx]
  exact isNaN_nan x.negative

lemma isNaN_unlessNaN {result : Binary f} (h : x.isNaN = true ∨ y.isNaN = true) :
    (unlessNaN x y result).isNaN = true := by
  unfold unlessNaN
  split_ifs with hx hy
  · exact hx
  · exact hy
  · simp_all

lemma isNaN_sqrt (hx : x.isNaN = true) : x.sqrt.isNaN = true := by
  simp [Binary.sqrt, hx]

/-- Numbers without a negative sign and what is not a number: the sums and roots that a distance
is made of never leave them. -/
def IsMeasure (x : Binary f) : Prop := x.isNaN = true ∨ IsMagnitude x

lemma IsMeasure.isMagnitude (h : IsMeasure x) (hx : x.isNaN = false) : IsMagnitude x :=
  h.resolve_left (by simp [hx])

lemma IsMeasure.add (hx : IsMeasure x) (hy : IsMeasure y) : IsMeasure (x.add y) := by
  rcases hx with hx | hx
  · exact .inl (isNaN_unlessNaN (.inl hx))
  · rcases hy with hy | hy
    · exact .inl (isNaN_unlessNaN (.inr hy))
    · exact .inr (hx.add hy)

lemma isMeasure_square (hf : 0 < f.infinity) (x : Binary f) : IsMeasure (x.mul x) := by
  cases hx : x.isNaN with
  | true => exact .inl (isNaN_unlessNaN (.inl hx))
  | false => exact .inr (isMagnitude_square hf hx)

lemma IsMeasure.sqrt (hf : 3 ≤ f.exponentBits) (hx : IsMeasure x) : IsMeasure x.sqrt :=
  hx.imp isNaN_sqrt (IsMagnitude.sqrt hf)

lemma IsMeasure.convert (g : Format) (hx : IsMeasure x) : IsMeasure (x.convert g) :=
  hx.imp (isNaN_convert_of_isNaN g) (IsMagnitude.convert g)

/-- Magnitudes are ordered by their codes. -/
lemma IsMagnitude.orderKey_eq (hx : IsMagnitude x) : x.orderKey = x.place := by
  simp [orderKey, place, hx.sign]

/-- Of magnitudes the one below comes first. -/
lemma IsMagnitude.lt_iff (hx : IsMagnitude x) (hy : IsMagnitude y) :
    x.lt y = true ↔ x.orderKey < y.orderKey := by
  simp [lt, hx.number, hy.number, hx.orderKey_eq, hy.orderKey_eq]

end Binary

end Findings.Number
