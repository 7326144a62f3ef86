import Findings.Proofs.Number.Magnitude
import Findings.Proofs.Number.Rounding
import Mathlib.Data.Nat.Log

/-!
# Rounding keeps order

A larger quotient is not rounded to a smaller code. If two quotients have the same number of binary
digits, their leading digits compare as the quotients do; if the larger one has more digits, it lies
beyond every code of fewer digits. So a sum of magnitudes does not fall when a term grows, and a
quotient of magnitudes does not rise when the divisor grows.
-/
namespace Findings.Number

lemma div_le_div_of_cross {n d m e : Nat} (hd : 0 < d) (he : 0 < e) (h : n * e ≤ m * d) :
    n / d ≤ m / e := by
  refine (Nat.le_div_iff_mul_le he).mpr (Nat.le_of_mul_le_mul_right ?_ hd)
  calc n / d * e * d = n / d * d * e := Nat.mul_right_comm ..
    _ ≤ n * e := Nat.mul_le_mul_right e (Nat.div_mul_le_self n d)
    _ ≤ m * d := h

lemma roundDiv_bounds (n d : Nat) : n / d ≤ roundDiv n d ∧ roundDiv n d ≤ n / d + 1 := by
  simp only [roundDiv]
  split_ifs <;> omega

/-- A larger quotient is not rounded to a smaller whole number. -/
lemma roundDiv_mono {n d m e : Nat} (hd : 0 < d) (he : 0 < e) (h : n * e ≤ m * d) :
    roundDiv n d ≤ roundDiv m e := by
  rcases Nat.lt_or_eq_of_le (div_le_div_of_cross hd he h) with hless | hsame
  · exact (roundDiv_bounds n d).2.trans (hless.trans_le (roundDiv_bounds m e).1)
  · -- with one whole part the remainders decide
    have hn : n * e = m / e * d * e + n % d * e := by
      rw [← Nat.add_mul, ← hsame, Nat.div_add_mod']
    have hm : m * d = m / e * d * e + m % e * d := by
      rw [Nat.mul_right_comm, ← Nat.add_mul, Nat.div_add_mod']
    have hrest : 2 * (n % d) * e ≤ 2 * (m % e) * d := by
      rw [Nat.mul_assoc, Nat.mul_assoc]
      omega
    have hbelow : 2 * (m % e) < e → 2 * (n % d) < d := fun hhalf => by
      refine Nat.lt_of_mul_lt_mul_right (hrest.trans_lt ?_)
      rw [Nat.mul_comm d e]
      exact Nat.mul_lt_mul_of_pos_right hhalf hd
    have hmiddle : 2 * (m % e) ≤ e → 2 * (n % d) ≤ d := fun hhalf => by
      refine Nat.le_of_mul_le_mul_right (hrest.trans ?_) he
      rw [Nat.mul_comm d e]
      exact Nat.mul_le_mul_right d hhalf
    simp only [roundDiv, hsame]
    split_ifs <;> omega

namespace Binary

variable {f : Format} {x y v w : Binary f}

/-- A larger quotient is not rounded to a smaller code. -/
theorem roundCode_mono {n d m e : Nat} (hd : 0 < d) (he : 0 < e) (h : n * e ≤ m * d) :
    roundCode f n d ≤ roundCode f m e := by
  have hwhole := div_le_div_of_cross hd he h
  have hlog : (n / d).log2 ≤ (m / e).log2 := by
    rw [Nat.log2_eq_log_two, Nat.log2_eq_log_two]
    exact Nat.log_mono_right hwhole
  simp only [roundCode, Nat.pow_eq]
  generalize hshift : (n / d).log2 - f.fractionBits = shift
  generalize hshift' : (m / e).log2 - f.fractionBits = shift'
  rcases Nat.lt_or_eq_of_le (show shift ≤ shift' by omega) with hless | hsame
  · -- the larger quotient has more digits: its code lies beyond all codes of fewer digits
    have hlow : roundDiv n (d * 2 ^ shift) ≤ 2 ^ (f.fractionBits + 1) := by
      refine (roundDiv_bounds n _).2.trans ?_
      rw [← Nat.div_div_eq_div_mul, Nat.succ_le_iff]
      refine Nat.div_lt_of_lt_mul (Nat.lt_log2_self.trans_le ?_)
      rw [← Nat.pow_add]
      exact Nat.pow_le_pow_right (by decide) (by omega)
    have hhigh : 2 ^ f.fractionBits ≤ roundDiv m (e * 2 ^ shift') := by
      refine le_trans ?_ (roundDiv_bounds m _).1
      rw [← Nat.div_div_eq_div_mul, Nat.le_div_iff_mul_le (Nat.two_pow_pos _), ← Nat.pow_add]
      have hsome : m / e ≠ 0 := by
        intro hzero
        rw [hzero, Nat.log2_zero] at hshift'
        omega
      exact (Nat.le_log2 hsome).mp (by omega)
    have hstep : (shift + 1) * 2 ^ f.fractionBits ≤ shift' * 2 ^ f.fractionBits :=
      Nat.mul_le_mul_right _ hless
    rw [Nat.add_mul, Nat.one_mul] at hstep
    rw [Nat.pow_succ] at hlow
    omega
  · subst hsame
    refine Nat.add_le_add_left (roundDiv_mono ?_ ?_ ?_) _
    · exact Nat.mul_pos hd (Nat.two_pow_pos _)
    · exact Nat.mul_pos he (Nat.two_pow_pos _)
    · rw [← Nat.mul_assoc, ← Nat.mul_assoc]
      exact Nat.mul_le_mul_right _ h

@[simp] lemma roundCode_zero (f : Format) (d : Nat) : roundCode f 0 d = 0 := by
  by_cases hd : d = 0 <;> simp [roundCode, roundDiv, hd]

@[simp] lemma roundCode_one (f : Format) : roundCode f 1 1 = 1 := by
  have hlog : Nat.log2 1 = 0 := by decide
  simp [roundCode, roundDiv, hlog]

/-- The magnitude grows with the code. -/
lemma units_mono (h : x.code ≤ y.code) : x.units ≤ y.units := by
  have hmono : Monotone fun code => (⟨false, code⟩ : Binary f).units := by
    refine monotone_nat_of_le_succ fun code => ?_
    obtain ⟨shift, leading, hplace⟩ := exists_isPlace f code
    rw [hplace.units, hplace.units_succ]
    exact Nat.mul_le_mul_right _ (Nat.le_succ leading)
  exact hmono h

lemma ofUnits_mono {n d m e : Nat} (hd : 0 < d) (he : 0 < e) (h : n * e ≤ m * d)
    (negative negative' : Bool) :
    (ofUnits negative n d : Binary f).code ≤ (ofUnits negative' m e : Binary f).code :=
  min_le_min_left _ (roundCode_mono hd he h)

lemma isMagnitude_ofNat (n : Nat) : IsMagnitude (ofNat n : Binary f) := ⟨isNaN_ofUnits _ _ _, rfl⟩

lemma ofNat_mono {n m : Nat} (h : n ≤ m) : (ofNat n : Binary f).code ≤ (ofNat m : Binary f).code :=
  ofUnits_mono Nat.one_pos Nat.one_pos (by simpa using Nat.mul_le_mul_right f.one h) _ _

/-- A number above zero is a magnitude other than zero. -/
lemma isMagnitude_of_isPositive (h : x.isPositive = true) : IsMagnitude x ∧ x.code ≠ 0 := by
  simp only [isPositive, lt, Bool.and_eq_true, Bool.not_eq_true', decide_eq_true_eq] at h
  obtain ⟨⟨_, hnumber⟩, hplace⟩ := h
  have hzero : (zero : Binary f).place = 0 := rfl
  rw [hzero] at hplace
  cases hsign : x.negative with
  | true =>
    simp only [place, hsign, if_true] at hplace
    omega
  | false =>
    simp only [place, hsign, Bool.false_eq_true, if_false] at hplace
    exact ⟨⟨hnumber, hsign⟩, by omega⟩

/-- A number that is not infinite has a code below that of infinity. -/
lemma isFinite_of_not_isInfinite (hx : IsMagnitude x) (hfinite : x.isInfinite = false) :
    x.isFinite = true := by
  have hle := isNaN_eq_false_iff.mp hx.number
  have hne : x.code ≠ f.infinity := by simpa [isInfinite] using hfinite
  exact isFinite_iff.mpr (by omega)

lemma IsMagnitude.code_add (hx : IsMagnitude x) (hy : IsMagnitude y) :
    (x.add y).code =
      if x.isInfinite || y.isInfinite then f.infinity
      else min f.infinity (roundCode f (x.units + y.units) 1) := by
  rw [hx.add_eq hy]
  cases hx' : x.isInfinite with
  | true => simpa using beq_iff_eq.mp hx'
  | false =>
    cases hy' : y.isInfinite with
    | true => simpa using beq_iff_eq.mp hy'
    | false =>
      simp only [Bool.false_eq_true, if_false, Bool.or_self, ofSignedUnits, Int.natAbs_natCast,
        Nat.cast_eq_zero]
      split_ifs with hzero
      · simp [hzero]
      · rfl

/-- A sum of magnitudes does not fall when its terms grow. -/
lemma add_mono (hx : IsMagnitude x) (hy : IsMagnitude y) (hv : IsMagnitude v) (hw : IsMagnitude w)
    (hxv : x.code ≤ v.code) (hyw : y.code ≤ w.code) : (x.add y).code ≤ (v.add w).code := by
  have hsum := isNaN_eq_false_iff.mp (hx.add hy).number
  rw [hv.code_add hw]
  split_ifs with hinfinite
  · exact hsum
  · rw [Bool.or_eq_true, not_or, Bool.not_eq_true, Bool.not_eq_true] at hinfinite
    have hv' := isFinite_iff.mp (isFinite_of_not_isInfinite hv hinfinite.1)
    have hw' := isFinite_iff.mp (isFinite_of_not_isInfinite hw hinfinite.2)
    have hx' : x.isInfinite = false := isInfinite_of_isFinite (isFinite_iff.mpr (by omega))
    have hy' : y.isInfinite = false := isInfinite_of_isFinite (isFinite_iff.mpr (by omega))
    rw [hx.code_add hy, hx', hy']
    refine min_le_min_left _ (roundCode_mono Nat.one_pos Nat.one_pos ?_)
    have hfirst := units_mono hxv
    have hsecond := units_mono hyw
    omega

/-- A sum of magnitudes is zero only if both are. -/
lemma add_ne_zero (hx : IsMagnitude x) (hy : IsMagnitude y) (hfinite : x.isFinite = true)
    (hne : x.code ≠ 0) : (x.add y).code ≠ 0 := by
  have hinfinity := isFinite_iff.mp hfinite
  rw [hx.code_add hy]
  split_ifs
  · omega
  · have hunits := units_ne_zero hne
    have hone := roundCode_mono (f := f) Nat.one_pos Nat.one_pos
      (show 1 * 1 ≤ (x.units + y.units) * 1 by omega)
    rw [roundCode_one] at hone
    omega

lemma IsMagnitude.div_eq (hx : IsMagnitude x) (hy : IsMagnitude y) (hfinite : x.isFinite = true)
    (hne : y.code ≠ 0) :
    x.div y =
      if y.isInfinite then zero else ofUnits false (x.units * f.one) y.units := by
  have hzero : y.isZero = false := by simpa [isZero] using hne
  simp [Binary.div, unlessNaN, hx.number, hy.number, hx.sign, hy.sign,
    isInfinite_of_isFinite hfinite, hzero, zero]

/-- The quotient of a finite magnitude by one that is not zero is a magnitude. -/
lemma IsMagnitude.div (hx : IsMagnitude x) (hy : IsMagnitude y) (hfinite : x.isFinite = true)
    (hne : y.code ≠ 0) : IsMagnitude (x.div y) := by
  rw [hx.div_eq hy hfinite hne]
  split_ifs
  · exact isMagnitude_zero
  · exact ⟨isNaN_ofUnits _ _ _, rfl⟩

/-- A quotient of magnitudes does not rise when the divisor grows. -/
lemma div_antitone (hx : IsMagnitude x) (hv : IsMagnitude v) (hw : IsMagnitude w)
    (hfinite : x.isFinite = true) (hne : v.code ≠ 0) (hvw : v.code ≤ w.code) :
    (x.div w).code ≤ (x.div v).code := by
  rw [hx.div_eq hv hfinite hne, hx.div_eq hw hfinite (by omega)]
  cases hinfinite : w.isInfinite with
  | true => exact Nat.zero_le _
  | false =>
    have hw' := isFinite_iff.mp (isFinite_of_not_isInfinite hw hinfinite)
    have hv' : v.isInfinite = false := isInfinite_of_isFinite (isFinite_iff.mpr (by omega))
    rw [hv']
    have hpos : 0 < v.units := Nat.pos_of_ne_zero (units_ne_zero hne)
    have hunits := units_mono hvw
    exact ofUnits_mono (by omega) hpos (Nat.mul_le_mul_left _ hunits) _ _

end Binary

end Findings.Number
