import Findings.Number.Shortest
import Mathlib.Tactic.Linarith
import Mathlib.Tactic.Ring

/-!
# Rounding to the nearest number

The codes of a format count its magnitudes. From code to code the magnitude grows by a power of two,
which doubles whenever the leading digits have run through all of their values. A quotient that lies
nearer to the magnitude of a code than to those of the codes around it is rounded to that code.
-/
namespace Findings.Number

/-- The nearest whole number to a quotient is within half of one, and even in the middle. -/
lemma roundDiv_eq {n d r : Nat} (hd : 0 < d) (hlow : 2 * (r * d) ≤ 2 * n + d)
    (hhigh : 2 * n ≤ 2 * (r * d) + d)
    (hodd : r % 2 = 1 → 2 * (r * d) < 2 * n + d ∧ 2 * n < 2 * (r * d) + d) :
    roundDiv n d = r := by
  have hn : n / d * d + n % d = n := Nat.div_add_mod' n d
  have hrest : n % d < d := Nat.mod_lt n hd
  have hnear : r = n / d ∨ r = n / d + 1 := by
    have hupper : r < n / d + 2 := by
      refine Nat.lt_of_mul_lt_mul_right (a := d) ?_
      rw [Nat.add_mul]
      omega
    have hlower : n / d < r + 1 := by
      refine Nat.lt_of_mul_lt_mul_right (a := d) ?_
      rw [Nat.add_mul]
      omega
    omega
  simp only [roundDiv]
  generalize n / d = q at *
  generalize n % d = rest at *
  rcases hnear with rfl | rfl
  · split_ifs <;> omega
  · rw [Nat.add_mul] at hlow hhigh hodd
    split_ifs <;> omega

namespace Binary

variable {f : Format}

/-- The magnitude of a code is some leading digits times a power of two. -/
lemma units_eq {shift leading : Nat} (hmost : leading ≤ 2 * 2 ^ f.fractionBits)
    (hleast : shift = 0 ∨ 2 ^ f.fractionBits ≤ leading) (negative : Bool) :
    (⟨negative, shift * 2 ^ f.fractionBits + leading⟩ : Binary f).units = leading * 2 ^ shift := by
  have hpos : 0 < 2 ^ f.fractionBits := Nat.two_pow_pos _
  simp only [units, Nat.pow_eq]
  generalize 2 ^ f.fractionBits = base at *
  rcases Nat.lt_or_ge leading base with hsmall | hlarge
  · obtain rfl : shift = 0 := hleast.resolve_right (Nat.not_le.mpr hsmall)
    simp [Nat.div_eq_of_lt hsmall, Nat.mod_eq_of_lt hsmall]
  · obtain ⟨rest, rfl⟩ := Nat.exists_eq_add_of_le hlarge
    have hcode : shift * base + (base + rest) = rest + (shift + 1) * base := by ring
    rw [hcode, Nat.add_mul_div_right _ _ hpos, Nat.add_mul_mod_self_right]
    rcases Nat.lt_or_ge rest base with hinner | hend
    · simp [Nat.div_eq_of_lt hinner, Nat.mod_eq_of_lt hinner]
    · obtain rfl : rest = base := by omega
      have hexponent : rest / rest + (shift + 1) = shift + 2 := by
        rw [Nat.div_self hpos]
        omega
      simp only [hexponent, Nat.mod_self, Nat.add_zero]
      have hless : shift + 2 - 1 = shift + 1 := rfl
      rw [if_neg (by omega), hless, Nat.pow_succ]
      ring

/-- The leading digits of a code and the power of two behind them. -/
structure IsPlace (f : Format) (code shift leading : Nat) : Prop where
  code : code = shift * 2 ^ f.fractionBits + leading
  lt : leading < 2 * 2 ^ f.fractionBits
  /-- Only the smallest power has fewer digits. -/
  least : shift = 0 ∨ 2 ^ f.fractionBits ≤ leading

lemma exists_isPlace (f : Format) (code : Nat) :
    ∃ shift leading, IsPlace f code shift leading := by
  have hpos : 0 < 2 ^ f.fractionBits := Nat.two_pow_pos _
  have hcode := Nat.div_add_mod' code (2 ^ f.fractionBits)
  have hrest : code % 2 ^ f.fractionBits < 2 ^ f.fractionBits := Nat.mod_lt _ hpos
  cases hquotient : code / 2 ^ f.fractionBits with
  | zero =>
    rw [hquotient, Nat.zero_mul] at hcode
    exact ⟨0, _, by rw [Nat.zero_mul, hcode], by omega, .inl rfl⟩
  | succ shift =>
    rw [hquotient, Nat.add_mul] at hcode
    exact ⟨shift, 2 ^ f.fractionBits + code % 2 ^ f.fractionBits, by omega, by omega,
      .inr (Nat.le_add_right _ _)⟩

namespace IsPlace

variable {code shift leading : Nat} {negative : Bool}

lemma units (h : IsPlace f code shift leading) :
    (⟨negative, code⟩ : Binary f).units = leading * 2 ^ shift := by
  rw [h.code]
  exact units_eq (Nat.le_of_lt h.lt) h.least negative

lemma units_succ (h : IsPlace f code shift leading) :
    (⟨negative, code + 1⟩ : Binary f).units = (leading + 1) * 2 ^ shift := by
  rw [h.code, Nat.add_assoc]
  exact units_eq h.lt (h.least.imp_right fun hle => by omega) negative

/-- Below a code the step is the same, unless the code has the first leading digits of its power. -/
lemma units_pred (h : IsPlace f code shift leading)
    (hinner : shift = 0 ∨ 2 ^ f.fractionBits < leading) :
    (⟨negative, code - 1⟩ : Binary f).units = (leading - 1) * 2 ^ shift := by
  have hcode : code - 1 = shift * 2 ^ f.fractionBits + (leading - 1) := by
    rw [h.code]
    rcases hinner with rfl | hinner
    · omega
    · exact Nat.add_sub_assoc (Nat.zero_lt_of_lt hinner) _
  have hlt := h.lt
  rw [hcode]
  exact units_eq (by omega) (hinner.imp_right fun hlt => by omega) negative

/-- Below the first code of a power of two the step is half as large. -/
lemma units_pred_first (h : IsPlace f code (shift + 1) (2 ^ f.fractionBits)) :
    (⟨negative, code - 1⟩ : Binary f).units = (2 * 2 ^ f.fractionBits - 1) * 2 ^ shift := by
  have hpos : 0 < 2 ^ f.fractionBits := Nat.two_pow_pos _
  have hcode : code - 1 = shift * 2 ^ f.fractionBits + (2 * 2 ^ f.fractionBits - 1) := by
    rw [h.code, Nat.add_mul]
    omega
  rw [hcode]
  exact units_eq (by omega) (.inr (by omega)) negative

/-- The steps on both sides of a code are equal, unless it is the first one of its power. -/
lemma inner_or_first (h : IsPlace f code shift leading) :
    (shift = 0 ∨ 2 ^ f.fractionBits < leading) ∨
      ∃ less, shift = less + 1 ∧ leading = 2 ^ f.fractionBits := by
  rcases h.least with hshift | hleast
  · exact .inl (.inl hshift)
  · rcases Nat.lt_or_eq_of_le hleast with hinner | hfirst
    · exact .inl (.inr hinner)
    · cases shift with
      | zero => exact .inl (.inl rfl)
      | succ less => exact .inr ⟨less, rfl, hfirst.symm⟩

/-- Only zero has no leading digits. -/
lemma leading_ne_zero (h : IsPlace f code shift leading) (hcode : code ≠ 0) : leading ≠ 0 := by
  rintro rfl
  rcases h.least with rfl | hleast
  · exact hcode (by rw [h.code, Nat.zero_mul])
  · exact absurd (Nat.two_pow_pos f.fractionBits) (Nat.not_lt.mpr hleast)

end IsPlace

lemma units_ne_zero {x : Binary f} (hx : x.code ≠ 0) : x.units ≠ 0 := by
  obtain ⟨negative, code⟩ := x
  obtain ⟨shift, leading, h⟩ := exists_isPlace f code
  rw [h.units]
  exact Nat.mul_ne_zero (h.leading_ne_zero hx) (Nat.ne_of_gt (Nat.two_pow_pos _))

/-- A quotient with as many binary digits as a code has leading ones is rounded at that power. -/
lemma roundCode_eq {n d shift leading : Nat} (hd : 0 < d)
    (hleast : shift = 0 ∨ 2 ^ f.fractionBits * (d * 2 ^ shift) ≤ n)
    (hmost : n < 2 * 2 ^ f.fractionBits * (d * 2 ^ shift))
    (hround : roundDiv n (d * 2 ^ shift) = leading) :
    roundCode f n d = shift * 2 ^ f.fractionBits + leading := by
  have hpower : 2 ^ (f.fractionBits + shift) = 2 ^ f.fractionBits * 2 ^ shift := Nat.pow_add ..
  have hlog : (n / d).log2 - f.fractionBits = shift := by
    have hlt : n / d < 2 ^ (f.fractionBits + shift + 1) := by
      refine Nat.div_lt_of_lt_mul (hmost.trans_eq ?_)
      rw [Nat.pow_succ, hpower]
      ring
    have hupper : (n / d).log2 < f.fractionBits + shift + 1 := by
      by_cases hzero : n / d = 0
      · rw [hzero, Nat.log2_zero]
        exact Nat.succ_pos _
      · exact (Nat.log2_lt hzero).mpr hlt
    rcases hleast with rfl | hleast
    · omega
    · have hle : 2 ^ (f.fractionBits + shift) ≤ n / d := by
        refine (Nat.le_div_iff_mul_le hd).mpr (Eq.trans_le ?_ hleast)
        rw [hpower]
        ring
      have hzero : n / d ≠ 0 := Nat.ne_of_gt ((Nat.two_pow_pos _).trans_le hle)
      have hlower := (Nat.le_log2 hzero).mpr hle
      omega
  simp only [roundCode, Nat.pow_eq, hlog, hround]

/-- A quotient within half a step around a code is rounded to it. -/
lemma roundCode_of_near {n d shift leading : Nat} (hd : 0 < d)
    (hleast : shift = 0 ∨ 2 ^ f.fractionBits * (d * 2 ^ shift) ≤ n)
    (hmost : n < 2 * 2 ^ f.fractionBits * (d * 2 ^ shift))
    (hlow : 2 * (leading * (d * 2 ^ shift)) ≤ 2 * n + d * 2 ^ shift)
    (hhigh : 2 * n ≤ 2 * (leading * (d * 2 ^ shift)) + d * 2 ^ shift)
    (hodd : leading % 2 = 1 → 2 * (leading * (d * 2 ^ shift)) < 2 * n + d * 2 ^ shift ∧
      2 * n < 2 * (leading * (d * 2 ^ shift)) + d * 2 ^ shift) :
    roundCode f n d = shift * 2 ^ f.fractionBits + leading :=
  roundCode_eq hd hleast hmost
    (roundDiv_eq (Nat.mul_pos hd (Nat.two_pow_pos _)) hlow hhigh hodd)

/-- Between codes with equal steps on both sides. -/
lemma roundCode_of_inner {code n d shift leading : Nat} (hd : 0 < d)
    (h : IsPlace f code shift leading) (hinner : shift = 0 ∨ 2 ^ f.fractionBits < leading)
    (hlow : ((leading - 1) * 2 ^ shift + leading * 2 ^ shift) * d ≤ 2 * n)
    (hhigh : 2 * n ≤ (leading * 2 ^ shift + (leading + 1) * 2 ^ shift) * d)
    (hodd : leading % 2 = 1 → ((leading - 1) * 2 ^ shift + leading * 2 ^ shift) * d < 2 * n ∧
      2 * n < (leading * 2 ^ shift + (leading + 1) * 2 ^ shift) * d) :
    roundCode f n d = code := by
  have hstep : 0 < d * 2 ^ shift := Nat.mul_pos hd (Nat.two_pow_pos _)
  have habove : (leading * 2 ^ shift + (leading + 1) * 2 ^ shift) * d =
      2 * (leading * (d * 2 ^ shift)) + d * 2 ^ shift := by ring
  have hbelow : 2 * (leading * (d * 2 ^ shift)) ≤
      ((leading - 1) * 2 ^ shift + leading * 2 ^ shift) * d + d * 2 ^ shift := by
    cases leading with
    | zero => omega
    | succ less =>
      refine Nat.le_of_eq ?_
      rw [Nat.add_sub_cancel]
      ring
  have hmost : (leading + 1) * (d * 2 ^ shift) ≤ 2 * 2 ^ f.fractionBits * (d * 2 ^ shift) :=
    Nat.mul_le_mul_right _ h.lt
  rw [Nat.add_mul] at hmost
  rw [h.code]
  refine roundCode_of_near hd (hinner.imp_right fun hlt => ?_) (by omega) (by omega) (by omega)
    fun hleading => ?_
  · have hleast : (2 ^ f.fractionBits + 1) * (d * 2 ^ shift) ≤ leading * (d * 2 ^ shift) :=
      Nat.mul_le_mul_right _ hlt
    rw [Nat.add_mul] at hleast
    omega
  · have hstrict := hodd hleading
    omega

/-- Around the first code of a power of two, below which the step is half as large. -/
lemma roundCode_of_first {code n d shift : Nat} (hd : 0 < d) (heven : 2 ^ f.fractionBits % 2 = 0)
    (h : IsPlace f code (shift + 1) (2 ^ f.fractionBits))
    (hlow : ((2 * 2 ^ f.fractionBits - 1) * 2 ^ shift + 2 ^ f.fractionBits * 2 ^ (shift + 1)) * d ≤
      2 * n)
    (hhigh : 2 * n ≤
      (2 ^ f.fractionBits * 2 ^ (shift + 1) + (2 ^ f.fractionBits + 1) * 2 ^ (shift + 1)) * d) :
    roundCode f n d = code := by
  have hbase : 0 < 2 ^ f.fractionBits := Nat.two_pow_pos _
  have hodd {leading : Nat} (hleading : leading % 2 = 0) {p : Prop} : leading % 2 = 1 → p :=
    fun h => absurd (hleading.symm.trans h) (by decide)
  have htwice : d * 2 ^ (shift + 1) = 2 * (d * 2 ^ shift) := by ring
  have hstep : 0 < d * 2 ^ shift := Nat.mul_pos hd (Nat.two_pow_pos _)
  have habove : (2 ^ f.fractionBits * 2 ^ (shift + 1) +
      (2 ^ f.fractionBits + 1) * 2 ^ (shift + 1)) * d =
        4 * (2 ^ f.fractionBits * (d * 2 ^ shift)) + 2 * (d * 2 ^ shift) := by ring
  have hbelow : ((2 * 2 ^ f.fractionBits - 1) * 2 ^ shift +
      2 ^ f.fractionBits * 2 ^ (shift + 1)) * d + d * 2 ^ shift =
        4 * (2 ^ f.fractionBits * (d * 2 ^ shift)) := by
    obtain ⟨less, hless⟩ := Nat.exists_eq_add_of_le' hbase
    have hminus : 2 * 2 ^ f.fractionBits - 1 = 2 * less + 1 := by omega
    rw [hminus, hless]
    ring
  have hwhole : d * 2 ^ shift ≤ 2 ^ f.fractionBits * (d * 2 ^ shift) :=
    Nat.le_mul_of_pos_left _ hbase
  have hassoc : 2 * 2 ^ f.fractionBits * (d * 2 ^ shift) =
      2 * (2 ^ f.fractionBits * (d * 2 ^ shift)) := Nat.mul_assoc ..
  rw [h.code]
  by_cases hge : 2 ^ f.fractionBits * (d * 2 ^ (shift + 1)) ≤ n
  · have hmost : 2 * 2 ^ f.fractionBits * (d * 2 ^ (shift + 1)) =
        4 * (2 ^ f.fractionBits * (d * 2 ^ shift)) := by ring
    have hnear : 2 ^ f.fractionBits * (d * 2 ^ (shift + 1)) =
        2 * (2 ^ f.fractionBits * (d * 2 ^ shift)) := by ring
    exact roundCode_of_near hd (.inr hge) (by omega) (by omega) (by omega) (hodd heven)
  · -- just below, the quotient is rounded up with the digits of the smaller power
    have hcode : (shift + 1) * 2 ^ f.fractionBits + 2 ^ f.fractionBits =
        shift * 2 ^ f.fractionBits + 2 * 2 ^ f.fractionBits := by ring
    have hnear : 2 ^ f.fractionBits * (d * 2 ^ (shift + 1)) =
        2 * (2 ^ f.fractionBits * (d * 2 ^ shift)) := by ring
    rw [hcode]
    exact roundCode_of_near hd (.inr (by omega)) (by omega) (by omega) (by omega)
      (hodd (Nat.mul_mod_right 2 _))

/-- A quotient in the span of a number is rounded to it. -/
theorem roundCode_of_span {x : Binary f} (hbits : 1 ≤ f.fractionBits) {n d : Nat} (hd : 0 < d)
    (hlow : (Span.ofBinary x).low * d ≤ 2 * n) (hhigh : 2 * n ≤ (Span.ofBinary x).high * d)
    (hopen : (Span.ofBinary x).closed = false →
      (Span.ofBinary x).low * d < 2 * n ∧ 2 * n < (Span.ofBinary x).high * d) :
    roundCode f n d = x.code := by
  obtain ⟨negative, code⟩ := x
  obtain ⟨shift, leading, h⟩ := exists_isPlace f code
  have heven : 2 ^ f.fractionBits % 2 = 0 := by
    obtain ⟨bits, hbits⟩ := Nat.exists_eq_add_of_le' hbits
    rw [hbits, Nat.pow_succ]
    omega
  have hparity : code % 2 = leading % 2 := by
    obtain ⟨half, hhalf⟩ := Nat.dvd_of_mod_eq_zero heven
    have hshift : shift * 2 ^ f.fractionBits = 2 * (shift * half) := by rw [hhalf]; ring
    have hcode := h.code
    omega
  have hodd : leading % 2 = 1 → (Span.ofBinary (⟨negative, code⟩ : Binary f)).closed = false := by
    intro hleading
    simp [Span.ofBinary, hparity, hleading]
  obtain hinner | ⟨less, rfl, rfl⟩ := h.inner_or_first
  · simp only [Span.ofBinary, h.units, h.units_succ, h.units_pred hinner] at hlow hhigh hopen
    exact roundCode_of_inner hd h hinner hlow hhigh fun hleading => hopen (hodd hleading)
  · simp only [Span.ofBinary, h.units, h.units_succ, h.units_pred_first] at hlow hhigh
    exact roundCode_of_first hd heven h hlow hhigh

end Binary

end Findings.Number
