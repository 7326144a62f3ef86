import Findings.Proofs.Number.Digits
import Findings.Proofs.Number.Rounding
import Mathlib.Algebra.Order.Field.Basic
import Mathlib.Data.Rat.Cast.Order
import Mathlib.Tactic.FieldSimp
import Mathlib.Tactic.Positivity

/-!
# The shortest digits read back

The digits of a number are searched for on finer and finer decimal grids. What is found lies in the
span of the number, and the grid with seventeen digits is so fine that something is found. Reading
rounds everything in the span to the number.
-/
namespace Findings.Number

variable {f : Format} {span : Span} {d : Decimal}

/-! ### Values -/

namespace Decimal

def value (d : Decimal) : ℚ := d.digits * 10 ^ d.exponent

lemma strip_spec (fuel : Nat) (d : Decimal) :
    (d.strip fuel).value = d.value ∧ (d.digits ≠ 0 → (d.strip fuel).digits ≠ 0) := by
  induction fuel generalizing d with
  | zero => exact ⟨rfl, id⟩
  | succ fuel ih =>
    rw [strip]
    split_ifs with hzero
    · simp only [Bool.and_eq_true, decide_eq_true_eq] at hzero
      obtain ⟨tenth, htenth⟩ := Nat.dvd_of_mod_eq_zero hzero.2
      obtain ⟨hvalue, hdigits⟩ := ih ⟨d.digits / 10, d.exponent + 1⟩
      have hdiv : d.digits / 10 = tenth := by omega
      rw [hvalue]
      refine ⟨?_, fun _ => hdigits (by simp only; omega)⟩
      rw [value, value, hdiv, htenth, zpow_add_one₀ (by norm_num)]
      push_cast
      ring
    · exact ⟨rfl, id⟩

lemma value_pointed (d : Decimal) : d.pointed.value = d.value := by
  unfold pointed
  split_ifs with hexponent
  · obtain ⟨exponent, hnat⟩ := Int.eq_ofNat_of_zero_le hexponent
    rw [value, value, hnat, Int.toNat_natCast, zpow_natCast, zpow_neg_one]
    push_cast
    rw [pow_succ]
    field_simp
  · rfl

lemma pointed_exponent (d : Decimal) : d.pointed.exponent < 0 := by
  unfold pointed
  split_ifs with hexponent
  · exact Int.negSucc_lt_zero 0
  · exact Int.not_le.mp hexponent

lemma pointed_digits (h : d.digits ≠ 0) : d.pointed.digits ≠ 0 := by
  unfold pointed
  split_ifs
  · exact Nat.mul_ne_zero h (Nat.ne_of_gt (Nat.pow_pos (by decide)))
  · exact h

end Decimal

/-! ### Grids -/

namespace Span

/-- A count of half units lies in a span. -/
structure Covers (span : Span) (halves : ℚ) : Prop where
  low : span.low ≤ halves
  high : halves ≤ span.high
  inner : span.closed = false → span.low < halves ∧ halves < span.high

lemma contains_iff {n parts : Nat} (hparts : 0 < parts) :
    span.contains n parts = true ↔ span.Covers (n / parts) := by
  have hpos : (0 : ℚ) < parts := by exact_mod_cast hparts
  have hle : (span.low * parts ≤ n ∧ n ≤ span.high * parts) ↔
      ((span.low : ℚ) ≤ n / parts ∧ (n : ℚ) / parts ≤ span.high) := by
    rw [le_div_iff₀ hpos, div_le_iff₀ hpos]
    norm_cast
  have hlt : (span.low * parts < n ∧ n < span.high * parts) ↔
      ((span.low : ℚ) < n / parts ∧ (n : ℚ) / parts < span.high) := by
    rw [lt_div_iff₀ hpos, div_lt_iff₀ hpos]
    norm_cast
  unfold contains
  cases hclosed : span.closed with
  | true =>
    simp only [if_true, Bool.and_eq_true, decide_eq_true_eq, hle]
    exact ⟨fun h => ⟨h.1, h.2, fun hopen => by cases hclosed.symm.trans hopen⟩,
      fun h => ⟨h.low, h.high⟩⟩
  | false =>
    simp only [Bool.false_eq_true, if_false, Bool.and_eq_true, decide_eq_true_eq, hlt]
    exact ⟨fun h => ⟨h.1.le, h.2.le, fun _ => h⟩, fun h => h.inner hclosed⟩

lemma bounds_of_contains {n parts : Nat} (h : span.contains n parts = true) :
    span.low * parts ≤ n ∧ n ≤ span.high * parts ∧
      (span.closed = false → span.low * parts < n ∧ n < span.high * parts) := by
  unfold contains at h
  cases hclosed : span.closed with
  | true => simpa [hclosed] using h
  | false =>
    simp only [hclosed, Bool.false_eq_true, if_false, Bool.and_eq_true, decide_eq_true_eq] at h
    exact ⟨h.1.le, h.2.le, fun _ => h⟩

end Span

/-- The half units of one step of a decimal grid, over `gridParts`. -/
def gridUnits (f : Format) (exponent : Int) : Nat :=
  (if 0 ≤ exponent then Nat.pow 10 exponent.toNat else 1) * (2 * f.one)

/-- In how many parts a step of a decimal grid divides its half units. -/
def gridParts (exponent : Int) : Nat := if 0 ≤ exponent then 1 else Nat.pow 10 (-exponent).toNat

lemma gridParts_pos (exponent : Int) : 0 < gridParts exponent := by
  unfold gridParts
  split_ifs
  · decide
  · exact Nat.pow_pos (by decide)

lemma gridUnits_pos (f : Format) (exponent : Int) : 0 < gridUnits f exponent := by
  have hone : 0 < f.one := Nat.two_pow_pos _
  refine Nat.mul_pos ?_ (Nat.mul_pos (by decide) hone)
  split_ifs
  · exact Nat.pow_pos (by decide)
  · exact Nat.one_pos

lemma gridUnits_div (f : Format) (exponent : Int) :
    (gridUnits f exponent : ℚ) / gridParts exponent = 10 ^ exponent * (2 * f.one) := by
  unfold gridUnits gridParts
  split_ifs with hexponent
  · obtain ⟨power, hnat⟩ := Int.eq_ofNat_of_zero_le hexponent
    rw [hnat, Int.toNat_natCast, zpow_natCast]
    push_cast [Nat.pow_eq]
    ring
  · obtain ⟨power, hpower⟩ : ∃ power : Nat, exponent = -power :=
      ⟨(-exponent).toNat, by omega⟩
    rw [hpower, neg_neg, Int.toNat_natCast, zpow_neg, zpow_natCast]
    push_cast [Nat.pow_eq]
    field_simp

/-- A multiple of the step of a grid is a hit if it has a digit and lies in the span. -/
def IsHit (f : Format) (span : Span) (exponent : Int) (digits : Nat) : Prop :=
  digits ≠ 0 ∧ span.contains (digits * gridUnits f exponent) (gridParts exponent) = true

lemma onGrid_eq_some {exponent : Int} (h : onGrid f span exponent = some d) :
    IsHit f span exponent d.digits ∧ d.exponent = exponent := by
  unfold onGrid at h
  extract_lets step parts below above hasBelow hasAbove at h
  have hbelow : hasBelow = true → IsHit f span exponent below := by
    intro hhit
    have hunder : below ≠ 0 ∧ span.contains (below * step) parts = true := by
      simpa [hasBelow] using hhit
    exact hunder
  have habove : hasAbove = true → IsHit f span exponent above :=
    fun hhit => ⟨Nat.succ_ne_zero _, hhit⟩
  split_ifs at h with hboth hcloser hbelow' habove'
  · obtain rfl := Option.some.inj h
    exact ⟨hbelow (Bool.and_eq_true_iff.mp hboth).1, rfl⟩
  · obtain rfl := Option.some.inj h
    exact ⟨habove (Bool.and_eq_true_iff.mp hboth).2, rfl⟩
  · obtain rfl := Option.some.inj h
    exact ⟨hbelow hbelow', rfl⟩
  · obtain rfl := Option.some.inj h
    exact ⟨habove habove', rfl⟩

/-- There is a hit if one of the neighbours of the value is one. -/
lemma isSome_onGrid {exponent : Int} {below : Nat}
    (hbelow : below = span.value * gridParts exponent / gridUnits f exponent)
    (h : IsHit f span exponent below ∨ IsHit f span exponent (below + 1)) :
    (onGrid f span exponent).isSome = true := by
  unfold onGrid
  extract_lets step parts under above hasBelow hasAbove
  have hunder : below = under := hbelow
  have hhit : hasBelow = true ∨ hasAbove = true := by
    rw [hunder] at h
    refine h.imp (fun hhit => ?_) And.right
    have hcontains : under ≠ 0 ∧ span.contains (under * step) parts = true := hhit
    simpa [hasBelow] using hcontains
  split_ifs with hboth hcloser hbelow' habove'
  · rfl
  · rfl
  · rfl
  · rfl
  · rcases hhit with hhit | hhit
    · exact absurd hhit hbelow'
    · exact absurd hhit habove'

/-- What is found on a grid lies in the span. -/
lemma covers_of_onGrid {exponent : Int} (h : onGrid f span exponent = some d) :
    d.digits ≠ 0 ∧ span.Covers (d.value * (2 * f.one)) := by
  obtain ⟨⟨hdigits, hcontains⟩, rfl⟩ := onGrid_eq_some h
  have hcovers := (Span.contains_iff (gridParts_pos d.exponent)).mp hcontains
  rw [Nat.cast_mul, mul_div_assoc, gridUnits_div, ← mul_assoc] at hcovers
  exact ⟨hdigits, hcovers⟩

/-- A grid has a hit if it is finer than the span is wide. -/
lemma isSome_onGrid_of_fine {exponent : Int}
    (hvalue : gridUnits f exponent ≤ span.value * gridParts exponent)
    (hlow : span.low < span.value) (hhigh : span.value < span.high)
    (hfine : span.low * gridParts exponent + gridUnits f exponent <
      span.high * gridParts exponent) :
    (onGrid f span exponent).isSome = true := by
  have hparts := gridParts_pos exponent
  have hstep := gridUnits_pos f exponent
  have hlower := Nat.mul_lt_mul_of_pos_right hlow hparts
  have hupper := Nat.mul_lt_mul_of_pos_right hhigh hparts
  refine isSome_onGrid rfl ?_
  unfold IsHit Span.contains
  generalize gridParts exponent = parts at *
  generalize gridUnits f exponent = step at *
  have hbelow := Nat.div_mul_le_self (span.value * parts) step
  have habove := Nat.lt_div_mul_add (a := span.value * parts) hstep
  have hne : span.value * parts / step ≠ 0 := Nat.ne_of_gt (Nat.div_pos hvalue hstep)
  rw [Nat.add_mul, Nat.one_mul]
  generalize span.value * parts / step = below at *
  by_cases hhit : span.low * parts < below * step
  · refine .inl ⟨hne, ?_⟩
    split_ifs <;> simp <;> omega
  · refine .inr ⟨Nat.succ_ne_zero _, ?_⟩
    split_ifs <;> simp <;> omega

/-- What is found lies in the span. -/
lemma covers_of_searchGrids {leading : Int} {fuel count : Nat}
    (h : searchGrids f span leading fuel count = some d) :
    d.digits ≠ 0 ∧ span.Covers (d.value * (2 * f.one)) := by
  induction fuel generalizing count with
  | zero => cases h
  | succ fuel ih =>
    rw [searchGrids] at h
    split at h
    · obtain rfl := Option.some.inj h
      exact covers_of_onGrid ‹_›
    · exact ih h

/-- Something is found if the last grid has a hit. -/
lemma isSome_searchGrids {leading : Int} {fuel count : Nat}
    (h : (onGrid f span (leading - (count + fuel : Nat) + 1)).isSome = true) :
    (searchGrids f span leading (fuel + 1) count).isSome = true := by
  induction fuel generalizing count with
  | zero =>
    obtain ⟨decimal, hhit⟩ := Option.isSome_iff_exists.mp h
    rw [searchGrids, ← Nat.add_zero count, hhit]
    rfl
  | succ fuel ih =>
    rw [searchGrids]
    split
    · rfl
    · refine ih ?_
      rw [Nat.add_assoc, Nat.add_comm 1]
      exact h

/-! ### The first digit -/

lemma one_le_raiseToOne {units fuel start : Nat}
    (h : f.one ≤ units * 10 ^ (start + fuel)) :
    f.one ≤ units * 10 ^ raiseToOne f units fuel start := by
  induction fuel generalizing start with
  | zero => exact h
  | succ fuel ih =>
    rw [raiseToOne]
    split_ifs with hone
    · exact hone
    · refine ih ?_
      rw [Nat.add_assoc, Nat.add_comm 1]
      exact h

/-- The first digit is not above the number. -/
lemma leadingExponent_le {units : Nat} (hunits : units ≠ 0)
    (hraise : ∀ less < f.places, 2 ^ (less + 1) ≤ 10 ^ (less * 3010 / 10000 + 4)) :
    (10 : ℚ) ^ leadingExponent f units * f.one ≤ units := by
  unfold leadingExponent
  split_ifs with hone
  · obtain ⟨less, hlength⟩ : ∃ less, (Nat.toDigits 10 (units / f.one)).length = less + 1 :=
      Nat.exists_eq_succ_of_ne_zero (List.length_pos_iff.mpr Nat.toDigits_ne_nil).ne'
    have hle : 10 ^ less ≤ units / f.one := by
      by_contra hlt
      rcases Nat.eq_zero_or_pos less with rfl | hless
      · have hpos := Nat.div_pos hone (Nat.two_pow_pos _)
        omega
      · have hshort := (Nat.length_toDigits_le_iff (by decide) hless).mpr (Nat.not_le.mp hlt)
        omega
    have hunits : 10 ^ less * f.one ≤ units :=
      (Nat.mul_le_mul_right _ hle).trans (Nat.div_mul_le_self _ _)
    rw [hlength, Nat.cast_succ, add_sub_cancel_right, zpow_natCast]
    exact_mod_cast hunits
  · obtain ⟨start, hstart⟩ : ∃ start, start = (f.places - units.log2 - 1) * 3010 / 10000 :=
      ⟨_, rfl⟩
    have hlog : units.log2 < f.places := (Nat.log2_lt hunits).mpr (Nat.not_le.mp hone)
    -- 0.301 is a little less than the decimal logarithm of two; four steps make up for the rest
    have hraised : f.one ≤ units * 10 ^ (start + 4) := by
      have hpower := hraise (f.places - units.log2 - 1) (by omega)
      rw [← hstart, Nat.sub_add_cancel (by omega)] at hpower
      calc f.one = 2 ^ units.log2 * 2 ^ (f.places - units.log2) := by
            rw [← Nat.pow_add, Nat.add_sub_of_le hlog.le]
            rfl
        _ ≤ units * 10 ^ (start + 4) := Nat.mul_le_mul (Nat.log2_self_le hunits) hpower
    have hfound := one_le_raiseToOne hraised
    rw [hstart] at hfound
    rw [zpow_neg, zpow_natCast, inv_mul_le_iff₀ (by positivity), mul_comm]
    exact_mod_cast hfound

/-! ### Reading the digits back -/

/-- The span of a number is wide enough for seventeen digits. -/
lemma span_wide (hwide : 2 * 2 ^ f.fractionBits ≤ 10 ^ 16) (x : Binary f) (hx : x.code ≠ 0) :
    (Span.ofBinary x).low < (Span.ofBinary x).value ∧
      (Span.ofBinary x).value < (Span.ofBinary x).high ∧
      (Span.ofBinary x).low * 10 ^ 16 + (Span.ofBinary x).value <
        (Span.ofBinary x).high * 10 ^ 16 := by
  obtain ⟨negative, code⟩ := x
  obtain ⟨shift, leading, h⟩ := Binary.exists_isPlace f code
  have hlt := h.lt
  obtain hinner | ⟨less, rfl, rfl⟩ := h.inner_or_first
  · simp only [Span.ofBinary, h.units, h.units_succ, h.units_pred hinner]
    have hpos : 0 < 2 ^ shift := Nat.two_pow_pos _
    obtain ⟨less, rfl⟩ := Nat.exists_eq_succ_of_ne_zero (h.leading_ne_zero hx)
    have hfew := Nat.mul_lt_mul_of_pos_right (hlt.trans_le hwide) hpos
    rw [Nat.succ_sub_one]
    simp only [Nat.succ_eq_add_one, Nat.add_mul, Nat.one_mul] at hfew ⊢
    generalize less * 2 ^ shift = before at *
    generalize 2 ^ shift = step at *
    omega
  · simp only [Span.ofBinary, h.units, h.units_succ, h.units_pred_first]
    have hpos : 0 < 2 ^ less := Nat.two_pow_pos _
    have hfew := Nat.mul_le_mul_right (2 ^ less) hwide
    have hbelow : (2 * 2 ^ f.fractionBits - 1) * 2 ^ less =
        2 * (2 ^ f.fractionBits * 2 ^ less) - 2 ^ less := by
      rw [Nat.sub_mul, Nat.mul_assoc, Nat.one_mul]
    have htwice : 2 ^ f.fractionBits * 2 ^ (less + 1) = 2 * (2 ^ f.fractionBits * 2 ^ less) := by
      ring
    have hstep : 2 ^ (less + 1) = 2 * 2 ^ less := Nat.pow_succ'
    have hwhole := Nat.le_mul_of_pos_left (2 ^ less) (Nat.two_pow_pos f.fractionBits)
    rw [Nat.mul_assoc] at hfew
    rw [hbelow, Nat.add_mul, htwice, Nat.one_mul, hstep]
    generalize 2 ^ f.fractionBits * 2 ^ less = whole at *
    generalize 2 ^ less = half at *
    omega

/-- With sixteen digits behind the first one, which is not above the number, the steps of a grid are
as fine as that. -/
lemma gridUnits_le {x : Binary f} {leading : Int}
    (hleading : (10 : ℚ) ^ leading * f.one ≤ x.units) :
    gridUnits f (leading - 16) * 10 ^ 16 ≤
      (Span.ofBinary x).value * gridParts (leading - 16) := by
  have hpos : (0 : ℚ) < gridParts (leading - 16) := by exact_mod_cast gridParts_pos _
  have hgrid (unit : ℚ) : (10 : ℚ) ^ (leading - 16) * (2 * unit) * 10 ^ 16 =
      2 * (10 ^ leading * unit) := by
    rw [zpow_sub₀ (by norm_num)]
    norm_num
    ring
  have hvalue : (gridUnits f (leading - 16) : ℚ) / gridParts (leading - 16) * 10 ^ 16 ≤
      (Span.ofBinary x).value := by
    rw [gridUnits_div, hgrid, Span.ofBinary]
    push_cast
    linarith only [hleading]
  rw [div_mul_eq_mul_div, div_le_iff₀ hpos] at hvalue
  exact_mod_cast hvalue

/-- The digits of a number lie in its span. -/
lemma covers_shortest (x : Double) (hx : x.code ≠ 0) :
    (shortest x).digits ≠ 0 ∧
      (Span.ofBinary x).Covers ((shortest x).value * (2 * Format.double.one)) := by
  obtain ⟨hlow, hhigh, hwide⟩ := span_wide (by decide) x hx
  obtain ⟨leading, hdefine⟩ : ∃ leading, leading = leadingExponent .double x.units := ⟨_, rfl⟩
  have hleading : (10 : ℚ) ^ leading * Format.double.one ≤ x.units :=
    hdefine ▸ leadingExponent_le (Binary.units_ne_zero hx) (by decide +kernel)
  have hlast : leading - (1 + 16 : Nat) + 1 = leading - 16 := by omega
  have hfine := gridUnits_le hleading
  have hparts := gridParts_pos (leading - 16)
  have hfound : (searchGrids .double (Span.ofBinary x) leading (16 + 1) 1).isSome = true := by
    refine isSome_searchGrids ?_
    rw [hlast]
    refine isSome_onGrid_of_fine (by omega) hlow hhigh ?_
    have hscaled := Nat.mul_lt_mul_of_pos_right hwide hparts
    rw [Nat.add_mul, Nat.mul_right_comm, Nat.mul_right_comm _ (10 ^ 16)] at hscaled
    omega
  obtain ⟨found, hfound⟩ := Option.isSome_iff_exists.mp hfound
  obtain ⟨hdigits, hcovers⟩ := covers_of_searchGrids hfound
  have hshortest : shortest x = found.strip 20 := by
    rw [shortest, if_neg hx, ← hdefine, hfound]
    rfl
  obtain ⟨hvalue, hkeeps⟩ := Decimal.strip_spec 20 found
  rw [hshortest, hvalue]
  exact ⟨hkeeps hdigits, hcovers⟩

/-- Reading rounds to the number whose span it lies in. -/
lemma ofDecimal_of_covers {x : Binary f} (hbits : 1 ≤ f.fractionBits) (hx : x.isFinite = true)
    (hcode : x.code ≠ 0) (hexponent : d.exponent < 0) (hdigits : d.digits ≠ 0)
    (h : (Span.ofBinary x).Covers (d.value * (2 * f.one))) :
    Binary.ofDecimal x.negative d.digits d.exponent = x := by
  obtain ⟨digits, exponent⟩ := d
  obtain ⟨power, rfl⟩ : ∃ power : Nat, exponent = -power :=
    ⟨(-exponent).toNat, by simp only at hexponent; omega⟩
  have hpos : 0 < 10 ^ power := Nat.pow_pos (by decide)
  have hvalue : (⟨digits, -power⟩ : Decimal).value * (2 * f.one) =
      ((2 * (digits * f.one) : Nat) : ℚ) / ((10 ^ power : Nat) : ℚ) := by
    rw [Decimal.value, zpow_neg, zpow_natCast]
    push_cast
    ring
  rw [hvalue] at h
  obtain ⟨hlow, hhigh, hinner⟩ := Span.bounds_of_contains ((Span.contains_iff hpos).mpr h)
  -- the power of ten is not too large: the span has no number that reads as zero
  have hguard : ¬ digits.log2 + f.places + 2 < 3 * power := by
    have hpositive : 0 < (Span.ofBinary x).low :=
      Nat.add_pos_right _ (Nat.pos_of_ne_zero (Binary.units_ne_zero hcode))
    have hpowers : 2 ^ (3 * power) < 2 ^ (digits.log2 + f.places + 2) :=
      calc 2 ^ (3 * power) = 8 ^ power := Nat.pow_mul ..
        _ ≤ 10 ^ power := Nat.pow_le_pow_left (by decide) _
        _ ≤ (Span.ofBinary x).low * 10 ^ power := Nat.le_mul_of_pos_left _ hpositive
        _ ≤ 2 * (digits * f.one) := hlow
        _ < 2 * (2 ^ (digits.log2 + 1) * f.one) := by
          have hone : 0 < f.one := Nat.two_pow_pos _
          exact Nat.mul_lt_mul_of_pos_left
            (Nat.mul_lt_mul_of_pos_right Nat.lt_log2_self hone) (by decide)
        _ = 2 ^ (digits.log2 + f.places + 2) := by
          rw [Format.one, Nat.pow_eq]
          ring
    have := (Nat.pow_lt_pow_iff_right (by decide)).mp hpowers
    omega
  have hround := Binary.roundCode_of_span hbits hpos hlow hhigh hinner
  have hnegative : ¬ (0 : Int) ≤ -(power : Int) := Int.not_le.mpr hexponent
  have hmin : min f.infinity x.code = x.code :=
    Nat.min_eq_right (Nat.le_of_lt (of_decide_eq_true hx))
  simp only [Binary.ofDecimal, if_neg hdigits, if_neg hnegative, Int.neg_neg, Int.toNat_natCast,
    if_neg hguard, Binary.ofUnits, Nat.pow_eq, hround, hmin]

/-- Only zero has no digit. -/
lemma shortest_zero (x : Double) (hdigits : (shortest x).digits = 0) :
    (shortest x).exponent = 0 := by
  by_cases hx : x.code = 0
  · rw [shortest, if_pos hx]
  · exact absurd hdigits (covers_shortest x hx).1

/-- The digits of a finite number are read as the number. -/
theorem ofDecimal_shortest (x : Double) (hx : x.isFinite = true) :
    Binary.ofDecimal x.negative (shortest x).pointed.digits (shortest x).pointed.exponent = x := by
  by_cases hcode : x.code = 0
  · have hzero : shortest x = ⟨0, 0⟩ := if_pos hcode
    rw [hzero]
    obtain ⟨negative, code⟩ := x
    cases hcode
    rfl
  · obtain ⟨hdigits, hcovers⟩ := covers_shortest x hcode
    rw [← Decimal.value_pointed] at hcovers
    exact ofDecimal_of_covers (by decide) hx hcode (Decimal.pointed_exponent _)
      (Decimal.pointed_digits hdigits) hcovers

end Findings.Number
