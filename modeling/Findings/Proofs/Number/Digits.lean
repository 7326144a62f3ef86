import Findings.Number.Decimal
import Findings.Number.Shortest
import Mathlib.Tactic.Common
import Mathlib.Tactic.Ring

/-!
# Decimal digits

The digits of a number are read back as the number. A number in positional digits has no zeros in
front of its whole part, and its digits without the point are its decimal digits.
-/
namespace Findings.Number

/-- The digits of the whole part of a number. -/
structure IsWhole (digits : List Char) : Prop where
  digit : ∀ c ∈ digits, c.isDigit = true
  ne_nil : digits ≠ []
  /-- A zero in front is the only digit. -/
  zero : digits.head? = some '0' → digits = ['0']

/-! ### Whole numbers -/

lemma digitsValue_eq (digits : List Char) : digitsValue digits = Nat.ofDigitChars 10 digits 0 := rfl

lemma digitsValue_toDigits (n : Nat) : digitsValue (Nat.toDigits 10 n) = n :=
  Nat.ofDigitChars_ten_toDigits

lemma digitsValue_zeros (count : Nat) (digits : List Char) :
    digitsValue (List.replicate count '0' ++ digits) = digitsValue digits := by
  rw [digitsValue_eq, Nat.ofDigitChars_append, Nat.ofDigitChars_replicate_zero, Nat.mul_zero]
  rfl

lemma digitsValue_append_zeros (digits : List Char) (count : Nat) :
    digitsValue (digits ++ List.replicate count '0') = digitsValue digits * 10 ^ count := by
  rw [digitsValue_eq, Nat.ofDigitChars_append, Nat.ofDigitChars_replicate_zero, Nat.mul_comm]
  rfl

lemma isDigit_toDigits (n : Nat) : ∀ c ∈ Nat.toDigits 10 n, c.isDigit = true := fun _ =>
  Nat.isDigit_of_mem_toDigits (by decide) (by decide)

lemma isDigit_zeros (count : Nat) : ∀ c ∈ List.replicate count '0', c.isDigit = true := by
  intro c hc
  rw [List.eq_of_mem_replicate hc]
  rfl

/-- Only zero begins with a zero. -/
lemma head?_toDigits {n : Nat} (hn : n ≠ 0) : (Nat.toDigits 10 n).head? ≠ some '0' := by
  induction n using Nat.strongRecOn with
  | ind n ih =>
    by_cases hsmall : n < 10
    · have hfirst : ∀ n < 10, n ≠ 0 → n.digitChar ≠ '0' := by decide
      rw [Nat.toDigits_of_lt_base hsmall]
      exact fun h => hfirst n hsmall hn (Option.some.inj h)
    · have hlarge : 10 ≤ n := Nat.not_lt.mp hsmall
      have hfirst := ih (n / 10) (by omega) (by omega)
      obtain ⟨c, later, hcons⟩ :=
        List.exists_cons_of_ne_nil (Nat.toDigits_ne_nil (b := 10) (n := n / 10))
      rw [Nat.toDigits_of_base_le (by decide) hlarge]
      rw [hcons] at hfirst ⊢
      exact hfirst

lemma head?_toDigits_append {n : Nat} (hn : n ≠ 0) (rest : List Char) :
    (Nat.toDigits 10 n ++ rest).head? ≠ some '0' := by
  have hfirst := head?_toDigits hn
  obtain ⟨c, later, hcons⟩ := List.exists_cons_of_ne_nil (Nat.toDigits_ne_nil (b := 10) (n := n))
  rw [hcons] at hfirst ⊢
  exact hfirst

lemma isWhole_toDigits (n : Nat) : IsWhole (Nat.toDigits 10 n) := by
  refine ⟨isDigit_toDigits n, Nat.toDigits_ne_nil, fun hzero => ?_⟩
  by_cases hn : n = 0
  · rw [hn, Nat.toDigits_zero]
  · exact absurd hzero (head?_toDigits hn)

/-! ### Numbers with a point -/

/-- A decimal number is spelled by digits on both sides of a point. -/
structure IsPointed (whole fraction : List Char) (d : Decimal) : Prop where
  isWhole : IsWhole whole
  digit : ∀ c ∈ fraction, c.isDigit = true
  ne_nil : fraction ≠ []
  digits : digitsValue (whole ++ fraction) = d.digits
  exponent : -(fraction.length : Int) = d.exponent

/-- The same number with a digit behind the point. -/
def Decimal.pointed (d : Decimal) : Decimal :=
  if 0 ≤ d.exponent then ⟨d.digits * 10 ^ (d.exponent.toNat + 1), -1⟩ else d

/-- A whole number gets a point and a zero. -/
lemma isPointed_of_nonneg {d : Decimal} (hexponent : 0 ≤ d.exponent)
    (hzero : d.digits = 0 → d.exponent = 0) :
    IsPointed d.positional.toList ['0'] d.pointed := by
  have htext : d.positional.toList =
      Nat.toDigits 10 d.digits ++ List.replicate d.exponent.toNat '0' := by
    simp only [Decimal.positional, if_pos hexponent, String.toList_ofList]
  have hpointed : d.pointed = ⟨d.digits * 10 ^ (d.exponent.toNat + 1), -1⟩ := if_pos hexponent
  refine ⟨⟨?_, ?_, fun hhead => ?_⟩, isDigit_zeros 1, List.cons_ne_nil _ _, ?_, ?_⟩
  · rw [htext]
    exact List.forall_mem_append.mpr ⟨isDigit_toDigits _, isDigit_zeros _⟩
  · rw [htext]
    exact fun h => Nat.toDigits_ne_nil (List.append_eq_nil_iff.mp h).1
  · rw [htext] at hhead ⊢
    by_cases hdigits : d.digits = 0
    · rw [hdigits, hzero hdigits, Nat.toDigits_zero]
      rfl
    · exact absurd hhead (head?_toDigits_append hdigits _)
  · have hzeros : List.replicate d.exponent.toNat '0' ++ ['0'] =
        List.replicate (d.exponent.toNat + 1) '0' := List.replicate_succ'.symm
    rw [htext, List.append_assoc, hzeros, digitsValue_append_zeros, digitsValue_toDigits, hpointed]
  · rw [hpointed]
    rfl

/-- A number with a fraction has a point already. -/
lemma isPointed_of_neg {d : Decimal} (hexponent : d.exponent < 0) (hdigits : d.digits ≠ 0) :
    ∃ whole fraction, d.positional.toList = whole ++ '.' :: fraction ∧
      IsPointed whole fraction d.pointed := by
  have hpointed : d.pointed = d := if_neg (Int.not_le.mpr hexponent)
  obtain ⟨places, hplaces⟩ : ∃ places, places = (-d.exponent).toNat := ⟨_, rfl⟩
  obtain ⟨padded, hpadded⟩ : ∃ padded, padded =
      List.replicate (places + 1 - (Nat.toDigits 10 d.digits).length) '0' ++
        Nat.toDigits 10 d.digits := ⟨_, rfl⟩
  have htext : d.positional.toList =
      padded.take (padded.length - places) ++ '.' :: padded.drop (padded.length - places) := by
    have hplace : (-d.exponent).toNat ≠ 0 := by omega
    simp only [Decimal.positional, withPoint, if_neg (Int.not_le.mpr hexponent), if_neg hplace,
      String.toList_ofList, hpadded, hplaces]
  have hlength : padded.length = max (places + 1) (Nat.toDigits 10 d.digits).length := by
    rw [hpadded, List.length_append, List.length_replicate]
    omega
  have hdigit : ∀ c ∈ padded, c.isDigit = true := by
    rw [hpadded]
    exact List.forall_mem_append.mpr ⟨isDigit_zeros _, isDigit_toDigits _⟩
  refine ⟨_, _, htext, ⟨fun c hc => hdigit c (List.mem_of_mem_take hc), ?_, fun hhead => ?_⟩,
    fun c hc => hdigit c (List.mem_of_mem_drop hc), ?_, ?_, ?_⟩
  · rw [← List.length_pos_iff, List.length_take]
    omega
  · -- a zero stands in front only if it is the whole part
    rcases Nat.lt_or_ge places (Nat.toDigits 10 d.digits).length with hlong | hshort
    · have hnone : places + 1 - (Nat.toDigits 10 d.digits).length = 0 := by omega
      rw [hnone, List.replicate_zero, List.nil_append] at hpadded
      have htaken : (padded.take (padded.length - places)).head? = padded.head? := by
        rw [List.head?_take, if_neg (by omega)]
      rw [htaken, hpadded] at hhead
      exact absurd hhead (head?_toDigits hdigits)
    · have hone : padded.length - places = 1 := by omega
      rw [hone] at hhead ⊢
      obtain ⟨c, later, rfl⟩ := List.exists_cons_of_ne_nil
        (List.length_pos_iff.mp (by omega : 0 < padded.length))
      rw [Option.some.inj hhead]
      rfl
  · rw [← List.length_pos_iff, List.length_drop]
    omega
  · rw [List.take_append_drop, hpadded, digitsValue_zeros, digitsValue_toDigits, hpointed]
  · rw [List.length_drop, hpointed]
    omega

end Findings.Number
