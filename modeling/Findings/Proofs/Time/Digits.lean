import Findings.Time.Printer
import Findings.Time.Reader
import Mathlib.Algebra.Group.Nat.Defs
import Mathlib.Tactic.Common

/-!
# Reading numbers of a timestamp back

A number is written with zeros in front up to a width. It is read back from as many digits, and
what stands behind it stays.
-/
namespace Findings.Time

open Findings.Text

/-- What stands behind a number that has no fixed width: it does not go on with a digit. -/
def EndsDigits (rest : List Char) : Prop := ∀ c ∈ rest.head?, c.isDigit = false

lemma isBlank_of_isDigit {c : Char} (h : c.isDigit = true) : isBlank c = false := by
  have hrange : 48 ≤ c.toNat ∧ c.toNat ≤ 57 := by
    simpa [Char.isDigit, UInt32.le_iff_toNat_le] using h
  simp only [isBlank, Bool.or_eq_false_iff, Bool.and_eq_false_iff, decide_eq_false_iff_not,
    beq_eq_false_iff_ne]
  omega

lemma isDigit_of_mem_padded {width n : Nat} {c : Char} (h : c ∈ padded width n) :
    c.isDigit = true := by
  rcases List.mem_append.mp h with h | h
  · rw [List.eq_of_mem_replicate h]
    rfl
  · exact Nat.isDigit_of_mem_toDigits (by decide) (by decide) h

lemma padded_ne_nil (width n : Nat) : padded width n ≠ [] := by
  intro h
  exact Nat.toDigits_ne_nil (List.append_eq_nil_iff.mp h).2

@[simp] lemma ofDigitChars_padded (width n : Nat) : Nat.ofDigitChars 10 (padded width n) 0 = n := by
  simp only [padded, Nat.ofDigitChars_append, Nat.ofDigitChars_replicate_zero, Nat.mul_zero,
    Nat.ofDigitChars_ten_toDigits]

lemma length_padded {width n : Nat} (hwidth : 0 < width) (hn : n < 10 ^ width) :
    (padded width n).length = width := by
  have hlength := (Nat.length_toDigits_le_iff (b := 10) (by decide) hwidth).mpr hn
  simp only [padded, List.length_append, List.length_replicate]
  omega

/-- Digits are read up to the end of the number or to the most that are wanted. -/
theorem digits?_append {most : Nat} {digits rest : List Char} (hne : digits ≠ [])
    (hdigits : ∀ c ∈ digits, c.isDigit = true) (hmost : digits.length ≤ most)
    (hrest : digits.length = most ∨ EndsDigits rest) :
    digits? most (digits ++ rest) = some (Nat.ofDigitChars 10 digits 0, rest) := by
  have htaken : ((digits ++ rest).take most).takeWhile Char.isDigit = digits := by
    rw [List.take_append, List.take_of_length_le hmost, List.takeWhile_append_of_pos hdigits]
    have hnone : (rest.take (most - digits.length)).takeWhile Char.isDigit = [] := by
      rcases hrest with hlength | hends
      · simp [hlength]
      · cases hrest : rest with
        | nil => simp
        | cons c later =>
          have hc : c.isDigit = false := hends c (by simp [hrest])
          cases most - digits.length with
          | zero => rfl
          | succ count => rw [List.take_succ_cons, List.takeWhile_cons_of_neg (by simp [hc])]
    rw [hnone, List.append_nil]
  have hempty : digits.isEmpty = false := by simpa using hne
  simp only [digits?, htaken, hempty, Bool.false_eq_true, if_false, List.drop_left,
    Nat.ofDigitChars_eq_foldl]

/-- A number of exactly as many digits as are wanted. -/
lemma digits?_padded {width n : Nat} (hwidth : 0 < width) (hn : n < 10 ^ width)
    (rest : List Char) : digits? width (padded width n ++ rest) = some (n, rest) := by
  have hlength := length_padded hwidth hn
  rw [digits?_append (padded_ne_nil width n) (fun c => isDigit_of_mem_padded) (by omega)
    (.inl hlength), ofDigitChars_padded]

/-- A number of any digits in front of what is no digit. -/
lemma digits?_padded_all {width n : Nat} {rest : List Char} (hrest : EndsDigits rest) :
    digits? (padded width n ++ rest).length (padded width n ++ rest) = some (n, rest) := by
  rw [digits?_append (padded_ne_nil width n) (fun c => isDigit_of_mem_padded) (by simp)
    (.inr hrest), ofDigitChars_padded]

lemma skipBlank_cons {c : Char} {rest : List Char} (h : isBlank c = false) :
    skipBlank (c :: rest) = c :: rest := by
  rw [skipBlank, List.dropWhile_cons_of_neg (by simp [h])]

lemma exists_digit_padded (width n : Nat) :
    ∃ c later, padded width n = c :: later ∧ c.isDigit = true := by
  obtain ⟨c, later, hcons⟩ := List.exists_cons_of_ne_nil (padded_ne_nil width n)
  exact ⟨c, later, hcons, isDigit_of_mem_padded (hcons ▸ List.mem_cons_self)⟩

@[simp] lemma skipBlank_padded (width n : Nat) (rest : List Char) :
    skipBlank (padded width n ++ rest) = padded width n ++ rest := by
  obtain ⟨c, later, hcons, hdigit⟩ := exists_digit_padded width n
  rw [hcons, List.cons_append, skipBlank_cons (isBlank_of_isDigit hdigit)]

@[simp] lemma pair?_padded {n : Nat} (hn : n < 100) (rest : List Char) :
    pair? (padded 2 n ++ rest) = some (n, rest) := by
  rw [pair?, skipBlank_padded, digits?_padded (by decide) hn]

end Findings.Time
