import Findings.Lexical.Token
import Findings.Proofs.Lexical.Reading

/-!
# Tokens of terms

White space neither starts a token nor goes on with one. So the tokens of a text are those of its
terms, one term after the other, and the tokens of a term stand side by side in those of the text.
-/
namespace Findings.Lexical

open Findings.Text

variable {c : Char} {cs term : List Char}

def blankRanges : List (Nat × Nat) :=
  [(0x85, 0x85), (0xA0, 0xA0), (0x1680, 0x1680), (0x2000, 0x200A), (0x2028, 0x2029),
    (0x202F, 0x202F), (0x205F, 0x205F), (0x3000, 0x3000)]

lemma exists_range_of_isBlank (h : isBlank c = true) (habove : 128 ≤ c.toNat) :
    ∃ range ∈ blankRanges, range.1 ≤ c.toNat ∧ c.toNat ≤ range.2 := by
  simp only [isBlank, Bool.or_eq_true, Bool.and_eq_true, decide_eq_true_eq, beq_iff_eq] at h
  simp only [blankRanges, List.mem_cons, List.not_mem_nil, or_false, exists_eq_or_imp,
    existsAndEq, true_and]
  omega

/-- White space above ASCII separates tokens. -/
lemma contains_separatorRanges_of_isBlank (h : isBlank c = true) (habove : 128 ≤ c.toNat) :
    separatorRanges.contains c.toNat = true := by
  have hcovers : ∀ range ∈ blankRanges, ∃ wider ∈ separatorRanges.toList,
      wider.1 ≤ range.1 ∧ range.2 ≤ wider.2 := by
    decide +kernel
  obtain ⟨range, hrange, hlow, hhigh⟩ := exists_range_of_isBlank h habove
  obtain ⟨wider, hwider, hlow', hhigh'⟩ := hcovers range hrange
  exact Ranges.contains_iff.mpr
    ⟨wider, Array.mem_toList_iff.mp hwider, Nat.le_trans hlow' hlow, Nat.le_trans hhigh hhigh'⟩

lemma not_isAlphanum_of_isBlank (h : isBlank c = true) : c.isAlphanum = false := by
  rw [Bool.eq_false_iff]
  intro hascii
  have hascii : ((decide (c.val ≥ 'A'.val ∧ c.val ≤ 'Z'.val) ||
      (decide (c.val ≥ 'a'.val) && decide (c.val ≤ 'z'.val))) ||
      (decide (c.val ≥ '0'.val) && decide (c.val ≤ '9'.val))) = true := hascii
  simp only [Bool.or_eq_true, Bool.and_eq_true, decide_eq_true_eq, UInt32.le_iff_toNat_le,
    ge_iff_le, Char.toNat_val, Char.reduceToNat] at hascii
  simp only [isBlank, Bool.or_eq_true, Bool.and_eq_true, decide_eq_true_eq, beq_iff_eq] at h
  omega

/-- No white space is a combining diacritic: they all lie between two of its ranges. -/
lemma not_isDiacritic_of_isBlank (h : isBlank c = true) : isDiacritic c = false := by
  have hbetween : ∀ range ∈ diacriticRanges.toList, 0xA0 < range.1 ∧ range.2 < 0x1680 := by
    decide +kernel
  rw [isDiacritic, Bool.eq_false_iff, ne_eq, Ranges.contains_iff]
  rintro ⟨range, hrange, hlow, hhigh⟩
  have hinside := hbetween range (Array.mem_toList_iff.mpr hrange)
  simp only [isBlank, Bool.or_eq_true, Bool.and_eq_true, decide_eq_true_eq, beq_iff_eq] at h
  omega

/-- White space is no part of a token. -/
lemma ends_token_of_isBlank (h : isBlank c = true) :
    startsToken c = false ∧ isDiacritic c = false := by
  refine ⟨?_, not_isDiacritic_of_isBlank h⟩
  by_cases habove : 128 ≤ c.toNat
  · simp [startsToken, not_isAlphanum_of_isBlank h, contains_separatorRanges_of_isBlank h habove]
  · simp [startsToken, not_isAlphanum_of_isBlank h, habove]

/-- A text has a first term. -/
lemma exists_cons_terms (cs : List Char) : ∃ first rest, terms cs = first :: rest :=
  List.exists_cons_of_ne_nil (List.splitOnP_ne_nil isBlank cs)

lemma consRun_eq_append (reversed : Run) (later : List Run) :
    consRun reversed later = consRun reversed [] ++ later := by
  unfold consRun
  split <;> rfl

/-- A run that may go on stays open over the first term of a text and no further. -/
lemma runsAfter_terms (cs : List Char) {first : List Char} {rest : List (List Char)}
    (hterms : terms cs = first :: rest) (reversed : Run) :
    runsAfter reversed cs = runsAfter reversed first ++ rest.flatMap (runsAfter []) := by
  induction cs generalizing first rest reversed with
  | nil =>
    obtain ⟨rfl, rfl⟩ := List.cons.inj (hterms : [[]] = first :: rest)
    simp
  | cons c cs ih =>
    obtain ⟨next, later, hlater⟩ := exists_cons_terms cs
    rw [terms_cons, hlater] at hterms
    cases hblank : isBlank c with
    | true =>
      obtain ⟨hstarts, hmark⟩ := ends_token_of_isBlank hblank
      rw [if_pos hblank] at hterms
      obtain ⟨rfl, rfl⟩ := List.cons.inj hterms
      have hcloses : runsAfter reversed (c :: cs) = consRun reversed (runsAfter [] cs) := by
        simp [runsAfter, hstarts, hmark]
      rw [hcloses, consRun_eq_append, ih hlater, List.flatMap_cons]
      rfl
    | false =>
      rw [hblank, if_neg Bool.false_ne_true, List.modifyHead_cons] at hterms
      obtain ⟨rfl, rfl⟩ := List.cons.inj hterms
      rw [runsAfter, runsAfter]
      split_ifs
      · exact ih hlater _
      · exact ih hlater _
      · rw [ih hlater, consRun_eq_append, consRun_eq_append reversed (runsAfter [] next),
          List.append_assoc]

/-- The tokens of a text are those of its terms, one term after the other. -/
theorem tokens_eq_flatMap_terms (cs : List Char) : tokens cs = (terms cs).flatMap tokens := by
  obtain ⟨first, rest, hterms⟩ := exists_cons_terms cs
  have hruns : runsAfter [] cs = (terms cs).flatMap (runsAfter []) := by
    rw [hterms, List.flatMap_cons]
    exact runsAfter_terms cs hterms []
  rw [tokens, hruns, List.map_flatMap]
  rfl

/-- The tokens of a term stand side by side in those of its text. -/
theorem tokens_infix_of_mem_terms (h : term ∈ terms cs) : tokens term <:+: tokens cs := by
  obtain ⟨before, after, hsplit⟩ := List.append_of_mem h
  refine ⟨before.flatMap tokens, after.flatMap tokens, ?_⟩
  rw [tokens_eq_flatMap_terms cs, hsplit, List.flatMap_append, List.flatMap_cons,
    List.append_assoc]

/-- A character that starts a token leaves a run behind. -/
lemma runsAfter_ne_nil (cs : List Char) {reversed : Run}
    (h : reversed ≠ [] ∨ ∃ c ∈ cs, startsToken c = true) : runsAfter reversed cs ≠ [] := by
  have hkept : ∀ (kept : Run) later, kept ≠ [] → consRun kept later ≠ [] := by
    intro kept later hkept
    simp [consRun, hkept]
  induction cs generalizing reversed with
  | nil => exact hkept reversed [] (h.resolve_right (by simp))
  | cons c cs ih =>
    rw [runsAfter]
    split_ifs with hstarts hmark
    · exact ih (.inl (List.cons_ne_nil _ _))
    · refine ih (h.imp_right fun ⟨d, hd, hd'⟩ => ⟨d, ?_, hd'⟩)
      exact (List.mem_cons.mp hd).resolve_left fun heq => hstarts (heq ▸ hd')
    · by_cases hopen : reversed = []
      · obtain ⟨d, hd, hd'⟩ := h.resolve_left (not_not.mpr hopen)
        have hrest : ∃ d ∈ cs, startsToken d = true :=
          ⟨d, (List.mem_cons.mp hd).resolve_left fun heq => hstarts (heq ▸ hd'), hd'⟩
        rw [consRun_eq_append]
        exact List.append_ne_nil_of_right_ne_nil _ (ih (.inr hrest))
      · exact hkept _ _ hopen

/-- A text with an ASCII letter or digit has tokens. -/
lemma tokens_ne_nil_of_ascii (hc : c ∈ cs) (hascii : c.isAlphanum = true) : tokens cs ≠ [] := by
  have hruns : runsAfter [] cs ≠ [] :=
    runsAfter_ne_nil cs (.inr ⟨c, hc, startsToken_of_ascii hascii⟩)
  exact fun hnone => hruns (List.map_eq_nil_iff.mp hnone)

end Findings.Lexical
