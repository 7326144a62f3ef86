import Findings.Config.Basic
import Findings.Proofs.Fusion.Ranking
import Findings.Proofs.Number.Undefined

/-!
# Scores that are numbers

Parameters above zero are accepted, and infinity is above zero. A term of a score is a weight over a
divisor that is not zero, so it is a magnitude unless infinity is divided by infinity; a score is a
number unless one of its terms is none. The scores that are numbers are never negative and fall in
the fused list.
-/
namespace Findings

open Findings.Number

structure FusionConfig.IsPositive (config : FusionConfig) : Prop where
  constant : config.constant.isPositive = true
  vectorWeight : config.vectorWeight.isPositive = true
  lexicalWeight : config.lexicalWeight.isPositive = true

/-- What the weight of a list is divided by at a rank. -/
def FusionConfig.divisor (config : FusionConfig) (rank : Nat) : Double :=
  config.constant.add (Binary.ofNat rank)

/-- A rank gives an infinite weight over an infinite divisor. -/
def FusionConfig.IsUndefined (config : FusionConfig) (weight : Double) (rank : Option Nat) : Prop :=
  weight.isInfinite = true ∧ ∃ place ∈ rank, (config.divisor place).isInfinite = true

variable {config : FusionConfig} {vector lexical : List Int} {weight : Double} {rank : Option Nat}

lemma FusionConfig.checked_eq_ok_iff {constant vectorWeight lexicalWeight : Double} :
    FusionConfig.checked constant vectorWeight lexicalWeight = .ok config ↔
      config = ⟨constant, vectorWeight, lexicalWeight⟩ ∧ config.IsPositive := by
  unfold checked
  split_ifs with hweights hconstant
  · constructor
    · intro h
      cases h
    · rintro ⟨rfl, hpositive⟩
      simp [hpositive.vectorWeight, hpositive.lexicalWeight] at hweights
  · constructor
    · intro h
      cases h
    · rintro ⟨rfl, hpositive⟩
      simp [hpositive.constant] at hconstant
  · simp only [Bool.not_eq_true', Bool.not_eq_false, Bool.and_eq_true] at hweights hconstant
    constructor
    · intro h
      obtain rfl := Except.ok.inj h
      exact ⟨rfl, hconstant, hweights.1, hweights.2⟩
    · rintro ⟨rfl, -⟩
      rfl

namespace FusionConfig

/-- The divisor of a rank is a magnitude other than zero. -/
lemma IsPositive.divisor (h : config.IsPositive) (place : Nat) :
    (config.divisor place).IsMagnitude ∧ (config.divisor place).code ≠ 0 := by
  obtain ⟨hconstant, hne⟩ := Binary.isMagnitude_of_isPositive h.constant
  have hplace : (Binary.ofNat place : Double).IsMagnitude := Binary.isMagnitude_ofNat place
  refine ⟨hconstant.add hplace, ?_⟩
  cases hinfinite : config.constant.isInfinite with
  | true =>
    have hsum := hconstant.isInfinite_add hplace hinfinite
    rw [FusionConfig.divisor, beq_iff_eq.mp hsum]
    decide
  | false =>
    exact Binary.add_ne_zero hconstant hplace
      (Binary.isFinite_of_not_isInfinite hconstant hinfinite) hne

/-- A term of a score is a magnitude or not a number. -/
lemma IsPositive.isMeasure_contribution (h : config.IsPositive) (hweight : weight.isPositive = true)
    (rank : Option Nat) : (config.contribution weight rank).IsMeasure := by
  cases rank with
  | none => exact .inr Binary.isMagnitude_zero
  | some place =>
    obtain ⟨hdivisor, hne⟩ := h.divisor place
    exact (Binary.isMagnitude_of_isPositive hweight).1.isMeasure_div hdivisor hne

/-- A term of a score is not a number if and only if it is infinity over infinity. -/
lemma IsPositive.isNaN_contribution_iff (h : config.IsPositive)
    (hweight : weight.isPositive = true) (rank : Option Nat) :
    (config.contribution weight rank).isNaN = true ↔ config.IsUndefined weight rank := by
  cases rank with
  | none => simp [contribution, IsUndefined, Binary.isMagnitude_zero.number]
  | some place =>
    obtain ⟨hdivisor, hne⟩ := h.divisor place
    have hdiv := (Binary.isMagnitude_of_isPositive hweight).1.isNaN_div hdivisor hne
    show (weight.div (config.divisor place)).isNaN = true ↔ _
    rw [hdiv, Bool.and_eq_true, IsUndefined]
    simp

/-- A finite weight, or a finite constant and a rank that is a word, leave no term undefined. -/
lemma IsPositive.not_isUndefined (h : config.IsPositive)
    (hfinite : weight.isFinite = true ∨
      config.constant.isFinite = true ∧ ∀ place ∈ rank, place < wordCount) :
    ¬ config.IsUndefined weight rank := by
  rintro ⟨hweight, place, hplace, hdivisor⟩
  rcases hfinite with hfinite | ⟨hfinite, hwords⟩
  · rw [Binary.isInfinite_of_isFinite hfinite] at hweight
    cases hweight
  · have hconstant := (Binary.isMagnitude_of_isPositive h.constant).1
    rw [FusionConfig.divisor, Binary.isInfinite_add_word hconstant (hwords place hplace),
      Binary.isInfinite_of_isFinite hfinite] at hdivisor
    cases hdivisor

end FusionConfig

/-- An id with a term that is undefined. -/
def Ranked.IsUndefined (config : FusionConfig) (r : Ranked) : Prop :=
  config.IsUndefined config.vectorWeight r.vectorRank ∨
    config.IsUndefined config.lexicalWeight r.lexicalRank

lemma Ranked.isMeasure_score (h : config.IsPositive) (r : Ranked) : (r.score config).IsMeasure :=
  (h.isMeasure_contribution h.vectorWeight _).add (h.isMeasure_contribution h.lexicalWeight _)

lemma Ranked.isNaN_score_iff (h : config.IsPositive) (r : Ranked) :
    (r.score config).isNaN = true ↔ r.IsUndefined config := by
  have hvector := h.isMeasure_contribution h.vectorWeight r.vectorRank
  have hlexical := h.isMeasure_contribution h.lexicalWeight r.lexicalRank
  rw [score, hvector.isNaN_add hlexical, Bool.or_eq_true, h.isNaN_contribution_iff h.vectorWeight,
    h.isNaN_contribution_iff h.lexicalWeight, IsUndefined]

lemma le_length_of_mem_placeIn {ids : List Int} {id : Int} {place : Nat}
    (h : place ∈ placeIn ids id) : place ≤ ids.length := by
  obtain ⟨-, hid, -⟩ := placeIn_eq_some_iff.mp h
  obtain ⟨hlt, -⟩ := List.getElem?_eq_some_iff.mp hid
  omega

/-- The score of an entry of the fused list is the score of its ranks. -/
lemma score_of_mem_fuseRanks {entry : Fused} (h : entry ∈ fuseRanks config vector lexical) :
    entry.score = entry.toRanked.score config :=
  (isFusion_fuseRanks config vector lexical).score entry h

/-- With parameters that are accepted, a fused score is a number unless infinity is divided by
infinity; a number among the scores is not negative, and of two numbers the later one is not above
the earlier one. So there are numbers only if both weights are finite, or if the constant is and the
lists are no longer than words can count; whether a divisor is infinite is then decided by the
constant alone. -/
theorem scores_are_numbers_exactly {constant vectorWeight lexicalWeight : Double}
    {config : FusionConfig}
    (haccepted : FusionConfig.checked constant vectorWeight lexicalWeight = .ok config)
    (vector lexical : List Int) :
    (∀ entry ∈ fuseRanks config vector lexical,
      (entry.score.isNaN = true ↔ entry.IsUndefined config) ∧
        (entry.score.isNaN = false → entry.score.negative = false)) ∧
    ((fuseRanks config vector lexical).Pairwise fun first second =>
      first.score.lt second.score = false) ∧
    (∀ limit, fuse config vector lexical limit <+: fuseRanks config vector lexical) ∧
    (∀ rank < wordCount, (config.divisor rank).isInfinite = constant.isInfinite) ∧
    (vectorWeight.isFinite = true ∧ lexicalWeight.isFinite = true ∨
        constant.isFinite = true ∧ vector.length < wordCount ∧ lexical.length < wordCount →
      ∀ entry ∈ fuseRanks config vector lexical, entry.score.isNaN = false) := by
  obtain ⟨rfl, hpositive⟩ := FusionConfig.checked_eq_ok_iff.mp haccepted
  have hfusion := isFusion_fuseRanks ⟨constant, vectorWeight, lexicalWeight⟩ vector lexical
  have hexact := fun entry (hentry : entry ∈ fuseRanks _ vector lexical) =>
    score_of_mem_fuseRanks hentry ▸ Ranked.isNaN_score_iff hpositive entry.toRanked
  refine ⟨fun entry hentry => ⟨hexact entry hentry, fun hnumber => ?_⟩, ?_, fun limit => ?_,
    fun rank hrank => ?_, fun hfinite entry hentry => ?_⟩
  · have hmeasure := Ranked.isMeasure_score hpositive entry.toRanked
    rw [← score_of_mem_fuseRanks hentry] at hmeasure
    exact (hmeasure.isMagnitude hnumber).sign
  · exact hfusion.falling.imp Binary.lt_eq_false_of_totalLE
  · exact List.take_prefix limit _
  · exact Binary.isInfinite_add_word (Binary.isMagnitude_of_isPositive hpositive.constant).1 hrank
  · rw [Bool.eq_false_iff, ne_eq, hexact entry hentry]
    have hvector : ∀ place ∈ entry.vectorRank, place ≤ vector.length := fun place hplace =>
      le_length_of_mem_placeIn (hfusion.vectorRank entry hentry ▸ hplace)
    have hlexical : ∀ place ∈ entry.lexicalRank, place ≤ lexical.length := fun place hplace =>
      le_length_of_mem_placeIn (hfusion.lexicalRank entry hentry ▸ hplace)
    rintro (hundefined | hundefined) <;> refine hpositive.not_isUndefined ?_ hundefined
    · exact hfinite.imp And.left fun h =>
        ⟨h.1, fun place hplace => lt_of_le_of_lt (hvector place hplace) h.2.1⟩
    · exact hfinite.imp And.right fun h =>
        ⟨h.1, fun place hplace => lt_of_le_of_lt (hlexical place hplace) h.2.2⟩

lemma mergeSort_pair {α : Type} (le : α → α → Bool) (a b : α) :
    [a, b].mergeSort le = if le a b then [a, b] else [b, a] := by
  simp [List.mergeSort, List.MergeSort.Internal.splitInTwo, List.merge]

/-- Infinite weights over a finite constant give infinite scores, which are numbers. -/
theorem scores_are_numbers_exactly_of_infinite_weights :
    let config : FusionConfig :=
      ⟨Binary.ofNat 60, Binary.infinity false, Binary.infinity false⟩
    FusionConfig.checked (Binary.ofNat 60) (Binary.infinity false) (Binary.infinity false) =
        .ok config ∧
      fuseRanks config [1] [2] = [⟨⟨1, some 1, none⟩, Binary.infinity false⟩,
        ⟨⟨2, none, some 1⟩, Binary.infinity false⟩] ∧
      ∀ entry ∈ fuseRanks config [1] [2],
        entry.score.isNaN = false ∧ entry.score.negative = false := by
  intro config
  have haccepted : FusionConfig.checked (Binary.ofNat 60) (Binary.infinity false)
      (Binary.infinity false) = .ok config := by decide +kernel
  obtain ⟨hexact, -, -, -, hnumbers⟩ := scores_are_numbers_exactly haccepted [1] [2]
  have hnumber := hnumbers (.inr ⟨by decide +kernel, by decide +kernel, by decide +kernel⟩)
  refine ⟨haccepted, ?_, fun entry hentry =>
    ⟨hnumber entry hentry, (hexact entry hentry).2 (hnumber entry hentry)⟩⟩
  show List.mergeSort [_, _] _ = _
  rw [mergeSort_pair]
  decide +kernel

/-- Settings with an infinite constant and an infinite weight keep the rules, and fusion accepts
them. The first id of one list then has a score that is not a number, and that of the other list is
given in its place. -/
theorem fusion_accepts_undefined_scores :
    let settings : Search.Settings :=
      { constant := Binary.infinity false, vectorWeight := Binary.infinity false }
    Config.searchRules settings = [] ∧
      ∃ config, settings.fusion = .ok config ∧
        fuseRanks config [1] [2] = [⟨⟨2, none, some 1⟩, Binary.zero⟩,
          ⟨⟨1, some 1, none⟩, Binary.nan true⟩] ∧
        (Binary.nan true : Double).isNaN = true := by
  intro settings
  refine ⟨by decide +kernel, ⟨Binary.infinity false, Binary.infinity false,
    settings.lexicalWeight⟩, by decide +kernel, ?_, Binary.isNaN_nan true⟩
  show List.mergeSort [_, _] _ = _
  rw [mergeSort_pair]
  decide +kernel

end Findings
