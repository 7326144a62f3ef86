import Findings.Config.Basic
import Findings.Proofs.Config.Document

/-!
# Configurations that keep the rules

What keeps the rules has positive numbers and small sizes. So it can be written, and it comes back
with the numbers that it had. The rules do not tell apart what is not a number.
-/
namespace Findings.Config

open Findings.Number

variable {c : Config}

lemma isNaN_of_isPositive {x : Double} (h : x.isPositive = true) : x.isNaN = false := by
  simp only [Binary.isPositive, Binary.lt, Bool.and_eq_true] at h
  simpa using h.1.2

lemma settled_of_isPositive {x : Double} (h : x.isPositive = true) : Toml.settled x = x := by
  rw [Toml.settled, isNaN_of_isPositive h, if_neg (by decide)]

/-- A rule of a number does not tell apart what is not one. -/
lemma positiveRule_settled (x : Double) (path name : String) :
    positiveRule (Toml.settled x) path name = positiveRule x path name := by
  cases hx : x.isNaN with
  | false => rw [Toml.settled, hx, if_neg (by decide)]
  | true =>
    have hpositive : x.isPositive = false := by
      simp [Binary.isPositive, Binary.lt, hx]
    have htext : x.plainText = "NaN" := by
      rw [Binary.plainText, if_pos hx]
    rw [Toml.settled, if_pos hx, positiveRule, positiveRule, hpositive, htext]
    rfl

lemma validate_settled (c : Config) : validate c.settled = validate c := by
  have hviolations : violations c.settled = violations c := by
    simp only [violations, searchRules, settled, positiveRule_settled]
    rfl
  rw [validate, validate, hviolations]

lemma unlessHolds_eq_nil {holds : Bool} {path message : String} :
    unlessHolds holds path message = [] ↔ holds = true := by
  cases holds <;> simp [unlessHolds]

/-- The rules of searches hold in settings whose floats are positive and whose sizes are small. -/
lemma of_searchRules_eq_nil {s : Search.Settings} (h : searchRules s = []) :
    (s.constant.isPositive = true ∧ s.vectorWeight.isPositive = true ∧
      s.lexicalWeight.isPositive = true) ∧
      s.perSourceLimit ≤ Vector.maxNearest ∧ s.resultLimit ≤ s.perSourceLimit := by
  simp only [searchRules, List.append_eq_nil_iff, positiveRule, unlessHolds_eq_nil] at h
  obtain ⟨⟨⟨⟨hconstant, hvector⟩, hlexical⟩, hperSource⟩, hresult⟩ := h
  refine ⟨⟨hconstant, hvector, hlexical⟩, ?_, ?_⟩
  · unfold perSourceRule at hperSource
    split_ifs at hperSource with hzero
    simpa using unlessHolds_eq_nil.mp hperSource
  · unfold resultRule at hresult
    split_ifs at hresult with hzero
    simpa using unlessHolds_eq_nil.mp hresult

lemma validate_eq_ok_iff : validate c = .ok () ↔ violations c = [] := by
  unfold validate
  split <;> simp_all

/-- The dimensions of models are small. -/
lemma dimension_lt {name : String} {dimension : Nat} (h : Model.dimension? name = some dimension) :
    dimension < signedCount := by
  obtain ⟨model, hmodel, rfl⟩ := Option.map_eq_some_iff.mp h
  have hmem : model ∈ Model.all := List.mem_of_find?_eq_some hmodel
  have hall : ∀ model ∈ Model.all, model.dimension < signedCount := by decide
  exact hall model hmem

/-- A configuration that keeps the rules can be written. -/
lemma isWritable_of_validate (h : validate c = .ok ()) : c.IsWritable := by
  have hnone := validate_eq_ok_iff.mp h
  simp only [violations, embeddingRules, List.append_eq_nil_iff, unlessHolds_eq_nil] at hnone
  obtain ⟨⟨-, ⟨hmodel, hdimension⟩, hrule⟩, hsearch⟩ := hnone
  obtain ⟨-, hperSource, hresult⟩ := of_searchRules_eq_nil hsearch
  have hmost : Vector.maxNearest < signedCount := by decide
  refine ⟨?_, by omega, by omega⟩
  have hskip : ¬ (decide (c.dimension = 0) || c.model.isEmpty) = true := by simp_all
  rw [if_neg hskip, modelRule] at hrule
  split at hrule
  · have hsame := unlessHolds_eq_nil.mp hrule
    rw [← beq_iff_eq.mp hsame]
    exact dimension_lt ‹_›
  · cases hrule

/-- A configuration that keeps the rules comes back as it was. -/
lemma settled_of_validate (h : validate c = .ok ()) : c.settled = c := by
  have hnone := validate_eq_ok_iff.mp h
  obtain ⟨-, hsearch⟩ := List.append_eq_nil_iff.mp hnone
  obtain ⟨⟨hconstant, hvector, hlexical⟩, -⟩ := of_searchRules_eq_nil hsearch
  simp only [settled, settled_of_isPositive hconstant, settled_of_isPositive hvector,
    settled_of_isPositive hlexical]

end Findings.Config
