import Findings.Proofs.Fusion.Scores

/-!
# Fusion respects dominance

An id that is no later than another one in either list comes before it in the fused list. Its score
is not lower, since each step of a score keeps order; rounding may make the scores equal, and then
the id that appears first goes first, which is the same id.
-/
namespace Findings

open Findings.Number

/-- The constant and the weights are finite and above zero. -/
structure FusionConfig.IsRegular (config : FusionConfig) : Prop where
  constant : config.constant.isFinite = true ∧ config.constant.isPositive = true
  vectorWeight : config.vectorWeight.isFinite = true ∧ config.vectorWeight.isPositive = true
  lexicalWeight : config.lexicalWeight.isFinite = true ∧ config.lexicalWeight.isPositive = true

/-- One id is in a list no later than another one: the other one is not there, or the first place
of the one is not beyond the first place of the other. -/
def Leads (ids : List Int) (a b : Int) : Prop :=
  ∀ later ∈ placeIn ids b, ∃ earlier ∈ placeIn ids a, earlier ≤ later

variable {config : FusionConfig} {vector lexical ids : List Int} {a b : Int}

lemma placeIn_eq_idxOf (h : a ∈ ids) : placeIn ids a = some (ids.idxOf a + 1) := by
  have hsome := isSome_placeIn.mpr h
  rw [List.idxOf_eq_getD_idxOf?]
  cases hindex : ids.idxOf? a with
  | none => simp [placeIn, hindex] at hsome
  | some index => simp [placeIn, hindex]

lemma leads_iff : Leads ids a b ↔ (b ∈ ids → a ∈ ids ∧ ids.idxOf a ≤ ids.idxOf b) := by
  constructor
  · intro h hb
    obtain ⟨earlier, hearlier, hle⟩ := h _ (placeIn_eq_idxOf hb)
    have ha : a ∈ ids := isSome_placeIn.mp (Option.isSome_of_mem hearlier)
    rw [placeIn_eq_idxOf ha, Option.mem_some_iff] at hearlier
    exact ⟨ha, by omega⟩
  · intro h later hlater
    have hb : b ∈ ids := isSome_placeIn.mp (Option.isSome_of_mem hlater)
    obtain ⟨ha, hle⟩ := h hb
    rw [placeIn_eq_idxOf hb, Option.mem_some_iff] at hlater
    exact ⟨_, placeIn_eq_idxOf ha, by omega⟩

lemma leads_of_not_mem (hb : b ∉ ids) : Leads ids a b := leads_iff.mpr fun h => absurd h hb

lemma idxOf_lt_of_le (ha : a ∈ ids) (hne : a ≠ b) (hle : ids.idxOf a ≤ ids.idxOf b) :
    ids.idxOf a < ids.idxOf b :=
  Nat.lt_of_le_of_ne hle fun h => hne ((List.idxOf_inj ha).mp h)

/-- An id that is no later in either list appears first in both lists together. -/
lemma idxOf_append_lt (hne : a ≠ b) (hb : b ∈ vector ∨ b ∈ lexical) (hvector : Leads vector a b)
    (hlexical : Leads lexical a b) :
    (vector ++ lexical).idxOf a < (vector ++ lexical).idxOf b := by
  rw [leads_iff] at hvector hlexical
  rw [List.idxOf_append, List.idxOf_append]
  by_cases hb' : b ∈ vector
  · obtain ⟨ha, hle⟩ := hvector hb'
    rw [if_pos ha, if_pos hb']
    exact idxOf_lt_of_le ha hne hle
  · obtain ⟨ha, hle⟩ := hlexical (hb.resolve_left hb')
    have hlt := idxOf_lt_of_le ha hne hle
    rw [if_neg hb']
    split_ifs with hfirst
    · have := List.idxOf_lt_length_of_mem hfirst
      omega
    · omega

namespace FusionConfig

variable {weight : Double} {rank earlier later : Option Nat}

lemma IsRegular.isPositive (h : config.IsRegular) : config.IsPositive :=
  ⟨h.constant.2, h.vectorWeight.2, h.lexicalWeight.2⟩

/-- What a rank adds to a score is a magnitude. -/
lemma IsRegular.isMagnitude_contribution (h : config.IsRegular) (hfinite : weight.isFinite = true)
    (hpositive : weight.isPositive = true) (rank : Option Nat) :
    (config.contribution weight rank).IsMagnitude := by
  cases rank with
  | none => exact Binary.isMagnitude_zero
  | some rank =>
    obtain ⟨hdivisor, hne⟩ := h.isPositive.divisor rank
    exact (Binary.isMagnitude_of_isPositive hpositive).1.div hdivisor hfinite hne

/-- An earlier rank adds no less to a score; no rank adds nothing. -/
lemma IsRegular.contribution_le (h : config.IsRegular) (hfinite : weight.isFinite = true)
    (hpositive : weight.isPositive = true)
    (hrank : ∀ second ∈ later, ∃ first ∈ earlier, first ≤ second) :
    (config.contribution weight later).code ≤ (config.contribution weight earlier).code := by
  cases later with
  | none => exact Nat.zero_le _
  | some second =>
    obtain ⟨first, rfl, hle⟩ := hrank second rfl
    have hconstant := (Binary.isMagnitude_of_isPositive h.constant.2).1
    obtain ⟨hfirst, hne⟩ := h.isPositive.divisor first
    obtain ⟨hsecond, -⟩ := h.isPositive.divisor second
    refine Binary.div_antitone (Binary.isMagnitude_of_isPositive hpositive).1 hfirst hsecond
      hfinite hne ?_
    exact Binary.add_mono hconstant (Binary.isMagnitude_ofNat _) hconstant
      (Binary.isMagnitude_ofNat _) (Nat.le_refl _) (Binary.ofNat_mono hle)

end FusionConfig

/-- An id that is no later in either list scores no lower. -/
lemma IsFusion.score_le (hregular : config.IsRegular) {result : List Fused}
    (h : IsFusion config vector lexical result) {first second : Fused} (hfirst : first ∈ result)
    (hsecond : second ∈ result) (hvector : Leads vector first.id second.id)
    (hlexical : Leads lexical first.id second.id) : second.score.totalLE first.score = true := by
  rw [h.score first hfirst, h.score second hsecond, h.vectorRank first hfirst,
    h.vectorRank second hsecond, h.lexicalRank first hfirst, h.lexicalRank second hsecond]
  have hv := hregular.isMagnitude_contribution hregular.vectorWeight.1 hregular.vectorWeight.2
  have hl := hregular.isMagnitude_contribution hregular.lexicalWeight.1 hregular.lexicalWeight.2
  have hcode := Binary.add_mono (hv _) (hl _) (hv _) (hl _)
    (hregular.contribution_le hregular.vectorWeight.1 hregular.vectorWeight.2 hvector)
    (hregular.contribution_le hregular.lexicalWeight.1 hregular.lexicalWeight.2 hlexical)
  rw [Binary.totalLE_iff, ((hv _).add (hl _)).orderKey_eq, ((hv _).add (hl _)).orderKey_eq]
  simpa [Binary.place, ((hv _).add (hl _)).sign] using hcode

/-- Of two ids in a list of which the second one never stands before the first, the first one comes
first. -/
lemma idxOf_lt_of_pairwise (h : ids.Pairwise fun first second => ¬ (first = b ∧ second = a))
    (hne : a ≠ b) (ha : a ∈ ids) (hb : b ∈ ids) : ids.idxOf a < ids.idxOf b := by
  by_contra hle
  have hlt := idxOf_lt_of_le hb hne.symm (Nat.le_of_not_lt hle)
  refine List.pairwise_iff_getElem.mp h _ _ (List.idxOf_lt_length_of_mem hb)
    (List.idxOf_lt_length_of_mem ha) hlt ?_
  exact ⟨List.getElem_idxOf _, List.getElem_idxOf _⟩

/-- The fused ids in the order that fusion gives them. -/
def fusedIds (config : FusionConfig) (vector lexical : List Int) : List Int :=
  (fuseRanks config vector lexical).map (·.id)

lemma mem_fusedIds : a ∈ fusedIds config vector lexical ↔ a ∈ vector ∨ a ∈ lexical :=
  (isFusion_fuseRanks config vector lexical).mem_iff a

/-- An id that is no later in either list comes before the other one. A lower score cannot move it
back, as there is none; an equal one leaves the order of first appearance. -/
lemma idxOf_fusedIds_lt (hregular : config.IsRegular) (hne : a ≠ b)
    (ha : a ∈ fusedIds config vector lexical) (hb : b ∈ fusedIds config vector lexical)
    (hvector : Leads vector a b) (hlexical : Leads lexical a b) :
    (fusedIds config vector lexical).idxOf a < (fusedIds config vector lexical).idxOf b := by
  have hfusion := isFusion_fuseRanks config vector lexical
  have happears := idxOf_append_lt hne (mem_fusedIds.mp hb) hvector hlexical
  refine idxOf_lt_of_pairwise (List.pairwise_map.mpr ?_) hne ha hb
  refine (hfusion.falling.and hfusion.ties).imp_of_mem ?_
  rintro second first hsecond hfirst ⟨hfalling, hties⟩ ⟨rfl, rfl⟩
  have hscore := hfusion.score_le hregular hfirst hsecond hvector hlexical
  have := hties (Binary.totalLE_antisymm hscore hfalling)
  omega

/-- If being no later in one list is being no later in both, the fused ids are those of this list in
order of first appearance. -/
lemma fusedIds_eq_eraseDups (hregular : config.IsRegular) (hids : vector ++ lexical = ids)
    (hleads : ∀ a b, Leads ids a b → Leads vector a b ∧ Leads lexical a b) :
    fusedIds config vector lexical = ids.eraseDups := by
  have hperm : (fusedIds config vector lexical).Perm ids.eraseDups :=
    hids ▸ fuseRanks_ids config vector lexical
  have hnodup := hperm.nodup_iff.mpr (nodup_eraseDups ids)
  have hpair : (fusedIds config vector lexical).Pairwise fun a b => ids.idxOf a < ids.idxOf b := by
    refine List.pairwise_iff_getElem.mpr fun i j hi hj hlt => ?_
    have hmem := List.mem_eraseDups.mp (hperm.mem_iff.mp (List.getElem_mem hj))
    by_contra hnot
    -- otherwise the later entry would lead the earlier one and stand before it
    obtain ⟨hvector, hlexical⟩ :=
      hleads _ _ (leads_iff.mpr fun _ => ⟨hmem, Nat.le_of_not_lt hnot⟩)
    have hback := idxOf_fusedIds_lt hregular
      (fun h => Nat.ne_of_gt hlt (hnodup.getElem_inj_iff.mp h)) (List.getElem_mem hj)
      (List.getElem_mem hi) hvector hlexical
    rw [hnodup.idxOf_getElem, hnodup.idxOf_getElem] at hback
    omega
  exact hperm.eq_of_pairwise (fun _ _ _ _ hab hba => absurd hab (Nat.lt_asymm hba)) hpair
    (pairwise_idxOf_eraseDups ids)

/-- Fusion with finite positive parameters respects dominance, however often ids repeat: of two
fused ids, one that is no later than the other in either list comes before it, although rounding may
give both one score. So with one list empty the fused order is that of first occurrence in the other
list, and an id of both lists precedes every id of one list alone that it does not trail there. -/
theorem fusion_respects_dominance (config : FusionConfig) (hregular : config.IsRegular)
    (vector lexical : List Int) :
    (∀ a ∈ fusedIds config vector lexical, ∀ b ∈ fusedIds config vector lexical, a ≠ b →
      Leads vector a b → Leads lexical a b →
        (fusedIds config vector lexical).idxOf a < (fusedIds config vector lexical).idxOf b) ∧
    fusedIds config vector [] = vector.eraseDups ∧
    fusedIds config [] lexical = lexical.eraseDups ∧
    ∀ a b, a ∈ vector → a ∈ lexical →
      (b ∈ vector ∧ b ∉ lexical ∧ vector.idxOf a ≤ vector.idxOf b ∨
        b ∈ lexical ∧ b ∉ vector ∧ lexical.idxOf a ≤ lexical.idxOf b) →
      (fusedIds config vector lexical).idxOf a < (fusedIds config vector lexical).idxOf b := by
  refine ⟨fun a ha b hb hne hvector hlexical =>
    idxOf_fusedIds_lt hregular hne ha hb hvector hlexical, ?_, ?_, ?_⟩
  · exact fusedIds_eq_eraseDups hregular (List.append_nil _) fun a b h =>
      ⟨h, leads_of_not_mem List.not_mem_nil⟩
  · exact fusedIds_eq_eraseDups hregular (List.nil_append _) fun a b h =>
      ⟨leads_of_not_mem List.not_mem_nil, h⟩
  · rintro a b hvector hlexical (⟨hb, hb', hle⟩ | ⟨hb, hb', hle⟩)
    · refine idxOf_fusedIds_lt hregular (fun h => hb' (h ▸ hlexical)) (mem_fusedIds.mpr (.inl hvector))
        (mem_fusedIds.mpr (.inl hb)) ?_ (leads_of_not_mem hb')
      exact leads_iff.mpr fun _ => ⟨hvector, hle⟩
    · refine idxOf_fusedIds_lt hregular (fun h => hb' (h ▸ hvector)) (mem_fusedIds.mpr (.inl hvector))
        (mem_fusedIds.mpr (.inr hb)) (leads_of_not_mem hb') ?_
      exact leads_iff.mpr fun _ => ⟨hlexical, hle⟩

lemma isRegular_sixty :
    (⟨Binary.ofNat 60, Binary.ofDecimal false 7 (-1), Binary.ofDecimal false 3 (-1)⟩ :
      FusionConfig).IsRegular :=
  ⟨by decide +kernel, by decide +kernel, by decide +kernel⟩

/-- Two lists that both repeat an id: the id of both lists comes first. -/
theorem fusion_respects_dominance_of_repeated :
    let config : FusionConfig :=
      ⟨Binary.ofNat 60, Binary.ofDecimal false 7 (-1), Binary.ofDecimal false 3 (-1)⟩
    config.IsRegular ∧
      (fusedIds config [3, 5, 3, 7] [9, 3, 9]).idxOf 3 <
        (fusedIds config [3, 5, 3, 7] [9, 3, 9]).idxOf 5 ∧
      fusedIds config [3, 5, 3, 7] [] = [3, 5, 7] := by
  intro config
  obtain ⟨_, hvector, _, hboth⟩ :=
    fusion_respects_dominance config isRegular_sixty [3, 5, 3, 7] [9, 3, 9]
  refine ⟨isRegular_sixty, hboth 3 5 (by decide) (by decide) (.inl (by decide)), ?_⟩
  exact hvector.trans (by simp [List.eraseDups_cons])

end Findings
