import Findings.Proofs.Vector.Nearest
import Mathlib.Data.List.Sort

/-!
# Hits at the cutoff

A full scan sorts all hits by distance and id and keeps the first ones. A bounded search keeps the
first ones by distance alone and sorts those. Both give the same distances, and both give every
hit that is nearer than the cutoff; of the hits at the cutoff they give the same ones only if the
bounded search happens to keep the lowest ids.
-/
namespace Findings.Vector

open Findings.Number
open Findings.Record

lemma hitLE_trans (a b c : Hit) (hab : hitLE a b = true) (hbc : hitLE b c = true) :
    hitLE a c = true := by
  rw [hitLE_iff] at *
  omega

lemma hitLE_total (a b : Hit) : (hitLE a b || hitLE b a) = true := by
  simp only [Bool.or_eq_true, hitLE_iff]
  omega

lemma hitLE_antisymm {a b : Hit} (hab : hitLE a b = true) (hba : hitLE b a = true) : a = b := by
  rw [hitLE_iff] at hab hba
  have hdistance : a.distance = b.distance := Binary.orderKey_inj (by omega)
  have hid : a.id = b.id := by omega
  cases a
  cases b
  simp_all

/-- The order of distance and id is finer than that of distance. -/
lemma nearerLE_of_hitLE {a b : Hit} (h : hitLE a b = true) : nearerLE a b = true := by
  rw [hitLE_iff] at h
  rw [nearerLE_iff]
  omega

/-- Hits in order of distance and then of id. -/
def inOrder (hits : List Hit) : List Hit := hits.mergeSort hitLE

lemma inOrder_perm (hits : List Hit) : (inOrder hits).Perm hits := List.mergeSort_perm _ _

@[simp] lemma mem_inOrder {hits : List Hit} {hit : Hit} : hit ∈ inOrder hits ↔ hit ∈ hits :=
  (inOrder_perm hits).mem_iff

lemma pairwise_inOrder (hits : List Hit) :
    (inOrder hits).Pairwise fun a b => hitLE a b = true :=
  List.pairwise_mergeSort hitLE_trans hitLE_total hits

/-- There is one way to put hits in order. -/
lemma eq_inOrder {sorted hits : List Hit} (hsorted : sorted.Pairwise fun a b => hitLE a b = true)
    (hperm : sorted.Perm hits) : sorted = inOrder hits :=
  (hperm.trans (inOrder_perm hits).symm).eq_of_pairwise
    (fun _ _ _ _ hab hba => hitLE_antisymm hab hba) hsorted (pairwise_inOrder hits)

lemma inOrder_eq_of_perm {first second : List Hit} (h : first.Perm second) :
    inOrder first = inOrder second :=
  eq_inOrder (pairwise_inOrder first) ((inOrder_perm first).trans h)

/-- The first hits in order are in order. -/
lemma inOrder_take_inOrder (hits : List Hit) (count : Nat) :
    inOrder ((inOrder hits).take count) = (inOrder hits).take count :=
  List.mergeSort_of_pairwise ((pairwise_inOrder hits).sublist (List.take_sublist _ _))

/-- Where all distances are numbers, a full scan ranks by distance and id. -/
lemma mergeSort_scanLE {hits : List Hit} (h : Measured hits) :
    hits.mergeSort scanLE = inOrder hits := by
  have hperm := List.mergeSort_perm hits scanLE
  refine eq_inOrder ?_ hperm
  refine (List.pairwise_mergeSort scanLE_trans scanLE_total hits).imp_of_mem ?_
  intro a b ha hb hle
  have ha := (h a (hperm.mem_iff.mp ha)).number
  have hb := (h b (hperm.mem_iff.mp hb)).number
  simpa [scanLE, ha, hb] using hle

lemma Measured.of_subset {some all : List Hit} (h : Measured all) (hsub : some ⊆ all) :
    Measured some :=
  fun hit hhit => h hit (hsub hhit)

lemma Measured.not_lacksDistance {hits : List Hit} (h : Measured hits) : ¬ LacksDistance hits := by
  rintro ⟨hit, hhit, hmissing⟩
  rw [(h hit hhit).number] at hmissing
  exact Bool.false_ne_true hmissing

/-- Two lists of hits give the same distances if both are sorted and one has the distances of the
other in some order. -/
lemma map_distance_eq {first second : List Hit}
    (hfirst : first.Pairwise fun a b => nearerLE a b = true)
    (hsecond : second.Pairwise fun a b => nearerLE a b = true) (hperm : first.Perm second) :
    first.map (·.distance) = second.map (·.distance) := by
  have hrising : ∀ {hits : List Hit}, hits.Pairwise (fun a b => nearerLE a b = true) →
      (hits.map (·.distance)).Pairwise fun a b => a.orderKey ≤ b.orderKey :=
    fun h => List.pairwise_map.mpr (h.imp fun hle => nearerLE_iff.mp hle)
  refine (hperm.map _).eq_of_pairwise (fun a b _ _ hab hba => ?_) (hrising hfirst)
    (hrising hsecond)
  exact Binary.orderKey_inj (by omega)

lemma pairwise_nearer_inOrder (hits : List Hit) :
    (inOrder hits).Pairwise fun a b => nearerLE a b = true :=
  (pairwise_inOrder hits).imp nearerLE_of_hitLE

/-- What a bounded search keeps: the first hits by distance, in order. -/
def keep (count : Nat) (hits : List Hit) : List Hit := inOrder ((byDistance hits).take count)

lemma mem_keep {count : Nat} {hits : List Hit} {hit : Hit} :
    hit ∈ keep count hits ↔ hit ∈ (byDistance hits).take count := mem_inOrder

/-- Whatever is left out by a bounded search is no nearer than what is kept. -/
lemma nearerLE_of_not_mem_keep {count : Nat} {hits : List Hit} {kept left : Hit}
    (hkept : kept ∈ keep count hits) (hleft : left ∈ hits) (hout : left ∉ keep count hits) :
    nearerLE kept left = true := by
  have hsorted := pairwise_byDistance hits
  have hmem := (byDistance_perm hits).mem_iff.mpr hleft
  rw [← List.take_append_drop count (byDistance hits)] at hsorted hmem
  rw [mem_keep] at hkept hout
  have hdrop := (List.mem_append.mp hmem).resolve_left hout
  exact (List.pairwise_append.mp hsorted).2.2 kept hkept left hdrop

/-- The first hits in order have nothing before them. -/
lemma hitLE_of_not_mem_take {count : Nat} {hits : List Hit} {kept left : Hit}
    (hkept : kept ∈ (inOrder hits).take count) (hleft : left ∈ hits)
    (hout : left ∉ (inOrder hits).take count) : hitLE kept left = true := by
  have hsorted := pairwise_inOrder hits
  have hmem := mem_inOrder.mpr hleft
  rw [← List.take_append_drop count (inOrder hits)] at hsorted hmem
  have hdrop := (List.mem_append.mp hmem).resolve_left hout
  exact (List.pairwise_append.mp hsorted).2.2 kept hkept left hdrop

/-- The distances kept do not depend on which of equally near hits are kept. -/
theorem map_distance_keep (count : Nat) (hits : List Hit) :
    (keep count hits).map (·.distance) = ((inOrder hits).take count).map (·.distance) := by
  have hkept : (keep count hits).map (·.distance) =
      ((byDistance hits).take count).map (·.distance) :=
    map_distance_eq (pairwise_nearer_inOrder _)
      ((pairwise_byDistance hits).sublist (List.take_sublist _ _)) (inOrder_perm _)
  have hall : (byDistance hits).map (·.distance) = (inOrder hits).map (·.distance) :=
    map_distance_eq (pairwise_byDistance hits) (pairwise_nearer_inOrder hits)
      ((byDistance_perm hits).trans (inOrder_perm hits).symm)
  rw [hkept, List.map_take, hall, List.map_take]

/-- Two answers agree up to ties among hits: they have the same distances in the same order, and a
hit that is nearer than one of the answer's is in both. -/
structure AgreeUpToTies (hits first second : List Hit) : Prop where
  distances : first.map (·.distance) = second.map (·.distance)
  nearer : ∀ hit ∈ hits, ∀ last ∈ first, nearerLE last hit = false → hit ∈ first ∧ hit ∈ second

/-- Keeping before sorting and sorting before keeping agree up to ties. -/
theorem agreeUpToTies_keep (count : Nat) (hits : List Hit) :
    AgreeUpToTies hits (keep count hits) ((inOrder hits).take count) where
  distances := map_distance_keep count hits
  nearer hit hhit last hlast hnearer := by
    -- the last hit has a counterpart at its distance in the other answer
    have hdistance := List.mem_map_of_mem (f := (·.distance)) hlast
    rw [map_distance_keep] at hdistance
    obtain ⟨other, hother, hsame⟩ := List.mem_map.mp hdistance
    have hkey : other.distance.orderKey = last.distance.orderKey := congrArg Binary.orderKey hsame
    constructor
    · by_contra hout
      have hle := nearerLE_of_not_mem_keep hlast hhit hout
      rw [hle] at hnearer
      cases hnearer
    · by_contra hout
      have hle := nearerLE_iff.mp (nearerLE_of_hitLE (hitLE_of_not_mem_take hother hhit hout))
      have hlt : ¬ last.distance.orderKey ≤ hit.distance.orderKey := by
        simpa [nearerLE] using hnearer
      omega

/-- Both ways of answering give the same hits exactly if the ones kept have the lowest ids. -/
theorem keep_eq_take_iff {hits : List Hit} (honce : (hits.map (·.id)).Nodup) (count : Nat) :
    keep count hits = (inOrder hits).take count ↔
      ∀ kept ∈ keep count hits, ∀ left ∈ hits, left ∉ keep count hits →
        left.distance = kept.distance → kept.id < left.id := by
  constructor
  · intro hequal kept hkept left hleft hout hdistance
    rw [hequal] at hkept hout
    have hle := hitLE_iff.mp (hitLE_of_not_mem_take hkept hleft hout)
    have hkey : left.distance.orderKey = kept.distance.orderKey :=
      congrArg Binary.orderKey hdistance
    have hne : kept.id ≠ left.id := by
      intro hid
      have hmem : kept ∈ hits := mem_inOrder.mp (List.mem_of_mem_take hkept)
      obtain rfl := List.inj_on_of_nodup_map honce hmem hleft hid
      exact hout hkept
    omega
  · intro hlowest
    have hnodup : (byDistance hits).Nodup := (byDistance_perm hits).nodup_iff.mpr honce.of_map
    have hsplit := List.take_append_drop count (byDistance hits)
    rw [← hsplit, List.nodup_append] at hnodup
    -- all hits in order are the kept ones in order and then the others in order
    have hsorted : (keep count hits ++ inOrder ((byDistance hits).drop count)).Pairwise
        fun a b => hitLE a b = true := by
      refine List.pairwise_append.mpr ⟨pairwise_inOrder _, pairwise_inOrder _, ?_⟩
      intro kept hkept left hleft
      rw [mem_inOrder] at hleft
      have hmem : left ∈ hits := (byDistance_perm hits).mem_iff.mp (List.mem_of_mem_drop hleft)
      have hout : left ∉ keep count hits :=
        fun hin => hnodup.2.2 left (mem_keep.mp hin) left hleft rfl
      have hnearer := nearerLE_iff.mp (nearerLE_of_not_mem_keep hkept hmem hout)
      rw [hitLE_iff]
      by_cases hkey : kept.distance.orderKey = left.distance.orderKey
      · have hid := hlowest kept hkept left hmem hout (Binary.orderKey_inj hkey.symm)
        omega
      · omega
    have hperm : (keep count hits ++ inOrder ((byDistance hits).drop count)).Perm hits := by
      refine ((inOrder_perm _).append (inOrder_perm _)).trans ?_
      rw [hsplit]
      exact byDistance_perm hits
    rw [← eq_inOrder hsorted hperm]
    have hlength : (keep count hits).length = min count hits.length := by
      rw [keep, (inOrder_perm _).length_eq, List.length_take, (byDistance_perm hits).length_eq]
    rcases Nat.le_total count hits.length with hle | hle
    · rw [List.take_append_of_le_length (by omega), List.take_of_length_le (by omega)]
    · have hrest : (byDistance hits).drop count = [] := by
        rw [List.drop_eq_nil_iff, (byDistance_perm hits).length_eq]
        exact hle
      rw [hrest, List.take_of_length_le]
      · simp [inOrder]
      · simp [inOrder, hlength]

/-- A bounded search of a table with distances keeps the first hits by distance. -/
theorem boundedSearch_eq {t : Table} {query : Embedding} {count : Nat} (hquery : query ≠ [])
    (hlength : query.length = t.dimension) (h : Measured (t.hits query))
    (honce : ((t.hits query).map (·.id)).Nodup) :
    boundedSearch t query count = .ok (keep count (t.preferred query)) := by
  have hnearest := Table.nearest_eq h honce count
  have hsub := (t.nearest_subperm query count).subset
  rw [boundedSearch, if_neg (by simpa using hquery), if_neg (by simpa using hlength), sortHits_eq,
    if_neg (h.of_subset hsub).not_lacksDistance, hnearest]
  rfl

/-- A full scan of a table with distances sorts all wanted hits and keeps the first ones. -/
theorem fullScan_eq_take {t : Table} {query : Embedding} {wanted : Int → Bool} {count : Nat}
    (hquery : t.rows ≠ [] → query ≠ []) (hlength : query.length = t.dimension)
    (h : Measured (t.hits query)) :
    fullScan t query wanted count = .ok ((inOrder (t.wantedHits query wanted)).take count) := by
  have hwanted : Measured (t.wantedHits query wanted) :=
    h.of_subset (List.filter_subset_self _)
  by_cases hnone : t.wantedHits query wanted = []
  · simp [fullScan_eq, hnone, inOrder]
  · have hrows : t.rows ≠ [] := by
      intro hrows
      simp [Table.wantedHits, Table.hits, hrows] at hnone
    have hsub : (inOrder (t.wantedHits query wanted)).take count ⊆ t.wantedHits query wanted :=
      fun hit hhit => mem_inOrder.mp (List.mem_of_mem_take hhit)
    rw [fullScan_eq, if_neg hnone, if_neg (hquery hrows), if_neg (not_not.mpr hlength),
      mergeSort_scanLE hwanted, sortHits_eq, if_neg (hwanted.of_subset hsub).not_lacksDistance]
    exact congrArg Except.ok (inOrder_take_inOrder _ count)

end Findings.Vector
