import Findings.Proofs.Fusion.Ranking
import Findings.Proofs.Vector.Hits

/-!
# What a bounded search keeps

Where all distances are numbers, taking the nearest hits block by block is a stable sort by
distance, cut off at the limit. What it is a sort of decides the ties: older blocks come before
newer ones, but within a block the later slot comes first. The ids have no part in it. A full scan
cuts off a sort by distance and id, so that the two agree before the distance of the cutoff, and at
that distance only if the slots prefer the lowest ids.
-/
namespace Findings.Vector

open Findings.Number
open Findings.Record

/-- All distances of hits are numbers, and not below zero. -/
def Measured (hits : List Hit) : Prop := ∀ hit ∈ hits, hit.distance.IsMagnitude

lemma isMeasure_squares {sum : Single} (hsum : sum.IsMeasure) (a b : Embedding) :
    (squares sum a b).IsMeasure := by
  fun_induction squares sum a b with
  | case1 sum x a y b difference ih =>
    exact ih (hsum.add (Binary.isMeasure_square (by decide) difference))
  | case2 => exact hsum

/-- A distance that is a number is not below zero. -/
lemma isMeasure_distance (a b : Embedding) : (distance a b).IsMeasure := by
  have hzero : (Binary.zero : Single).IsMeasure := .inr Binary.isMagnitude_zero
  exact ((isMeasure_squares hzero a b).sqrt (by decide)).convert .double

theorem Table.measured_hits {t : Table} {query : Embedding}
    (h : ¬ LacksDistance (t.hits query)) : Measured (t.hits query) := by
  intro hit hhit
  have hnumber : hit.distance.isNaN = false := by
    by_contra hmissing
    exact h ⟨hit, hhit, by simpa using hmissing⟩
  obtain ⟨row, -, rfl⟩ := List.mem_map.mp hhit
  exact (isMeasure_distance _ _).isMagnitude hnumber

/-- Order of hits by their distances alone. -/
def nearerLE (a b : Hit) : Bool := decide (a.distance.orderKey ≤ b.distance.orderKey)

@[simp] lemma nearerLE_iff {a b : Hit} :
    nearerLE a b = true ↔ a.distance.orderKey ≤ b.distance.orderKey := by
  simp [nearerLE]

lemma nearerLE_trans (a b c : Hit) (hab : nearerLE a b = true) (hbc : nearerLE b c = true) :
    nearerLE a c = true := by
  rw [nearerLE_iff] at *
  omega

lemma nearerLE_total (a b : Hit) : (nearerLE a b || nearerLE b a) = true := by
  simp only [Bool.or_eq_true, nearerLE_iff]
  omega

/-- Distances that are numbers are compared by their place. -/
lemma atMost_iff {a b : Hit} (ha : a.distance.IsMagnitude) (hb : b.distance.IsMagnitude) :
    atMost a.distance b.distance = true ↔ nearerLE a b = true := by
  simp [atMost, ha.number, hb.number, ha.orderKey_eq, hb.orderKey_eq]

/-- Hits in order of distance; equally near ones stay in their order. -/
def byDistance (hits : List Hit) : List Hit := hits.mergeSort nearerLE

lemma byDistance_perm (hits : List Hit) : (byDistance hits).Perm hits :=
  List.mergeSort_perm _ _

lemma pairwise_byDistance (hits : List Hit) :
    (byDistance hits).Pairwise fun a b => nearerLE a b = true :=
  List.pairwise_mergeSort nearerLE_trans nearerLE_total hits

def atDistance (d : Double) (hits : List Hit) : List Hit := hits.filter (·.distance = d)

@[simp] lemma atDistance_append (d : Double) (first second : List Hit) :
    atDistance d (first ++ second) = atDistance d first ++ atDistance d second :=
  List.filter_append _ _

@[simp] lemma mem_atDistance {d : Double} {hits : List Hit} {hit : Hit} :
    hit ∈ atDistance d hits ↔ hit ∈ hits ∧ hit.distance = d := by
  simp [atDistance]

lemma atDistance_cons (d : Double) (hit : Hit) (hits : List Hit) :
    atDistance d (hit :: hits) =
      if hit.distance = d then hit :: atDistance d hits else atDistance d hits := by
  by_cases h : hit.distance = d <;> simp [atDistance, h]

@[simp] lemma atDistance_byDistance (d : Double) (hits : List Hit) :
    atDistance d (byDistance hits) = atDistance d hits := by
  refine filter_mergeSort _ nearerLE_trans nearerLE_total (fun a b ha hb => ?_) hits
  have hsame : a.distance = b.distance := (of_decide_eq_true ha).trans (of_decide_eq_true hb).symm
  rw [nearerLE_iff, hsame]

lemma mem_iff_of_atDistance {first second : List Hit}
    (hsame : ∀ d, atDistance d first = atDistance d second) (hit : Hit) :
    hit ∈ first ↔ hit ∈ second := by
  have h := congrArg (hit ∈ ·) (hsame hit.distance)
  simpa using h

/-- Sorted lists with the same hits in the same order at each distance are equal. -/
lemma eq_of_atDistance {first second : List Hit}
    (hfirst : first.Pairwise fun a b => nearerLE a b = true)
    (hsecond : second.Pairwise fun a b => nearerLE a b = true)
    (hsame : ∀ d, atDistance d first = atDistance d second) : first = second := by
  have hmem := mem_iff_of_atDistance hsame
  induction first generalizing second with
  | nil =>
    have hnone : ∀ hit, hit ∉ second := fun hit => by simp [← hmem hit]
    exact (List.eq_nil_iff_forall_not_mem.mpr hnone).symm
  | cons a first ih =>
    cases second with
    | nil => exact absurd ((hmem a).mp List.mem_cons_self) List.not_mem_nil
    | cons b second =>
      have hle : ∀ {c : Hit} {hits : List Hit},
          (c :: hits).Pairwise (fun a b => nearerLE a b = true) →
            ∀ hit ∈ c :: hits, nearerLE c hit = true := by
        intro c hits hsorted hit hhit
        rcases List.mem_cons.mp hhit with rfl | hhit
        · simp
        · exact (List.pairwise_cons.mp hsorted).1 hit hhit
      have hab := nearerLE_iff.mp (hle hfirst b ((hmem b).mpr List.mem_cons_self))
      have hba := nearerLE_iff.mp (hle hsecond a ((hmem a).mp List.mem_cons_self))
      have hdistance : a.distance = b.distance := Binary.orderKey_inj (by omega)
      have hhead := hsame a.distance
      rw [atDistance_cons, atDistance_cons, if_pos rfl, if_pos hdistance.symm] at hhead
      obtain rfl : a = b := (List.cons.inj hhead).1
      have hrest : ∀ d, atDistance d first = atDistance d second := by
        intro d
        have h := hsame d
        rw [atDistance_cons, atDistance_cons] at h
        split at h
        · exact (List.cons.inj h).2
        · exact h
      rw [ih (List.pairwise_cons.mp hfirst).2 (List.pairwise_cons.mp hsecond).2 hrest
        (mem_iff_of_atDistance hrest)]

/-- What a stable sort by distance is. -/
lemma eq_byDistance {sorted hits : List Hit}
    (hsorted : sorted.Pairwise fun a b => nearerLE a b = true)
    (hsame : ∀ d, atDistance d sorted = atDistance d hits) : sorted = byDistance hits :=
  eq_of_atDistance hsorted (pairwise_byDistance hits) fun d => by
    rw [hsame, atDistance_byDistance]

section Block

/-- The chosen hit has nothing nearer before it and nothing as near behind it. -/
lemma nearestOf_split {chosen : Hit} {hits : List Hit} (h : Measured (chosen :: hits)) :
    ∃ before after, chosen :: hits = before ++ nearestOf chosen hits :: after ∧
      (∀ hit ∈ before, nearerLE (nearestOf chosen hits) hit = true) ∧
      ∀ hit ∈ after, nearerLE hit (nearestOf chosen hits) = false := by
  -- a later hit takes the place of the chosen one already if it is as near
  induction hits using List.reverseRecOn with
  | nil => exact ⟨[], [], rfl, by simp, by simp⟩
  | append_singleton hits last ih =>
    have hlast : last.distance.IsMagnitude := h last (by simp)
    have hearlier : Measured (chosen :: hits) := by
      intro hit hhit
      refine h hit ?_
      rcases List.mem_cons.mp hhit with rfl | hhit
      · simp
      · simp [hhit]
    have hbest : (nearestOf chosen hits).distance.IsMagnitude :=
      hearlier _ (nearestOf_mem chosen hits)
    obtain ⟨before, after, hsplit, hbefore, hafter⟩ := ih hearlier
    have hstep : nearestOf chosen (hits ++ [last]) =
        if nearerLE last (nearestOf chosen hits) then last else nearestOf chosen hits := by
      rw [nearestOf, List.foldl_append]
      exact if_congr (atMost_iff hlast hbest) rfl rfl
    rw [hstep]
    split
    case isTrue hle =>
      refine ⟨chosen :: hits, [], by simp, fun hit hhit => ?_, by simp⟩
      rw [hsplit] at hhit
      rcases List.mem_append.mp hhit with hhit | hhit
      · exact nearerLE_trans _ _ _ hle (hbefore hit hhit)
      · rcases List.mem_cons.mp hhit with rfl | hhit
        · exact hle
        · have htotal := nearerLE_total hit (nearestOf chosen hits)
          rw [hafter hit hhit, Bool.false_or] at htotal
          exact nearerLE_trans _ _ _ hle htotal
    case isFalse hle =>
      refine ⟨before, after ++ [last], ?_, hbefore, fun hit hhit => ?_⟩
      · rw [← List.cons_append, hsplit]
        simp
      · rcases List.mem_append.mp hhit with hhit | hhit
        · exact hafter hit hhit
        · obtain rfl := List.mem_singleton.mp hhit
          exact Bool.eq_false_iff.mpr hle

/-- The head of the hits sorted backwards is the chosen one, and the tail has all the others. -/
lemma byDistance_reverse_cons {hit : Hit} {hits : List Hit} (h : Measured (hit :: hits))
    (honce : ((hit :: hits).map (·.id)).Nodup) :
    byDistance (hit :: hits).reverse =
      nearestOf hit (hit :: hits) ::
        byDistance ((hit :: hits).filter (·.id != (nearestOf hit (hit :: hits)).id)).reverse := by
  have hself : nearestOf hit (hit :: hits) = nearestOf hit hits := by
    rw [nearestOf, List.foldl_cons, ite_self]
    rfl
  obtain ⟨before, after, hsplit, hbefore, hafter⟩ := nearestOf_split h
  rw [hself]
  generalize nearestOf hit hits = best at *
  have hothers : (hit :: hits).filter (·.id != best.id) = before ++ after := by
    rw [hsplit, List.map_append, List.map_cons, List.nodup_middle, List.nodup_cons] at honce
    have hne : ∀ other ∈ before ++ after, other.id ≠ best.id := by
      intro other hother hid
      exact honce.1 (hid ▸ List.map_append ▸ List.mem_map_of_mem hother)
    have hkept : ∀ part : List Hit, part ⊆ before ++ after →
        part.filter (·.id != best.id) = part := by
      intro part hpart
      exact List.filter_eq_self.mpr fun other hother => by simpa using hne other (hpart hother)
    rw [hsplit, List.filter_append, List.filter_cons_of_neg (by simp),
      hkept before (List.subset_append_left _ _), hkept after (List.subset_append_right _ _)]
  rw [hothers]
  symm
  refine eq_byDistance (List.pairwise_cons.mpr ⟨fun other hother => ?_, pairwise_byDistance _⟩) ?_
  · have hother : other ∈ before ∨ other ∈ after := by
      have hmem := (byDistance_perm _).mem_iff.mp hother
      simpa [or_comm] using hmem
    rcases hother with hother | hother
    · exact hbefore other hother
    · have htotal := nearerLE_total other best
      rwa [hafter other hother, Bool.false_or] at htotal
  · intro d
    rw [atDistance_cons, atDistance_byDistance, hsplit]
    simp only [List.reverse_append, List.reverse_cons, List.append_assoc, List.cons_append,
      List.nil_append, atDistance_append, atDistance_cons]
    split
    case isTrue hd =>
      -- no later hit is as near as the chosen one
      have hnone : atDistance d after.reverse = [] := by
        refine List.eq_nil_iff_forall_not_mem.mpr fun other hother => ?_
        obtain ⟨hmem, hother⟩ := mem_atDistance.mp hother
        have hle := hafter other (List.mem_reverse.mp hmem)
        simp [nearerLE, hother, hd] at hle
      simp [hnone]
    case isFalse => rfl

/-- The nearest hits of a block are the first ones of its hits sorted backwards. -/
theorem nearestInBlock_eq {hits : List Hit} (h : Measured hits)
    (honce : (hits.map (·.id)).Nodup) (count : Nat) :
    nearestInBlock count hits = (byDistance hits.reverse).take count := by
  fun_induction nearestInBlock count hits with
  | case1 => simp
  | case2 => simp [byDistance]
  | case3 count hit hits best ih =>
    have hsub : ((hit :: hits).filter (·.id != best.id)).Sublist (hit :: hits) :=
      List.filter_sublist
    rw [ih (fun other hother => h other (hsub.subset hother)) (honce.sublist (hsub.map _)),
      byDistance_reverse_cons h honce, List.take_succ_cons]

end Block

section Merge

/-- Of two lists of hits the nearer head comes first, and of equally near ones that of the first
list. -/
lemma mergeHits_cons_cons {a b : Hit} {first second : List Hit} (h : Measured (a :: first))
    (h' : Measured (b :: second)) :
    mergeHits (a :: first) (b :: second) =
      if nearerLE a b then a :: mergeHits first (b :: second)
      else b :: mergeHits (a :: first) second := by
  rw [mergeHits]
  exact if_congr (atMost_iff (h a List.mem_cons_self) (h' b List.mem_cons_self)) rfl rfl

lemma mergeHits_eq_merge {first second : List Hit} (h : Measured first) (h' : Measured second) :
    mergeHits first second = first.merge second nearerLE := by
  induction first generalizing second with
  | nil => simp [mergeHits]
  | cons a first ih =>
    have hfirst : Measured first := fun hit hhit => h hit (List.mem_cons_of_mem _ hhit)
    induction second with
    | nil => simp [mergeHits]
    | cons b second ih' =>
      have hsecond : Measured second := fun hit hhit => h' hit (List.mem_cons_of_mem _ hhit)
      rw [mergeHits_cons_cons h h', List.cons_merge_cons, ih hfirst h', ih' hsecond]

/-- At each distance a merged list has the hits of the first list before those of the second. -/
lemma atDistance_merge (d : Double) {first second : List Hit}
    (hfirst : first.Pairwise fun a b => nearerLE a b = true) :
    atDistance d (first.merge second nearerLE) = atDistance d first ++ atDistance d second := by
  induction first generalizing second with
  | nil => simp [atDistance]
  | cons a first ih =>
    obtain ⟨hle, hrest⟩ := List.pairwise_cons.mp hfirst
    induction second with
    | nil => simp [atDistance]
    | cons b second ih' =>
      rw [List.cons_merge_cons]
      split
      case isTrue hab =>
        rw [atDistance_cons, ih hrest, atDistance_cons d a]
        split <;> rfl
      case isFalse hab =>
        rw [atDistance_cons, ih', atDistance_cons d b]
        split
        case isTrue hd =>
          -- the first list begins behind the distance of `b`
          have hnone : atDistance d (a :: first) = [] := by
            refine List.eq_nil_iff_forall_not_mem.mpr fun other hother => ?_
            obtain ⟨hmem, hother⟩ := mem_atDistance.mp hother
            have haother : nearerLE a other = true := by
              rcases List.mem_cons.mp hmem with rfl | hmem
              · simp
              · exact hle other hmem
            rw [nearerLE_iff, hother, ← hd] at haother
            exact hab (nearerLE_iff.mpr haother)
          rw [hnone]
          rfl
        case isFalse => rfl

/-- Merging sorted lists is sorting them one after the other. -/
lemma mergeHits_byDistance {first second : List Hit} (h : Measured first)
    (h' : Measured second) :
    mergeHits (byDistance first) (byDistance second) = byDistance (first ++ second) := by
  have hmeasured : ∀ {hits : List Hit}, Measured hits → Measured (byDistance hits) :=
    fun hhits hit hhit => hhits hit ((byDistance_perm _).mem_iff.mp hhit)
  rw [mergeHits_eq_merge (hmeasured h) (hmeasured h')]
  refine eq_byDistance ?_ fun d => ?_
  · exact List.pairwise_merge nearerLE_trans nearerLE_total _ _ (pairwise_byDistance first)
      (pairwise_byDistance second)
  · rw [atDistance_merge d (pairwise_byDistance first), atDistance_byDistance,
      atDistance_byDistance, atDistance_append]

@[simp] lemma mergeHits_nil_right (first : List Hit) : mergeHits first [] = first := by
  cases first <;> simp [mergeHits]

/-- The first hits of a merged list come from the first hits of both lists. -/
lemma take_mergeHits (first second : List Hit) {count more other : Nat} (hmore : count ≤ more)
    (hother : count ≤ other) :
    (mergeHits (first.take more) (second.take other)).take count =
      (mergeHits first second).take count := by
  fun_induction mergeHits first second generalizing count more other with
  | case1 second => simp [mergeHits, List.take_take, Nat.min_eq_left hother]
  | case2 first => simp [List.take_take, Nat.min_eq_left hmore]
  | case3 a first b second hle ih =>
    cases count with
    | zero => simp
    | succ count =>
      obtain ⟨more, rfl⟩ : ∃ n, more = n + 1 := ⟨more - 1, by omega⟩
      obtain ⟨other, rfl⟩ : ∃ n, other = n + 1 := ⟨other - 1, by omega⟩
      have hrest : (mergeHits (first.take more) ((b :: second).take (other + 1))).take count =
          (mergeHits first (b :: second)).take count := ih (by omega) (by omega)
      rw [List.take_succ_cons] at hrest
      rw [List.take_succ_cons, List.take_succ_cons, mergeHits, if_pos hle, List.take_succ_cons,
        List.take_succ_cons, hrest]
  | case4 a first b second hle ih =>
    cases count with
    | zero => simp
    | succ count =>
      obtain ⟨more, rfl⟩ : ∃ n, more = n + 1 := ⟨more - 1, by omega⟩
      obtain ⟨other, rfl⟩ : ∃ n, other = n + 1 := ⟨other - 1, by omega⟩
      have hrest : (mergeHits ((a :: first).take (more + 1)) (second.take other)).take count =
          (mergeHits (a :: first) second).take count := ih (by omega) (by omega)
      rw [List.take_succ_cons] at hrest
      rw [List.take_succ_cons, List.take_succ_cons, mergeHits, if_neg hle, List.take_succ_cons,
        List.take_succ_cons, hrest]

end Merge

/-- The hits of blocks, the newest block first, in the order in which a bounded search prefers
equally near ones. -/
def preferredIn (query : Embedding) (blocks : List Block) : List Hit :=
  blocks.reverse.flatMap fun block => (block.hits query).reverse

/-- The hits of a table in the order in which a bounded search prefers equally near ones. -/
def Table.preferred (t : Table) (query : Embedding) : List Hit := preferredIn query t.blocks

lemma preferredIn_cons (query : Embedding) (block : Block) (older : List Block) :
    preferredIn query (block :: older) =
      preferredIn query older ++ (block.hits query).reverse := by
  simp [preferredIn]

theorem Table.preferred_perm (t : Table) (query : Embedding) :
    (t.preferred query).Perm (t.hits query) := by
  rcases t with ⟨dimension, blocks⟩
  simp only [preferred, hits, rows]
  induction blocks with
  | nil => exact .refl _
  | cons block older ih =>
    rw [preferredIn_cons, List.reverse_cons, List.flatMap_append, List.map_append]
    refine ih.append ((List.reverse_perm _).trans ?_)
    rw [List.flatMap_singleton]
    exact .refl _

lemma nearestInBlocks_eq {query : Embedding} {blocks : List Block}
    (h : Measured (preferredIn query blocks))
    (honce : ((preferredIn query blocks).map (·.id)).Nodup) (count : Nat) :
    blocks.foldr (fun block older =>
        (mergeHits older (nearestInBlock count (block.hits query))).take count) [] =
      (byDistance (preferredIn query blocks)).take count := by
  induction blocks with
  | nil => simp [preferredIn, byDistance]
  | cons block older ih =>
    rw [preferredIn_cons] at h honce
    have holder : Measured (preferredIn query older) :=
      fun hit hhit => h hit (List.mem_append_left _ hhit)
    have hblock : Measured (block.hits query).reverse :=
      fun hit hhit => h hit (List.mem_append_right _ hhit)
    rw [List.map_append, List.nodup_append] at honce
    have hslots : Measured (block.hits query) :=
      fun hit hhit => hblock hit (List.mem_reverse.mpr hhit)
    have hnearest := nearestInBlock_eq hslots (by simpa [List.map_reverse] using honce.2.1) count
    rw [List.foldr_cons, ih holder honce.1, hnearest, take_mergeHits _ _ le_rfl le_rfl,
      mergeHits_byDistance holder hblock, preferredIn_cons]

/-- A bounded search sorts the hits by distance and keeps the first ones. -/
theorem Table.nearest_eq {t : Table} {query : Embedding} (h : Measured (t.hits query))
    (honce : ((t.hits query).map (·.id)).Nodup) (count : Nat) :
    t.nearest query count = (byDistance (t.preferred query)).take count := by
  have hperm := t.preferred_perm query
  exact nearestInBlocks_eq (fun hit hhit => h hit (hperm.mem_iff.mp hhit))
    ((hperm.map _).nodup_iff.mpr honce) count

end Findings.Vector
