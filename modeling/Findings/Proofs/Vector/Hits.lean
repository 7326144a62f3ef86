import Findings.Proofs.Number.Magnitude
import Findings.Proofs.Vector.Table
import Findings.Vector.Nearest
import Mathlib.Data.List.Perm.Subperm

/-!
# Hits of a search by embedding

Every hit stands for a stored embedding and none is given twice. For the bounded search this holds
block by block: the nearest hits of a block are some of its hits, and merging two lists of hits
keeps all of them.
-/
namespace Findings.Vector

open Findings.Record

def Table.hits (t : Table) (query : Embedding) : List Hit :=
  t.rows.map fun row => ⟨row.1, distance row.2 query⟩

@[simp] theorem Table.map_id_hits (t : Table) (query : Embedding) :
    (t.hits query).map (·.id) = t.rows.map (·.1) := by
  simp [Table.hits, Function.comp_def]

/-- Some of the hits have distinct ids if all of them have. -/
lemma nodup_ids_of_subperm {some all : List Hit} (h : some.Subperm all)
    (hall : (all.map (·.id)).Nodup) : (some.map (·.id)).Nodup := by
  obtain ⟨middle, hperm, hsub⟩ := h
  exact (hperm.map _).nodup_iff.mp (hall.sublist (hsub.map _))

lemma nearestOf_mem (chosen : Hit) (hits : List Hit) : nearestOf chosen hits ∈ chosen :: hits := by
  rw [nearestOf]
  induction hits generalizing chosen with
  | nil => simp
  | cons hit hits ih =>
    rw [List.foldl_cons]
    split
    · exact List.mem_cons_of_mem _ (ih hit)
    · have := ih chosen
      simp only [List.mem_cons] at this ⊢
      tauto

/-- The nearest hits of a block are some of its hits. -/
lemma nearestInBlock_subperm (count : Nat) (hits : List Hit) :
    (nearestInBlock count hits).Subperm hits := by
  fun_induction nearestInBlock count hits with
  | case1 => exact List.nil_subperm
  | case2 => exact List.nil_subperm
  | case3 count hit hits best ih =>
    have hbest : best ∈ hit :: hits := by
      have := nearestOf_mem hit (hit :: hits)
      simpa [best] using this
    have hrest : [best].Sublist ((hit :: hits).filter fun h => !(h.id != best.id)) := by
      simp [List.singleton_sublist, List.mem_filter, hbest]
    have hparts := List.filter_append_perm (fun h : Hit => h.id != best.id) (hit :: hits)
    have hlast := List.perm_append_singleton best
      (nearestInBlock count ((hit :: hits).filter (·.id != best.id)))
    exact hlast.symm.subperm.trans ((ih.append hrest.subperm).trans hparts.subperm)

lemma mergeHits_perm (first second : List Hit) :
    (mergeHits first second).Perm (first ++ second) := by
  fun_induction mergeHits first second with
  | case1 => exact .refl _
  | case2 => simp
  | case3 a first b second h ih => exact ih.cons a
  | case4 a first b second h ih => exact (ih.cons b).trans List.perm_middle.symm

/-- The nearest hits of a table are some of its hits. -/
theorem Table.nearest_subperm (t : Table) (query : Embedding) (count : Nat) :
    (t.nearest query count).Subperm (t.hits query) := by
  rcases t with ⟨dimension, blocks⟩
  simp only [nearest, hits, rows]
  induction blocks with
  | nil => exact List.nil_subperm
  | cons block older ih =>
    simp only [List.foldr_cons, List.reverse_cons, List.flatMap_append, List.flatMap_singleton,
      List.map_append]
    have hmerged := mergeHits_perm
      (older.foldr (fun block merged =>
        (mergeHits merged (nearestInBlock count (block.hits query))).take count) [])
      (nearestInBlock count (block.hits query))
    refine (List.take_sublist _ _).subperm.trans (hmerged.subperm.trans ?_)
    exact ih.append (nearestInBlock_subperm count (block.hits query))

lemma Table.length_nearest (t : Table) (query : Embedding) (count : Nat) :
    (t.nearest query count).length ≤ count := by
  rcases t with ⟨dimension, _ | ⟨block, older⟩⟩
  · simp [nearest]
  · rw [nearest, List.foldr_cons, List.length_take]
    exact Nat.min_le_left _ _

/-- Some distance of the hits is not a number. -/
def LacksDistance (hits : List Hit) : Prop := ∃ hit ∈ hits, hit.distance.isNaN = true

instance (hits : List Hit) : Decidable (LacksDistance hits) :=
  inferInstanceAs (Decidable (∃ hit ∈ hits, hit.distance.isNaN = true))

lemma LacksDistance.mono {some all : List Hit} (hsub : some ⊆ all) (h : LacksDistance some) :
    LacksDistance all := by
  obtain ⟨hit, hhit, hmissing⟩ := h
  exact ⟨hit, hsub hhit, hmissing⟩

def IsFinite (embedding : Embedding) : Prop := ∀ x ∈ embedding, x.isFinite = true

lemma isMagnitude_squares {a b : Embedding} (ha : IsFinite a) (hb : IsFinite b)
    {sum : Number.Single} (hsum : sum.IsMagnitude) : (squares sum a b).IsMagnitude := by
  fun_induction squares sum a b with
  | case1 sum x a y b difference ih =>
    have hdifference : difference.isNaN = false :=
      Number.Binary.isNaN_sub (ha x (by simp)) (hb y (by simp))
    have hsquare := Number.Binary.isMagnitude_square (by decide) hdifference
    exact ih (fun z hz => ha z (by simp [hz])) (fun z hz => hb z (by simp [hz]))
      (hsum.add hsquare)
  | case2 => exact hsum

/-- Finite embeddings have a distance. -/
theorem isNaN_distance {a b : Embedding} (ha : IsFinite a) (hb : IsFinite b) :
    (distance a b).isNaN = false := by
  have hsquares := isMagnitude_squares ha hb Number.Binary.isMagnitude_zero
  exact Number.Binary.isNaN_convert _ (hsquares.sqrt (by decide)).number

theorem Table.not_lacksDistance_hits {t : Table} {query : Embedding} (hquery : IsFinite query)
    (hrows : ∀ stored ∈ t.rows, IsFinite stored.2) : ¬ LacksDistance (t.hits query) := by
  rintro ⟨hit, hhit, hmissing⟩
  obtain ⟨stored, hstored, rfl⟩ := List.mem_map.mp hhit
  rw [isNaN_distance (hrows stored hstored) hquery] at hmissing
  exact Bool.false_ne_true hmissing

/-- Hits are sorted if all distances are numbers. -/
theorem sortHits_eq (hits : List Hit) :
    sortHits hits =
      if LacksDistance hits then .error .noDistance else .ok (hits.mergeSort hitLE) := by
  rw [sortHits]
  exact if_congr (by simp [LacksDistance]) rfl rfl

theorem boundedSearch_eq_ok {t : Table} {query : Embedding} {count : Nat} {hits : List Hit}
    (h : boundedSearch t query count = .ok hits) : hits.Perm (t.nearest query count) := by
  unfold boundedSearch at h
  split_ifs at h
  rw [sortHits_eq] at h
  split_ifs at h
  cases h
  exact List.mergeSort_perm _ _

/-- The hits of wanted embeddings. -/
def Table.wantedHits (t : Table) (query : Embedding) (wanted : Int → Bool) : List Hit :=
  (t.hits query).filter fun hit => wanted hit.id

theorem fullScan_eq (t : Table) (query : Embedding) (wanted : Int → Bool) (count : Nat) :
    fullScan t query wanted count =
      if t.wantedHits query wanted = [] then .ok []
      else if query = [] then .error .emptyDistance
      else if query.length ≠ t.dimension then .error (.distanceLength t.dimension query.length)
      else sortHits (((t.wantedHits query wanted).mergeSort scanLE).take count) := by
  have hwanted : t.wantedHits query wanted =
      (t.rows.filter fun row => wanted row.1).map fun row => ⟨row.1, distance row.2 query⟩ := by
    rw [Table.wantedHits, Table.hits, List.filter_map]
    rfl
  simp only [fullScan, hwanted, List.map_eq_nil_iff, List.isEmpty_iff]

lemma hitLE_iff {a b : Hit} :
    hitLE a b = true ↔ a.distance.orderKey < b.distance.orderKey ∨
      a.distance.orderKey = b.distance.orderKey ∧ a.id ≤ b.id := by
  have hkey : a.distance = b.distance ↔ a.distance.orderKey = b.distance.orderKey :=
    ⟨congrArg _, Number.Binary.orderKey_inj⟩
  simp [hitLE, hkey]

lemma scanLE_trans (a b c : Hit) (hab : scanLE a b = true) (hbc : scanLE b c = true) :
    scanLE a c = true := by
  unfold scanLE at *
  cases ha : a.distance.isNaN <;> cases hb : b.distance.isNaN <;> cases hc : c.distance.isNaN <;>
    simp_all [hitLE_iff] <;> omega

lemma scanLE_total (a b : Hit) : (scanLE a b || scanLE b a) = true := by
  unfold scanLE
  cases ha : a.distance.isNaN <;> cases hb : b.distance.isNaN <;> simp [hitLE_iff] <;> omega

/-- Missing distances come first in a full scan, so that no limit cuts off all of them. -/
lemma lacksDistance_take {hits : List Hit} {count : Nat} (hcount : count ≠ 0) :
    LacksDistance ((hits.mergeSort scanLE).take count) ↔ LacksDistance hits := by
  have hsorted := List.pairwise_mergeSort scanLE_trans scanLE_total hits
  have hperm := List.mergeSort_perm hits scanLE
  constructor
  · rintro ⟨hit, hhit, hmissing⟩
    exact ⟨hit, hperm.mem_iff.mp (List.mem_of_mem_take hhit), hmissing⟩
  · rintro ⟨hit, hhit, hmissing⟩
    have hmem := hperm.mem_iff.mpr hhit
    cases hscan : hits.mergeSort scanLE with
    | nil => simp [hscan] at hmem
    | cons first rest =>
      obtain ⟨count, rfl⟩ := Nat.exists_eq_succ_of_ne_zero hcount
      refine ⟨first, by simp, ?_⟩
      rw [hscan] at hmem hsorted
      rcases List.mem_cons.mp hmem with rfl | hmem
      · exact hmissing
      · have hle := (List.pairwise_cons.mp hsorted).1 hit hmem
        by_contra hnumber
        simp [scanLE, hmissing, hnumber] at hle

/-- A bounded search fails if the query does not fit or a nearest hit has no distance. -/
theorem boundedSearch_eq_error_iff {t : Table} {query : Embedding} {count : Nat}
    (hdimension : 0 < t.dimension) :
    (∃ f, boundedSearch t query count = .error f) ↔
      query.length ≠ t.dimension ∨ LacksDistance (t.nearest query count) := by
  have hzero : 0 ≠ t.dimension := by omega
  unfold boundedSearch
  by_cases hempty : query = []
  · simp [hempty, hzero]
  · rw [sortHits_eq]
    by_cases hlength : query.length = t.dimension
    · by_cases hmissing : LacksDistance (t.nearest query count) <;> simp [hempty, hlength, hmissing]
    · simp [hempty, hlength]

/-- A full scan fails if it has candidates and the query does not fit or some of them have no
distance. -/
theorem fullScan_eq_error_iff {t : Table} {query : Embedding} {wanted : Int → Bool} {count : Nat}
    (hdimension : 0 < t.dimension) (hcount : count ≠ 0) :
    (∃ f, fullScan t query wanted count = .error f) ↔
      t.wantedHits query wanted ≠ [] ∧
        (query.length ≠ t.dimension ∨ LacksDistance (t.wantedHits query wanted)) := by
  have hzero : 0 ≠ t.dimension := by omega
  rw [fullScan_eq, sortHits_eq]
  simp only [lacksDistance_take hcount]
  by_cases hhits : t.wantedHits query wanted = []
  · simp [hhits]
  · by_cases hempty : query = []
    · simp [hempty, hzero, hempty ▸ hhits]
    · by_cases hlength : query.length = t.dimension
      · by_cases hmissing : LacksDistance (t.wantedHits query wanted) <;>
          simp [hhits, hempty, hlength, hmissing]
      · simp [hhits, hempty, hlength]

theorem fullScan_eq_ok {t : Table} {query : Embedding} {wanted : Int → Bool} {count : Nat}
    {hits : List Hit} (h : fullScan t query wanted count = .ok hits) :
    hits.length ≤ count ∧ hits.Subperm (t.wantedHits query wanted) := by
  rw [fullScan_eq] at h
  split_ifs at h
  · cases h
    exact ⟨Nat.zero_le _, List.nil_subperm⟩
  · rw [sortHits_eq] at h
    split_ifs at h
    cases h
    refine ⟨?_, ?_⟩
    · rw [List.length_mergeSort, List.length_take]
      exact Nat.min_le_left _ _
    · exact (List.mergeSort_perm _ _).subperm.trans
        ((List.take_sublist _ _).subperm.trans (List.mergeSort_perm _ _).subperm)

end Findings.Vector
