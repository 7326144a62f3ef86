import Findings.Proofs.Search.ByVector

/-!
# Nearest findings

However a search by embedding goes about it, by blocks or by a scan, it gives the nearest of the
findings that have an embedding and are of the wanted kind, and as many of them as there are up to
the limit. So a filter by kind acts before the cutoff.
-/
namespace Findings.Search

open Findings.Record
open Findings.Store
open Findings.Vector

variable {t : Tables} {query : Embedding} {limit : Nat} {kind : Option Kind}

/-- The findings that a search by embedding may give: those with an embedding, and of the kind if
one is wanted. -/
def candidates (t : Tables) (kind : Option Kind) : List Row :=
  t.findings.filter fun row => (t.vectors.find? row.id).isSome && kind.all (row.kind == ·.name)

lemma mem_candidates {row : Row} :
    row ∈ candidates t kind ↔
      row ∈ t.findings ∧ (t.vectors.find? row.id).isSome ∧ ∀ k ∈ kind, row.kind = k.name := by
  simp [candidates, Option.all_eq_true]

/-- A hit stands for the embedding of its id. -/
lemma mem_hits_iff (h : Coherent t) {hit : Hit} :
    hit ∈ t.vectors.hits query ↔
      ∃ embedding, t.vectors.find? hit.id = some embedding ∧
        hit.distance = distance embedding query := by
  simp only [Table.find?_eq_some_iff h.embeddedOnce, Table.hits, List.mem_map]
  constructor
  · rintro ⟨row, hrow, rfl⟩
    exact ⟨row.2, hrow, rfl⟩
  · rintro ⟨embedding, hstored, hdistance⟩
    exact ⟨(hit.id, embedding), hstored, by rw [← hdistance]⟩

/-- The ids of the wanted hits are those of the candidates. -/
lemma mem_ids_wantedHits (h : Coherent t) {id : Int} :
    id ∈ (t.vectors.wantedHits query (isWanted t.findings kind)).map (·.id) ↔
      id ∈ (candidates t kind).map (·.id) := by
  simp only [List.mem_map, Table.wantedHits, List.mem_filter, mem_hits_iff h, mem_candidates]
  constructor
  · rintro ⟨hit, ⟨⟨embedding, hfound, -⟩, hwanted⟩, rfl⟩
    obtain ⟨row, hrow, hid, hkind⟩ := isWanted_iff.mp hwanted
    exact ⟨row, ⟨hrow, by rw [hid, hfound]; rfl, hkind⟩, hid⟩
  · rintro ⟨row, ⟨hrow, hsome, hkind⟩, rfl⟩
    obtain ⟨embedding, hfound⟩ := Option.isSome_iff_exists.mp hsome
    exact ⟨⟨row.id, distance embedding query⟩,
      ⟨⟨embedding, hfound, rfl⟩, isWanted_iff.mpr ⟨row, hrow, rfl, hkind⟩⟩, rfl⟩

/-- There is one wanted hit for each candidate. -/
lemma length_wantedHits (h : Coherent t) (query : Embedding) (kind : Option Kind) :
    (t.vectors.wantedHits query (isWanted t.findings kind)).length =
      (candidates t kind).length := by
  have hhits : ((t.vectors.wantedHits query (isWanted t.findings kind)).map (·.id)).Nodup :=
    (nodup_hits h).sublist (List.filter_sublist.map _)
  have hrows : ((candidates t kind).map (·.id)).Nodup :=
    (rising_nodup h.rising).sublist (List.filter_sublist.map _)
  have hperm := (List.perm_ext_iff_of_nodup hhits hrows).mpr fun id => mem_ids_wantedHits h
  simpa using hperm.length_eq

/-- Some of the hits up to a limit: as many as there are, in order, and none that is left out is
nearer than one that is kept. -/
structure IsCutoff (all : List Hit) (limit : Nat) (kept : List Hit) : Prop where
  length_eq : kept.length = min limit all.length
  mem : ∀ hit ∈ kept, hit ∈ all
  once : (kept.map (·.id)).Nodup
  sorted : kept.Pairwise fun a b => hitLE a b = true
  nearer : ∀ left ∈ all, left ∉ kept → ∀ hit ∈ kept, nearerLE hit left = true

/-- The first hits in order are a cutoff. -/
lemma isCutoff_take {all : List Hit} (honce : (all.map (·.id)).Nodup) (limit : Nat) :
    IsCutoff all limit ((inOrder all).take limit) where
  length_eq := by rw [List.length_take, (inOrder_perm all).length_eq]
  mem hit hhit := mem_inOrder.mp (List.mem_of_mem_take hhit)
  once := (((inOrder_perm all).map _).nodup_iff.mpr honce).sublist
    ((List.take_sublist _ _).map _)
  sorted := (pairwise_inOrder all).sublist (List.take_sublist _ _)
  nearer left hleft hout hit hhit := nearerLE_of_hitLE (hitLE_of_not_mem_take hhit hleft hout)

/-- What a bounded search keeps is a cutoff. -/
lemma isCutoff_keep {all preferred : List Hit} (honce : (all.map (·.id)).Nodup)
    (hperm : preferred.Perm all) (limit : Nat) : IsCutoff all limit (keep limit preferred) where
  length_eq := by
    rw [keep, (inOrder_perm _).length_eq, List.length_take, (byDistance_perm _).length_eq,
      hperm.length_eq]
  mem hit hhit := by
    have hmem := List.mem_of_mem_take (mem_keep.mp hhit)
    exact hperm.mem_iff.mp ((byDistance_perm preferred).mem_iff.mp hmem)
  once := by
    have hall := (((byDistance_perm preferred).trans hperm).map (·.id)).nodup_iff.mpr honce
    exact ((inOrder_perm _).map _).nodup_iff.mpr (hall.sublist ((List.take_sublist _ _).map _))
  sorted := pairwise_inOrder _
  nearer left hleft hout hit hhit :=
    nearerLE_of_not_mem_keep hhit (hperm.mem_iff.mpr hleft) hout

/-- Both ways of searching cut off the wanted hits at the limit. -/
theorem byVector_isCutoff (h : Coherent t) (hlength : query.length = t.vectors.dimension)
    (hmeasured : Measured (t.vectors.hits query)) (limit : Nat) (kind : Option Kind) :
    ∃ hits, byVector query t.vectors.dimension limit kind t.store = (.ok hits, t.store) ∧
      IsCutoff (t.vectors.wantedHits query (isWanted t.findings kind)) limit hits := by
  by_cases hbounded : kind = none ∧ limit ≤ maxNearest
  · obtain ⟨rfl, hlimit⟩ := hbounded
    have hall : t.vectors.wantedHits query (isWanted t.findings none) = t.vectors.hits query :=
      wantedHits_eq_hits fun stored hstored => isWanted_embedded h (by simp) hstored
    refine ⟨_, byVector_bounded h hlength hmeasured hlimit, ?_⟩
    rw [hall]
    exact isCutoff_keep (nodup_hits h) (t.vectors.preferred_perm query) limit
  · have hscan : kind.isSome ∨ maxNearest < limit := by
      cases kind with
      | none => exact .inr (Nat.lt_of_not_le fun hlimit => hbounded ⟨rfl, hlimit⟩)
      | some k => exact .inl rfl
    refine ⟨_, byVector_scanned h hlength hmeasured hscan, ?_⟩
    exact isCutoff_take ((nodup_hits h).sublist (List.filter_sublist.map _)) limit

/-- The nearest candidates up to a limit, in order of distance and id. -/
structure AreNearest (t : Tables) (query : Embedding) (limit : Nat) (kind : Option Kind)
    (hits : List Hit) : Prop where
  length_eq : hits.length = min limit (candidates t kind).length
  once : (hits.map (·.id)).Nodup
  candidate : ∀ hit ∈ hits, ∃ row ∈ candidates t kind, row.id = hit.id
  /-- Every distance is that of the query from the embedding that the finding has now. -/
  distance_eq : ∀ hit ∈ hits, ∃ embedding, t.vectors.find? hit.id = some embedding ∧
    hit.distance = distance embedding query
  rising : hits.Pairwise fun a b =>
    a.distance.lt b.distance = true ∨ a.distance = b.distance ∧ a.id < b.id
  /-- No candidate that is left out is nearer than a hit. -/
  nearest : ∀ row ∈ candidates t kind, row.id ∉ hits.map (·.id) →
    ∀ embedding, t.vectors.find? row.id = some embedding →
      ∀ hit ∈ hits, (distance embedding query).lt hit.distance = false

/-- Hits of different ids that are in order rise. -/
lemma rising_of_sorted {hits : List Hit} (hmeasured : Measured hits)
    (honce : (hits.map (·.id)).Nodup) (hsorted : hits.Pairwise fun a b => hitLE a b = true) :
    hits.Pairwise fun a b =>
      a.distance.lt b.distance = true ∨ a.distance = b.distance ∧ a.id < b.id := by
  have hdistinct : hits.Pairwise fun a b => a.id ≠ b.id := List.pairwise_map.mp honce
  apply (hsorted.and hdistinct).imp_of_mem
  intro a b ha hb hboth
  obtain ⟨hle, hne⟩ := hboth
  rw [(hmeasured a ha).lt_iff (hmeasured b hb)]
  obtain hlt | ⟨hkey, hid⟩ := hitLE_iff.mp hle
  · exact .inl hlt
  · exact .inr ⟨Number.Binary.orderKey_inj hkey, by omega⟩

/-- A cutoff of the wanted hits gives the nearest candidates. -/
theorem IsCutoff.areNearest (h : Coherent t) (hmeasured : Measured (t.vectors.hits query))
    {hits : List Hit}
    (hcutoff : IsCutoff (t.vectors.wantedHits query (isWanted t.findings kind)) limit hits) :
    AreNearest t query limit kind hits := by
  have hsub : ∀ hit ∈ hits, hit ∈ t.vectors.hits query :=
    fun hit hhit => List.mem_of_mem_filter (hcutoff.mem hit hhit)
  constructor
  case length_eq => rw [hcutoff.length_eq, length_wantedHits h]
  case once => exact hcutoff.once
  case candidate =>
    intro hit hhit
    have hid := (mem_ids_wantedHits h).mp (List.mem_map_of_mem (hcutoff.mem hit hhit))
    simpa using hid
  case distance_eq => exact fun hit hhit => (mem_hits_iff h).mp (hsub hit hhit)
  case rising => exact rising_of_sorted (hmeasured.of_subset hsub) hcutoff.once hcutoff.sorted
  case nearest =>
    intro row hrow hout embedding hfound hit hhit
    -- the hit of the candidate is among the wanted ones
    obtain ⟨hmem, -, hkind⟩ := mem_candidates.mp hrow
    have hleft : (⟨row.id, distance embedding query⟩ : Hit) ∈
        t.vectors.wantedHits query (isWanted t.findings kind) := by
      apply List.mem_filter.mpr
      exact ⟨(mem_hits_iff h).mpr ⟨embedding, hfound, rfl⟩,
        isWanted_iff.mpr ⟨row, hmem, rfl, hkind⟩⟩
    have hle := nearerLE_iff.mp
      (hcutoff.nearer _ hleft (fun hin => hout (List.mem_map_of_mem hin)) hit hhit)
    have hother := hmeasured _ (List.mem_of_mem_filter hleft)
    rw [Bool.eq_false_iff, ne_eq, hother.lt_iff (hmeasured hit (hsub hit hhit))]
    omega

/-- In every reachable store with a schema, a search by embedding for a query that has a distance
from every embedding gives the nearest of the findings that it may give, for every limit and with
or without a kind. -/
theorem nearest_findings_given {s : Store} (hs : Reachable s) (hschema : s.hasSchema = true) :
    ∃ t : Tables, s = t.store ∧ Coherent t ∧
      ∀ (query : Embedding) (limit : Nat) (kind : Option Kind),
        query.length = t.vectors.dimension → ¬ LacksDistance (t.vectors.hits query) →
          ∃ hits, byVector query t.vectors.dimension limit kind s = (.ok hits, s) ∧
            AreNearest t query limit kind hits := by
  obtain rfl | ⟨dimension, t, rfl, ht, -⟩ := reachable_cases hs
  · exact absurd hschema Bool.false_ne_true
  · refine ⟨t, rfl, ht, fun query limit kind hlength hnumbers => ?_⟩
    have hmeasured := Table.measured_hits hnumbers
    obtain ⟨hits, hok, hcutoff⟩ := byVector_isCutoff ht hlength hmeasured limit kind
    exact ⟨hits, hok, hcutoff.areNearest ht hmeasured⟩

/-- Two of three praises are given, although two blockers are nearer. -/
theorem nearest_findings_given_of_kind :
    let opened : Handle := ⟨"findings.db", 1⟩
    let insert (kind : Kind) (distance : Nat) : Operation :=
      .insert opened { session := "s", kind, content := "a", severity := .low }
        (some [.ofNat distance])
    let s := run [.applySchema opened, insert .blocker 0, insert .praise 2, insert .praise 1,
      insert .blocker 0, insert .praise 3] {}
    Reachable s ∧ s.hasSchema = true ∧ ∃ (t : Tables) (hits : List Hit), s = t.store ∧
      origin.length = t.vectors.dimension ∧ ¬ LacksDistance (t.vectors.hits origin) ∧
      t.vectors.hits origin = [⟨1, .ofNat 0⟩, ⟨2, .ofNat 2⟩, ⟨3, .ofNat 1⟩, ⟨4, .ofNat 0⟩,
        ⟨5, .ofNat 3⟩] ∧
      (candidates t (some .praise)).map (·.id) = [2, 3, 5] ∧
      AreNearest t origin 2 (some .praise) hits ∧ hits.length = 2 := by
  intro opened insert s
  have hread : (s.vectors.bind fun vectors => s.findings.map fun findings =>
      (vectors.dimension, vectors.hits origin,
        (candidates ⟨[], findings, [], vectors, 0⟩ (some .praise)).map (·.id))) =
      some (1, [⟨1, .ofNat 0⟩, ⟨2, .ofNat 2⟩, ⟨3, .ofNat 1⟩, ⟨4, .ofNat 0⟩, ⟨5, .ofNat 3⟩],
        [2, 3, 5]) := by decide +kernel
  have hnumbers : ¬ LacksDistance [⟨1, .ofNat 0⟩, ⟨2, .ofNat 2⟩, ⟨3, .ofNat 1⟩, ⟨4, .ofNat 0⟩,
      ⟨5, .ofNat 3⟩] := by decide +kernel
  have hreachable : Reachable s := ⟨_, rfl⟩
  have hschema : s.hasSchema = true := by decide +kernel
  clear_value s
  obtain ⟨t, rfl, -, hgiven⟩ := nearest_findings_given hreachable hschema
  simp only [Tables.store, Option.bind_some, Option.map_some, Option.some.injEq,
    Prod.mk.injEq] at hread
  obtain ⟨hdimension, hhits, hcandidates⟩ := hread
  rw [← hhits] at hnumbers
  obtain ⟨hits, -, hnearest⟩ := hgiven origin 2 (some .praise) hdimension.symm hnumbers
  refine ⟨hreachable, hschema, t, hits, rfl, hdimension.symm, hnumbers, hhits, hcandidates,
    hnearest, ?_⟩
  have hcount : (candidates t (some .praise)).length = 3 := by
    rw [← List.length_map (·.id), show (candidates t _).map (·.id) = _ from hcandidates]
    rfl
  rw [hnearest.length_eq, hcount]
  rfl

end Findings.Search
