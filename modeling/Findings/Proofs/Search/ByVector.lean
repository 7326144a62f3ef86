import Findings.Proofs.Search.Legs
import Findings.Proofs.Store.Runs
import Findings.Proofs.Vector.Cutoff

/-!
# Both ways of searching by embedding

Up to the largest bounded search the table of embeddings is asked for its nearest rows, beyond it
and for one kind of findings all rows are scanned. The bounded search cuts off before it sorts, so
that its answer is the scan's except for hits as far away as the last one: of these it keeps the
ones in the older blocks, and in a block the ones in the later slots, whatever their ids are.
-/
namespace Findings.Search

open Findings.Record
open Findings.Store
open Findings.Vector

variable {t : Tables} {query : Embedding} {limit : Nat}

/-- A query that fits a table with embeddings is not empty. -/
lemma query_ne_nil (h : Coherent t) (hlength : query.length = t.vectors.dimension)
    (hrows : t.vectors.rows ≠ []) : query ≠ [] := by
  obtain ⟨stored, hstored⟩ := List.exists_mem_of_ne_nil _ hrows
  have hfilled := h.filled stored hstored
  have hdimension := h.lengths stored hstored
  intro hempty
  rw [hempty, List.length_nil] at hlength
  exact hfilled (List.length_eq_zero_iff.mp (by omega))

lemma nodup_hits (h : Coherent t) : ((t.vectors.hits query).map (·.id)).Nodup := by
  rw [Table.map_id_hits]
  exact h.embeddedOnce

/-- Up to the largest bounded search the first hits by distance are given. -/
lemma byVector_bounded (h : Coherent t) (hlength : query.length = t.vectors.dimension)
    (hmeasured : Measured (t.vectors.hits query)) (hlimit : limit ≤ maxNearest) :
    byVector query t.vectors.dimension limit none t.store =
      (.ok (keep limit (t.vectors.preferred query)), t.store) := by
  rw [byVector_store, if_neg (not_not.mpr hlength)]
  split
  case isTrue hnothing =>
    have hkept : keep limit (t.vectors.preferred query) = [] := by
      rcases hnothing with hzero | hrows
      · simp [keep, inOrder, hzero]
      · have hperm := t.vectors.preferred_perm query
        rw [Table.hits, hrows, List.map_nil] at hperm
        simp [keep, inOrder, byDistance, hperm.eq_nil]
    rw [hkept]
  case isFalse hsome =>
    have hquery := query_ne_nil h hlength fun hrows => hsome (.inr hrows)
    rw [scanOf, if_pos (by simpa using hlimit),
      boundedSearch_eq hquery hlength hmeasured (nodup_hits h)]
    rfl

/-- A scan gives the first of all wanted hits in order. -/
lemma byVector_scanned (h : Coherent t) (hlength : query.length = t.vectors.dimension)
    (hmeasured : Measured (t.vectors.hits query)) {kind : Option Kind}
    (hscan : kind.isSome ∨ maxNearest < limit) :
    byVector query t.vectors.dimension limit kind t.store =
      (.ok ((inOrder (t.vectors.wantedHits query (isWanted t.findings kind))).take limit),
        t.store) := by
  rw [byVector_store, if_neg (not_not.mpr hlength)]
  split
  case isTrue hnothing =>
    have hkept :
        (inOrder (t.vectors.wantedHits query (isWanted t.findings kind))).take limit = [] := by
      rcases hnothing with hzero | hrows
      · rw [hzero, List.take_zero]
      · simp [Table.wantedHits, Table.hits, hrows, inOrder]
    rw [hkept]
  case isFalse hsome =>
    have hunbounded : ¬ (kind.isNone && decide (limit ≤ maxNearest)) = true := by
      rcases hscan with hkind | hlarge
      · simp [Option.isNone_eq_false_iff.mpr hkind]
      · simp [Nat.not_le.mpr hlarge]
    rw [scanOf, if_neg hunbounded, fullScan_eq_take (query_ne_nil h hlength) hlength hmeasured]
    rfl

/-- If every embedded finding is wanted then so is every hit. -/
lemma wantedHits_eq_hits {wanted : Int → Bool}
    (hwanted : ∀ stored ∈ t.vectors.rows, wanted stored.1 = true) :
    t.vectors.wantedHits query wanted = t.vectors.hits query := by
  refine List.filter_eq_self.mpr fun hit hhit => ?_
  obtain ⟨stored, hstored, rfl⟩ := List.mem_map.mp hhit
  exact hwanted stored hstored

lemma isWanted_embedded (h : Coherent t) {kind : Option Kind}
    (hkind : ∀ row ∈ t.findings, (t.vectors.find? row.id).isSome → ∀ k ∈ kind, row.kind = k.name)
    {stored : Stored} (hstored : stored ∈ t.vectors.rows) :
    isWanted t.findings kind stored.1 = true := by
  obtain ⟨row, hrow, hid⟩ := h.embedded stored hstored
  refine isWanted_iff.mpr ⟨row, hrow, hid, hkind row hrow ?_⟩
  rw [Option.isSome_iff_ne_none, ne_eq, Table.find?_eq_none_iff, hid]
  exact fun hnone => hnone stored hstored rfl

/-- What a bounded search and a scan of the same tables give for a query and a limit, and how the
two answers are related. -/
structure BothWays (t : Tables) (query : Embedding) (limit : Nat) (bounded scanned : List Hit) :
    Prop where
  bounded_ok : byVector query t.vectors.dimension limit none t.store = (.ok bounded, t.store)
  scan_ok : fullScan t.vectors query (isWanted t.findings none) limit = .ok scanned
  kept : bounded = ((byDistance (t.vectors.preferred query)).take limit).mergeSort hitLE
  first : scanned = ((t.vectors.hits query).mergeSort hitLE).take limit
  agree : AgreeUpToTies (t.vectors.hits query) bounded scanned
  eq_iff : bounded = scanned ↔ ∀ kept ∈ bounded, ∀ left ∈ t.vectors.hits query, left ∉ bounded →
    left.distance = kept.distance → kept.id < left.id
  raised : ∀ larger, maxNearest < larger → ∃ hits,
    byVector query t.vectors.dimension larger none t.store = (.ok hits, t.store) ∧
      hits.take limit = scanned
  filtered : ∀ k : Kind,
    (∀ row ∈ t.findings, (t.vectors.find? row.id).isSome → row.kind = k.name) →
      byVector query t.vectors.dimension limit (some k) t.store = (.ok scanned, t.store)

theorem bothWays_of_coherent (h : Coherent t) (hlength : query.length = t.vectors.dimension)
    (hmeasured : Measured (t.vectors.hits query)) (hlimit : limit ≤ maxNearest) :
    BothWays t query limit (keep limit (t.vectors.preferred query))
      ((inOrder (t.vectors.hits query)).take limit) := by
  have hperm := t.vectors.preferred_perm query
  have horder : inOrder (t.vectors.preferred query) = inOrder (t.vectors.hits query) :=
    inOrder_eq_of_perm hperm
  have hall : t.vectors.wantedHits query (isWanted t.findings none) = t.vectors.hits query :=
    wantedHits_eq_hits fun stored hstored => isWanted_embedded h (by simp) hstored
  constructor
  case bounded_ok => exact byVector_bounded h hlength hmeasured hlimit
  case scan_ok =>
    rw [fullScan_eq_take (query_ne_nil h hlength) hlength hmeasured, hall]
  case kept => rfl
  case first => rfl
  case agree =>
    have hagree := agreeUpToTies_keep limit (t.vectors.preferred query)
    rw [horder] at hagree
    exact ⟨hagree.distances, fun hit hhit => hagree.nearer hit (hperm.mem_iff.mpr hhit)⟩
  case eq_iff =>
    have honce : ((t.vectors.preferred query).map (·.id)).Nodup :=
      (hperm.map _).nodup_iff.mpr (nodup_hits h)
    rw [← horder, keep_eq_take_iff honce]
    simp only [hperm.mem_iff]
  case raised =>
    intro larger hlarger
    refine ⟨_, byVector_scanned h hlength hmeasured (.inr hlarger), ?_⟩
    rw [hall, List.take_take, Nat.min_eq_left (by omega)]
  case filtered =>
    intro k hkind
    have hwanted : t.vectors.wantedHits query (isWanted t.findings (some k)) =
        t.vectors.hits query :=
      wantedHits_eq_hits fun stored hstored => isWanted_embedded h (by simpa using hkind) hstored
    rw [byVector_scanned h hlength hmeasured (.inl rfl), hwanted]

/-- In every reachable store with a schema, both ways of searching for a query with a distance
from every embedding give answers, and they differ at most in which of the hits at the cutoff
they keep. -/
theorem bounded_search_agrees_up_to_ties {s : Store} (hs : Reachable s)
    (hschema : s.hasSchema = true) :
    ∃ t : Tables, s = t.store ∧ Coherent t ∧ ∀ (query : Embedding) (limit : Nat),
      query.length = t.vectors.dimension → ¬ LacksDistance (t.vectors.hits query) →
      limit ≤ maxNearest → ∃ bounded scanned, BothWays t query limit bounded scanned := by
  rcases reachable_cases hs with rfl | ⟨dimension, t, rfl, ht, -⟩
  · exact absurd hschema Bool.false_ne_true
  · refine ⟨t, rfl, ht, fun query limit hlength hnumbers hlimit => ?_⟩
    exact ⟨_, _, bothWays_of_coherent ht hlength (Table.measured_hits hnumbers) hlimit⟩

/-- The zero embedding of one dimension. -/
def origin : Embedding := [Number.Binary.zero]

/-- A store of findings with the same embedding, where the first was deleted and its slot has been
used again. -/
def reusedSlot : Store :=
  let handle : Handle := ⟨"findings.db", 1⟩
  let insert : Operation := .insert handle
    { session := "s1", kind := .praise, content := "a", severity := .low } (some origin)
  run [.applySchema handle, insert, insert, insert, .delete handle 1, insert] {}

/-- What is read off the tables of the store with the slot used again. -/
lemma reusedSlot_eq_store : ∃ t : Tables, reusedSlot = t.store ∧ t.vectors.dimension = 1 ∧
    t.vectors.hits origin =
      [⟨4, Number.Binary.zero⟩, ⟨2, Number.Binary.zero⟩, ⟨3, Number.Binary.zero⟩] ∧
    t.vectors.wantedHits origin (isWanted t.findings none) = t.vectors.hits origin := by
  have hread : (reusedSlot.vectors.bind fun vectors => reusedSlot.findings.map fun findings =>
      (vectors.dimension, vectors.hits origin,
        decide (vectors.wantedHits origin (isWanted findings none) = vectors.hits origin))) =
      some (1, [⟨4, Number.Binary.zero⟩, ⟨2, Number.Binary.zero⟩, ⟨3, Number.Binary.zero⟩],
        true) := by decide +kernel
  have hschema : reusedSlot.hasSchema = true := rfl
  rcases reachable_cases (s := reusedSlot) ⟨_, rfl⟩ with hempty | ⟨dimension, t, ht, -, -⟩
  · rw [hempty] at hschema
    exact absurd hschema Bool.false_ne_true
  · rw [ht] at hread
    simp only [Tables.store, Option.bind_some, Option.map_some, Option.some.injEq, Prod.mk.injEq,
      decide_eq_true_eq] at hread
    exact ⟨t, ht, hread⟩

/-- Of three hits at the same distance two are kept. -/
theorem bounded_search_agrees_up_to_ties_reused_slot :
    ∃ (t : Tables) (bounded scanned : List Hit), reusedSlot = t.store ∧
      BothWays t origin 2 bounded scanned ∧ bounded.length = 2 := by
  obtain ⟨t, ht, hdimension, hhits, -⟩ := reusedSlot_eq_store
  obtain ⟨u, hu, -, hways⟩ := bounded_search_agrees_up_to_ties (s := reusedSlot) ⟨_, rfl⟩ rfl
  have hvectors : u.vectors = t.vectors :=
    Option.some.inj (congrArg Store.vectors (hu.symm.trans ht))
  rw [← hvectors] at hdimension hhits
  obtain ⟨bounded, scanned, hboth⟩ := hways origin 2 hdimension.symm
    (by rw [hhits]; decide) (by decide)
  have hlength : (u.vectors.preferred origin).length = 3 := by
    rw [(u.vectors.preferred_perm _).length_eq, hhits]
    rfl
  refine ⟨u, bounded, scanned, hu, hboth, ?_⟩
  rw [hboth.kept, List.length_mergeSort, List.length_take, (byDistance_perm _).length_eq, hlength]
  rfl

/-- Of three hits at the same distance the bounded search keeps one, and it is not the one that the
scan keeps, which has the lowest id. -/
theorem bounded_search_keeps_higher_id :
    Reachable reusedSlot ∧ ∃ t : Tables, reusedSlot = t.store ∧ t.vectors.dimension = 1 ∧
      ¬ LacksDistance (t.vectors.hits origin) ∧
      (byVector origin 1 1 none reusedSlot).1 = .ok [⟨3, Number.Binary.zero⟩] ∧
      fullScan t.vectors origin (isWanted t.findings none) 1 = .ok [⟨2, Number.Binary.zero⟩] := by
  obtain ⟨t, ht, hdimension, hhits, hwanted⟩ := reusedSlot_eq_store
  have hnumbers : ¬ LacksDistance (t.vectors.hits origin) := by
    rw [hhits]
    decide
  have horder : [⟨2, Number.Binary.zero⟩, ⟨3, Number.Binary.zero⟩, ⟨4, Number.Binary.zero⟩] =
      inOrder (t.vectors.hits origin) := by
    rw [hhits]
    exact eq_inOrder (by decide) (by decide)
  refine ⟨⟨_, rfl⟩, t, ht, hdimension, hnumbers, by decide +kernel, ?_⟩
  have hquery : origin ≠ [] := List.cons_ne_nil _ _
  have hlength : origin.length = t.vectors.dimension := hdimension.symm
  rw [fullScan_eq_take (fun _ => hquery) hlength (Table.measured_hits hnumbers), hwanted, ← horder]
  rfl

end Findings.Search
