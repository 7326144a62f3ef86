import Findings.Proofs.Search.Hybrid
import Findings.Proofs.Store.ReadBack

/-!
# Failing searches

A search is refused for its fusion parameters, for a missing schema, or for the length of its
embedding. Beyond that it can fail with what is stored: an embedding with a component that is not
a number may have no distance from the query, the table may have been made for another dimension
than the handle, and there may be more candidates than one lookup takes. No other data makes it
fail; in particular every stored finding can be read.
-/
namespace Findings.Search

open Findings.Record
open Findings.Store
open Findings.Vector

variable {t : Tables} {handle : Handle} {settings : Settings} {query : SearchQuery}

/-- Why a search is refused before it reads a hit, by the first of its three checks that fails. -/
def rejection (handle : Handle) (settings : Settings) (query : SearchQuery) (s : Store) :
    Option Error :=
  match settings.fusion with
  | .error f => some (.fusion f)
  | .ok _ =>
    if !s.hasSchema then some (.schemaMissing handle.path)
    else if query.embedding.length ≠ handle.dimension then
      some (.dimension handle.dimension query.embedding.length)
    else none

/-- The embeddings cannot be ranked: there are some to be ranked, and the query does not fit their
table or one of them has no distance from it. -/
def Unranked (t : Tables) (query : Embedding) (limit : Nat) (kind : Option Kind) : Prop :=
  limit ≠ 0 ∧
    if kind.isNone && limit ≤ maxNearest then
      t.vectors.rows ≠ [] ∧
        (query.length ≠ t.vectors.dimension ∨ LacksDistance (t.vectors.nearest query limit))
    else
      t.vectors.wantedHits query (isWanted t.findings kind) ≠ [] ∧
        (query.length ≠ t.vectors.dimension ∨
          LacksDistance (t.vectors.wantedHits query (isWanted t.findings kind)))

/-- The best candidates of a search are more than one lookup takes. -/
def Overfull (handle : Handle) (settings : Settings) (query : SearchQuery) (s : Store) : Prop :=
  ∃ hits, (byVector query.embedding handle.dimension settings.perSourceLimit query.kind s).1 =
      .ok hits ∧
    maxIds < min settings.resultLimit
      (hits.map (·.id) ++
        (hitsOf (byWords query.text settings.perSourceLimit query.kind s).1).map
          (·.id)).eraseDups.length

lemma isConfigurationFatal_of_rejection {s : Store} {e : Error}
    (h : rejection handle settings query s = some e) : e.isConfigurationFatal = true := by
  unfold rejection at h
  cases hfusion : settings.fusion with
  | error f =>
    simp only [hfusion, Option.some.injEq] at h
    exact h ▸ rfl
  | ok config =>
    simp only [hfusion] at h
    split_ifs at h <;> exact Option.some.inj h ▸ rfl

lemma rejection_eq_none_iff {s : Store} :
    rejection handle settings query s = none ↔
      (∃ config, settings.fusion = .ok config) ∧ s.hasSchema = true ∧
        query.embedding.length = handle.dimension := by
  unfold rejection
  cases hfusion : settings.fusion with
  | error f => simp
  | ok config =>
    by_cases hschema : s.hasSchema = true <;> simp [hschema]

/-- The embeddings of coherent tables that hold some are not empty. -/
lemma dimension_pos (h : Coherent t) (hrows : t.vectors.rows ≠ []) : 0 < t.vectors.dimension := by
  obtain ⟨stored, hstored⟩ := List.exists_mem_of_ne_nil _ hrows
  rw [← h.lengths stored hstored]
  exact List.length_pos_of_ne_nil (h.filled stored hstored)

lemma wantedHits_eq_nil {table : Table} {query : Embedding} {wanted : Int → Bool}
    (h : table.rows = []) : table.wantedHits query wanted = [] := by
  simp [Table.wantedHits, Table.hits, h]

/-- The hits by embedding are read unless the embeddings cannot be ranked. -/
theorem byVector_fails_iff (h : Coherent t) {query : Embedding} {dimension limit : Nat}
    {kind : Option Kind} (hlength : query.length = dimension) :
    (∃ f, byVector query dimension limit kind t.store = (.error (.table f), t.store)) ↔
      Unranked t query limit kind := by
  rw [byVector_store, if_neg (not_not.mpr hlength), Unranked]
  by_cases hlimit : limit = 0
  · simp [hlimit]
  by_cases hrows : t.vectors.rows = []
  · simp [hrows, wantedHits_eq_nil hrows]
  have hlift : ∀ x : Except TableFault (List Hit),
      (∃ f, liftFault x t.store = (.error (.table f), t.store)) ↔ ∃ f, x = .error f := by
    intro x
    cases x <;> simp
  rw [if_neg (by simp [hlimit, hrows]), hlift, scanOf]
  have hdimension := dimension_pos h hrows
  split_ifs
  · simp [boundedSearch_eq_error_iff hdimension, hlimit, hrows]
  · simp [fullScan_eq_error_iff hdimension hlimit, hlimit]

theorem byVector_succeeds_iff (h : Coherent t) {query : Embedding} {dimension limit : Nat}
    {kind : Option Kind} (hlength : query.length = dimension) :
    (∃ hits, byVector query dimension limit kind t.store = (.ok hits, t.store)) ↔
      ¬ Unranked t query limit kind := by
  rw [← byVector_fails_iff h hlength, byVector_store, if_neg (not_not.mpr hlength)]
  split_ifs
  · simp
  · cases scanOf t query limit kind <;> simp

/-- Looking up candidates fails only if there are too many of them. -/
theorem materialize_coherent (h : Coherent t) (fused : List Fused) :
    materialize fused t.store =
      if maxIds < fused.length then (.error (.table .tooManyIds), t.store)
      else (.ok (attach fused ((t.rowsOf (idsOf fused)).filterMap Row.finding?)), t.store) := by
  have hread : ∀ row ∈ t.rowsOf (idsOf fused), row.finding?.isSome := fun row hrow =>
    h.isSome_finding? (List.mem_filter.mp hrow).1
  rw [materialize_store, if_pos hread]
  by_cases hempty : fused = []
  · simp [hempty, attach]
  · rw [if_neg hempty]

/-- A search of coherent tables that is not rejected fails with its data or gives results. -/
theorem search_outcome (h : Coherent t) (hok : rejection handle settings query t.store = none) :
    ((∃ f, search handle settings query t.store = (.error (.table f), t.store)) ∧
        (Unranked t query.embedding settings.perSourceLimit query.kind ∨
          Overfull handle settings query t.store)) ∨
      ((∃ results, search handle settings query t.store = (.ok results, t.store)) ∧
        ¬ (Unranked t query.embedding settings.perSourceLimit query.kind ∨
          Overfull handle settings query t.store)) := by
  obtain ⟨⟨config, hfusion⟩, -, hlength⟩ := rejection_eq_none_iff.mp hok
  rw [search_store, hfusion]
  simp only [if_neg (not_not.mpr hlength)]
  by_cases hunranked : Unranked t query.embedding settings.perSourceLimit query.kind
  · obtain ⟨f, hf⟩ := (byVector_fails_iff h hlength).mpr hunranked
    exact .inl ⟨⟨f, by rw [hf]⟩, .inl hunranked⟩
  · obtain ⟨hits, hhits⟩ := (byVector_succeeds_iff h hlength).mpr hunranked
    have hcount := length_fuseRanks config (hits.map (·.id))
      ((hitsOf (byWords query.text settings.perSourceLimit query.kind t.store).1).map (·.id))
    have hoverfull : Overfull handle settings query t.store ↔
        maxIds < (fuse config (hits.map (·.id))
          ((hitsOf (byWords query.text settings.perSourceLimit query.kind t.store).1).map
            (·.id)) settings.resultLimit).length := by
      rw [Overfull, hhits, fuse, List.length_take, hcount]
      simp
    simp only [hhits, materialize_coherent h, hunranked, false_or, hoverfull]
    split_ifs with hmany
    · exact .inl ⟨⟨_, rfl⟩, hmany⟩
    · exact .inr ⟨⟨_, rfl⟩, hmany⟩

/-- Finite embeddings of the right length can always be ranked. -/
lemma not_unranked {query : Embedding} {limit : Nat} {kind : Option Kind}
    (hlength : query.length = t.vectors.dimension) (hquery : IsFinite query)
    (hrows : ∀ stored ∈ t.vectors.rows, IsFinite stored.2) : ¬ Unranked t query limit kind := by
  have hhits := Table.not_lacksDistance_hits hquery hrows
  rintro ⟨-, hblocked⟩
  split_ifs at hblocked
  · obtain ⟨-, hwrong | hmissing⟩ := hblocked
    · exact hwrong hlength
    · exact hhits (hmissing.mono (t.vectors.nearest_subperm query limit).subset)
  · obtain ⟨-, hwrong | hmissing⟩ := hblocked
    · exact hwrong hlength
    · exact hhits (hmissing.mono (List.filter_subset_self _))

/-- With finite embeddings, a search by a handle of the right dimension gives results unless it is
rejected or asks for too many of them. -/
theorem search_succeeds (h : Coherent t) (hok : rejection handle settings query t.store = none)
    (hdimension : t.vectors.dimension = handle.dimension) (hquery : IsFinite query.embedding)
    (hrows : ∀ stored ∈ t.vectors.rows, IsFinite stored.2) (hlimit : settings.resultLimit ≤ maxIds) :
    ∃ results, search handle settings query t.store = (.ok results, t.store) := by
  rcases search_outcome h hok with ⟨-, hunranked | ⟨hits, -, hmany⟩⟩ | ⟨hresults, -⟩
  · obtain ⟨-, -, hlength⟩ := rejection_eq_none_iff.mp hok
    exact absurd hunranked (not_unranked (hlength.trans hdimension.symm) hquery hrows)
  · omega
  · exact hresults

lemma hasSchema_store (t : Tables) : t.store.hasSchema = true := rfl

/-- A rejected search gives its rejection. -/
theorem search_rejected {s : Store} {e : Error} (hs : Reachable s)
    (h : rejection handle settings query s = some e) :
    search handle settings query s = (.error e, s) := by
  unfold rejection at h
  rcases reachable_cases hs with rfl | ⟨dimension, t, rfl, ht, -⟩
  · rw [search_empty]
    cases hfusion : settings.fusion with
    | error f =>
      simp only [hfusion, Option.some.injEq] at h
      rw [← h]
    | ok config =>
      have hschema : Store.hasSchema {} = false := rfl
      simp only [hfusion, hschema, Bool.not_false, if_true, Option.some.injEq] at h
      rw [← h]
  · rw [search_store]
    cases hfusion : settings.fusion with
    | error f =>
      simp only [hfusion, Option.some.injEq] at h
      rw [← h]
    | ok config =>
      simp only [hfusion, hasSchema_store, Bool.not_true, Bool.false_eq_true, if_false] at h
      split_ifs at h with hlength
      simp only [if_pos hlength, Option.some.inj h]

/-- A search of a reachable store fails with a configuration error if it is rejected. Otherwise it
fails if the stored embeddings cannot be ranked or there are too many candidates, and in no other
case. -/
theorem search_fails_exactly {s : Store} (hs : Reachable s) (handle : Handle)
    (settings : Settings) (query : SearchQuery) :
    (∀ e, rejection handle settings query s = some e →
      search handle settings query s = (.error e, s) ∧ e.isConfigurationFatal = true) ∧
    (rejection handle settings query s = none → ∃ t : Tables, s = t.store ∧ Coherent t ∧
      ((∃ f, search handle settings query s = (.error (.table f), s)) ↔
        Unranked t query.embedding settings.perSourceLimit query.kind ∨
          Overfull handle settings query s) ∧
      ((∃ results, search handle settings query s = (.ok results, s)) ↔
        ¬ (Unranked t query.embedding settings.perSourceLimit query.kind ∨
          Overfull handle settings query s))) := by
  refine ⟨fun e he => ⟨search_rejected hs he, isConfigurationFatal_of_rejection he⟩,
    fun hnone => ?_⟩
  rcases reachable_cases hs with rfl | ⟨dimension, t, rfl, ht, -⟩
  · obtain ⟨-, hschema, -⟩ := rejection_eq_none_iff.mp hnone
    exact absurd hschema Bool.false_ne_true
  · refine ⟨t, rfl, ht, ?_⟩
    rcases search_outcome ht hnone with ⟨⟨f, hf⟩, hdata⟩ | ⟨⟨results, hresults⟩, hdata⟩
    · simp [hf, hdata]
    · simp [hresults, hdata]

/-- A stored embedding without a distance from the query fails a search that is not rejected. -/
theorem search_fails_unrejected :
    ∃ s : Store, Reachable s ∧
      rejection ⟨"findings.db", 2⟩ { resultLimit := 0 }
        ⟨"a", [Number.Binary.zero, Number.Binary.zero], none⟩ s = none ∧
      (search ⟨"findings.db", 2⟩ { resultLimit := 0 }
        ⟨"a", [Number.Binary.zero, Number.Binary.zero], none⟩ s).1 =
          .error (.table .noDistance) ∧
      (Error.table .noDistance).isConfigurationFatal = false := by
  refine ⟨run [
    .applySchema ⟨"findings.db", 2⟩,
    .insert ⟨"findings.db", 2⟩ { session := "s1", kind := .praise, content := "a", severity := .low }
      (some [Number.Binary.nan false, Number.Binary.zero])] {}, ⟨_, rfl⟩, ?_, ?_, rfl⟩
  · decide +kernel
  · decide +kernel

/-- One store on which one search is rejected, one gives results and one fails with the data. -/
theorem search_fails_exactly_of_each_kind :
    ∃ s : Store, Reachable s ∧
      search ⟨"findings.db", 1⟩ {} ⟨"a", [], none⟩ s = (.error (.dimension 1 0), s) ∧
      (∃ results, search ⟨"findings.db", 1⟩ {} ⟨"a", [Number.Binary.zero], some .praise⟩ s =
        (.ok results, s)) ∧
      ∃ t : Tables, s = t.store ∧ (Unranked t [Number.Binary.zero] 100 none ∨
        Overfull ⟨"findings.db", 1⟩ {} ⟨"a", [Number.Binary.zero], none⟩ s) := by
  let s : Store := run [
    .applySchema ⟨"findings.db", 1⟩,
    .insert ⟨"findings.db", 1⟩ { session := "s", kind := .praise, content := "a", severity := .low }
      (some [Number.Binary.zero]),
    .insert ⟨"findings.db", 1⟩
      { session := "s", kind := .nitpick, content := "b", severity := .low }
      (some [Number.Binary.nan false])] {}
  have hs : Reachable s := ⟨_, rfl⟩
  obtain ⟨hrejected, -⟩ := search_fails_exactly hs ⟨"findings.db", 1⟩ {} ⟨"a", [], none⟩
  obtain ⟨-, hsome⟩ := search_fails_exactly hs ⟨"findings.db", 1⟩ {}
    ⟨"a", [Number.Binary.zero], some .praise⟩
  obtain ⟨-, hall⟩ := search_fails_exactly hs ⟨"findings.db", 1⟩ {}
    ⟨"a", [Number.Binary.zero], none⟩
  obtain ⟨_, -, -, hfails, hgives⟩ := hsome (by decide +kernel)
  obtain ⟨t, ht, -, -, hresults⟩ := hall (by decide +kernel)
  have hfound : (search ⟨"findings.db", 1⟩ {} ⟨"a", [Number.Binary.zero], some .praise⟩
      s).1.toBool = true := by decide +kernel
  have hmissing : (search ⟨"findings.db", 1⟩ {} ⟨"a", [Number.Binary.zero], none⟩
      s).1.toBool = false := by decide +kernel
  refine ⟨s, hs, (hrejected _ (by decide +kernel)).1, hgives.mpr fun hdata => ?_, t, ht, ?_⟩
  · obtain ⟨f, hf⟩ := hfails.mpr hdata
    simp [hf, Except.toBool] at hfound
  · by_contra hdata
    obtain ⟨results, hok⟩ := hresults.mpr hdata
    simp [hok, Except.toBool] at hmissing

end Findings.Search
