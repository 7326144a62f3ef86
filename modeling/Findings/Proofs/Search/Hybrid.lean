import Findings.Proofs.Fusion.Ranking
import Findings.Proofs.Search.Legs
import Findings.Proofs.Store.Runs

/-!
# Hybrid search

A hybrid search gives a result for each of the best fused candidates. Looking up their findings
drops none of them, because either list of hits names findings that exist.
-/
namespace Findings.Search

open Findings.Record
open Findings.Store

variable {t : Tables}

/-- The candidate that a result was made from. -/
def Result.fused (r : Result) : Fused := ⟨⟨r.finding.id, r.vectorRank, r.lexicalRank⟩, r.score⟩

def idsOf (candidates : List Fused) : List Int := candidates.map (·.id)

@[simp] lemma length_idsOf (candidates : List Fused) :
    (idsOf candidates).length = candidates.length := List.length_map _

/-- A rank is the place of an id in a list, counted from one, and within a limit. -/
def IsPlace (ids : List Int) (limit : Nat) (id : Int) (rank : Nat) : Prop :=
  1 ≤ rank ∧ rank ≤ limit ∧ ids[rank - 1]? = some id

/-- If each candidate has its finding, each becomes a result. -/
lemma attach_spec {candidates : List Fused} {found : List Finding}
    (honce : (candidates.map (·.id)).Nodup)
    (hall : ∀ candidate ∈ candidates, ∃ f ∈ found, f.id = candidate.id) :
    (attach candidates found).map Result.fused = candidates ∧
      ∀ r ∈ attach candidates found, r.finding ∈ found := by
  induction candidates generalizing found with
  | nil => exact ⟨rfl, by simp [attach]⟩
  | cons candidate rest ih =>
    obtain ⟨hnew, honce⟩ := List.nodup_cons.mp (List.map_cons ▸ honce)
    obtain ⟨f, hf, hid⟩ := hall candidate (by simp)
    have hsome : (found.find? (·.id == candidate.id)).isSome := by
      rw [List.find?_isSome]
      exact ⟨f, hf, by simpa using hid⟩
    obtain ⟨first, hfirst⟩ := Option.isSome_iff_exists.mp hsome
    have hfirstId : first.id = candidate.id := by simpa using List.find?_some hfirst
    -- the finding that is taken is not the finding of a later candidate
    have hrest : ∀ other ∈ rest, ∃ f ∈ found.filter (·.id != candidate.id), f.id = other.id := by
      intro other hother
      obtain ⟨f, hf, hid⟩ := hall other (by simp [hother])
      refine ⟨f, List.mem_filter.mpr ⟨hf, ?_⟩, hid⟩
      have hne : other.id ≠ candidate.id := by
        intro heq
        exact hnew (heq ▸ List.mem_map_of_mem hother)
      simpa [hid] using hne
    obtain ⟨hfused, hmem⟩ := ih honce hrest
    rw [attach, hfirst]
    refine ⟨?_, ?_⟩
    · rw [List.map_cons, hfused]
      simp [Result.fused, hfirstId]
    · intro r hr
      rcases List.mem_cons.mp hr with rfl | hr
      · exact List.mem_of_find?_eq_some hfirst
      · exact List.mem_of_mem_filter (hmem r hr)

theorem materialize_store (fused : List Fused) :
    materialize fused t.store =
      if fused = [] then (.ok [], t.store)
      else if maxIds < fused.length then (.error (.table .tooManyIds), t.store)
      else if ∀ row ∈ t.rowsOf (idsOf fused), row.finding?.isSome then
        (.ok (attach fused ((t.rowsOf (idsOf fused)).filterMap Row.finding?)), t.store)
      else (.error (.table .unreadable), t.store) := by
  by_cases hempty : fused = []
  · simp [materialize, hempty]
  · have hids : idsOf fused ≠ [] := by simpa [idsOf] using hempty
    have hlook : lookUp (fused.map (·.id)) = lookUp (idsOf fused) := rfl
    simp only [materialize, hlook, List.isEmpty_iff, hempty, if_false, bind_apply, lookUp_store, hids,
      length_idsOf, readRows_apply]
    split_ifs <;> rfl

/-- If candidates that exist are looked up, none is dropped. -/
theorem materialize_eq_ok {fused : List Fused} {results : List Result} {s : Store}
    (honce : (fused.map (·.id)).Nodup)
    (hlive : ∀ candidate ∈ fused, ∃ row ∈ t.findings, row.id = candidate.id)
    (hok : materialize fused t.store = (.ok results, s)) :
    results.map Result.fused = fused ∧
      ∀ r ∈ results, ∃ row ∈ t.findings, row.finding? = some r.finding := by
  rw [materialize_store] at hok
  split_ifs at hok with hempty hmany hread
  · simp only [outcome_eq_iff, Except.ok.injEq] at hok
    simp [← hok.1, hempty]
  · simp at hok
  · simp only [outcome_eq_iff, Except.ok.injEq] at hok
    obtain ⟨rfl, -⟩ := hok
    have hall : ∀ candidate ∈ fused,
        ∃ f ∈ (t.rowsOf (idsOf fused)).filterMap Row.finding?, f.id = candidate.id := by
      intro candidate hcandidate
      obtain ⟨row, hrow, hid⟩ := hlive candidate hcandidate
      have hmem : row ∈ t.rowsOf (idsOf fused) := by
        refine List.mem_filter.mpr ⟨hrow, ?_⟩
        rw [List.contains_iff_mem, hid]
        exact List.mem_map_of_mem hcandidate
      obtain ⟨f, hf⟩ := Option.isSome_iff_exists.mp (hread row hmem)
      exact ⟨f, List.mem_filterMap.mpr ⟨row, hmem, hf⟩, (id_of_finding? hf).trans hid⟩
    obtain ⟨hfused, hfound⟩ := attach_spec honce hall
    refine ⟨hfused, fun r hr => ?_⟩
    obtain ⟨row, hrow, hf⟩ := List.mem_filterMap.mp (hfound r hr)
    exact ⟨row, (List.mem_filter.mp hrow).1, hf⟩
  · simp at hok

/-- A search either fails before it reads a hit, or fails with the search by embedding, or looks
up the best candidates. -/
theorem search_store (handle : Handle) (settings : Settings) (query : SearchQuery) :
    search handle settings query t.store =
      match settings.fusion with
      | .error f => (.error (.fusion f), t.store)
      | .ok config =>
        if query.embedding.length ≠ handle.dimension then
          (.error (.dimension handle.dimension query.embedding.length), t.store)
        else
          match byVector query.embedding handle.dimension settings.perSourceLimit query.kind
              t.store with
          | (.ok vector, _) =>
            materialize
              (fuse config (vector.map (·.id))
                ((hitsOf (byWords query.text settings.perSourceLimit query.kind t.store).1).map
                  (·.id))
                settings.resultLimit)
              t.store
          | (.error e, _) => (.error e, t.store) := by
  cases hfusion : settings.fusion with
  | error f => simp [search, fusionOf, hfusion]
  | ok config =>
    simp only [search, fusionOf, hfusion, bind_apply, pure_apply, ensureSchema_store, step_ite,
      throw_apply, wordHits_store]
    obtain ⟨e, hvector⟩ | ⟨vector, hvector⟩ := (readOnly_byVector query.embedding handle.dimension
      settings.perSourceLimit query.kind).outcome t.store
    · rw [hvector]
    · rw [hvector]

/-- Before the schema is applied no search succeeds. -/
theorem search_empty (handle : Handle) (settings : Settings) (query : SearchQuery) :
    search handle settings query {} =
      match settings.fusion with
      | .error f => (.error (.fusion f), {})
      | .ok _ => (.error (.schemaMissing handle.path), {}) := by
  cases hfusion : settings.fusion with
  | error f => simp [search, fusionOf, hfusion]
  | ok config =>
    simp only [search, fusionOf, hfusion, bind_apply, pure_apply]
    rfl

/-- Where its checks pass, a search looks up the best candidates of its two lists of hits. -/
lemma search_of_hits {s : Store} {handle : Handle} {settings : Settings} {query : SearchQuery}
    {config : FusionConfig} {vector : List Vector.Hit} (hs : Reachable s)
    (hschema : s.hasSchema = true) (hfusion : settings.fusion = .ok config)
    (hlength : query.embedding.length = handle.dimension)
    (hvector : byVector query.embedding handle.dimension settings.perSourceLimit query.kind s =
      (.ok vector, s)) :
    search handle settings query s =
      materialize
        (fuse config (vector.map (·.id))
          ((hitsOf (byWords query.text settings.perSourceLimit query.kind s).1).map (·.id))
          settings.resultLimit)
        s := by
  obtain rfl | ⟨dimension, t, rfl, -, -⟩ := reachable_cases hs
  · cases hschema
  · simp only [search_store, hfusion, hlength, hvector, ne_eq, not_true_eq_false, if_false]

/-- What the results of a search are, for the ids that its two sources give: the best fused
candidates in their order, each with the stored finding of its id. -/
structure IsAnswer (handle : Handle) (settings : Settings) (query : SearchQuery)
    (config : FusionConfig) (s : Store) (vector lexical : List Int) (results : List Result) :
    Prop where
  best : results.map Result.fused = (fuseRanks config vector lexical).take settings.resultLimit
  count : results.length = min settings.resultLimit (vector ++ lexical).eraseDups.length
  once : (results.map (·.finding.id)).Nodup
  stored : ∀ r ∈ results, get? handle r.finding.id s = (.ok (some r.finding), s)
  wanted : ∀ r ∈ results, ∀ k ∈ query.kind, r.finding.kind = k
  ranked : ∀ r ∈ results, r.vectorRank.isSome ∨ r.lexicalRank.isSome
  vectorPlace : ∀ r ∈ results, ∀ rank ∈ r.vectorRank,
    IsPlace vector settings.perSourceLimit r.finding.id rank
  lexicalPlace : ∀ r ∈ results, ∀ rank ∈ r.lexicalRank,
    IsPlace lexical settings.perSourceLimit r.finding.id rank
  distinct : vector.Nodup ∧ lexical.Nodup

/-- A first place in a list that is within a limit. -/
lemma isPlace_of_placeIn {ids : List Int} {limit rank : Nat} {id : Int}
    (hlimit : ids.length ≤ limit) (h : placeIn ids id = some rank) : IsPlace ids limit id rank := by
  obtain ⟨hpos, hid, -⟩ := placeIn_eq_some_iff.mp h
  obtain ⟨hlt, -⟩ := List.getElem?_eq_some_iff.mp hid
  exact ⟨hpos, by omega, hid⟩

/-- Fusing two legs gives only findings that exist and are of the wanted kind. -/
lemma isWanted_of_mem_fuse {kind : Option Kind} {limit count : Nat} {vector lexical : List Int}
    (hvector : IsLeg t kind limit vector) (hlexical : IsLeg t kind limit lexical)
    {config : FusionConfig} {candidate : Fused}
    (hcandidate : candidate ∈ fuse config vector lexical count) :
    isWanted t.findings kind candidate.id = true := by
  have hfusion := isFusion_fuseRanks config vector lexical
  have hmem := List.mem_map_of_mem (f := (·.id)) (List.mem_of_mem_take hcandidate)
  rcases (hfusion.mem_iff candidate.id).mp hmem with hid | hid
  · exact hvector.wanted _ hid
  · exact hlexical.wanted _ hid

/-- The stored finding of a wanted id is of the wanted kind. -/
lemma kind_of_isWanted (h : Coherent t) {kind : Option Kind} {row : Row} {f : Finding}
    (hwanted : isWanted t.findings kind f.id = true) (hrow : row ∈ t.findings)
    (hf : row.finding? = some f) : ∀ k ∈ kind, f.kind = k := by
  intro k hk
  obtain ⟨other, hother, hid, hkind⟩ := isWanted_iff.mp hwanted
  obtain rfl := h.eq_of_id_eq hother hrow (hid.trans (id_of_finding? hf))
  have hname := kind_of_finding? hf
  rw [hkind k hk, Kind.ofText?_name] at hname
  exact (Option.some.inj hname).symm

/-- What is made of the best candidates of two legs answers the search. -/
lemma isAnswer_of_materialize (h : Coherent t) {handle : Handle} {settings : Settings}
    {query : SearchQuery} {config : FusionConfig} {vector lexical : List Int}
    {results : List Result} {s : Store}
    (hvector : IsLeg t query.kind settings.perSourceLimit vector)
    (hlexical : IsLeg t query.kind settings.perSourceLimit lexical)
    (hok : materialize (fuse config vector lexical settings.resultLimit) t.store =
      (.ok results, s)) :
    IsAnswer handle settings query config t.store vector lexical results := by
  have hfusion := isFusion_fuseRanks config vector lexical
  have htake : ∀ candidate ∈ fuse config vector lexical settings.resultLimit,
      candidate ∈ fuseRanks config vector lexical := fun _ => List.mem_of_mem_take
  have hwanted : ∀ candidate ∈ fuse config vector lexical settings.resultLimit,
      isWanted t.findings query.kind candidate.id = true :=
    fun _ => isWanted_of_mem_fuse hvector hlexical
  have honce : ((fuse config vector lexical settings.resultLimit).map (·.id)).Nodup :=
    hfusion.nodup.sublist ((List.take_sublist _ _).map _)
  obtain ⟨hbest, hfound⟩ := materialize_eq_ok honce (fun candidate hcandidate => by
    obtain ⟨row, hrow, hid, -⟩ := isWanted_iff.mp (hwanted candidate hcandidate)
    exact ⟨row, hrow, hid⟩) hok
  have hmem : ∀ r ∈ results, r.fused ∈ fuse config vector lexical settings.resultLimit := by
    intro r hr
    rw [← hbest]
    exact List.mem_map_of_mem hr
  have hvectorRank : ∀ r ∈ results, r.vectorRank = placeIn vector r.finding.id :=
    fun r hr => hfusion.vectorRank _ (htake _ (hmem r hr))
  have hlexicalRank : ∀ r ∈ results, r.lexicalRank = placeIn lexical r.finding.id :=
    fun r hr => hfusion.lexicalRank _ (htake _ (hmem r hr))
  constructor
  case best => exact hbest
  case count =>
    rw [← List.length_map Result.fused, hbest, fuse, List.length_take, length_fuseRanks]
  case once =>
    rw [← hbest, List.map_map] at honce
    exact honce
  case stored =>
    intro r hr
    obtain ⟨row, hrow, hf⟩ := hfound r hr
    rw [id_of_finding? hf]
    exact get?_store h hrow hf
  case wanted =>
    intro r hr
    obtain ⟨row, hrow, hf⟩ := hfound r hr
    exact kind_of_isWanted h (hwanted _ (hmem r hr)) hrow hf
  case ranked =>
    intro r hr
    rw [hvectorRank r hr, hlexicalRank r hr, isSome_placeIn, isSome_placeIn]
    exact (hfusion.mem_iff _).mp (List.mem_map_of_mem (htake _ (hmem r hr)))
  case vectorPlace =>
    intro r hr rank hrank
    exact isPlace_of_placeIn hvector.length_le (hvectorRank r hr ▸ hrank)
  case lexicalPlace =>
    intro r hr rank hrank
    exact isPlace_of_placeIn hlexical.length_le (hlexicalRank r hr ▸ hrank)
  case distinct => exact ⟨hvector.once, hlexical.once⟩

/-- A search that succeeds gives all of the best candidates of its two lists of hits. -/
theorem search_loses_nothing {s u : Store} {handle : Handle} {settings : Settings}
    {query : SearchQuery} {results : List Result} (hs : Reachable s)
    (hok : search handle settings query s = (.ok results, u)) :
    ∃ config vector, settings.fusion = .ok config ∧
      byVector query.embedding handle.dimension settings.perSourceLimit query.kind s =
        (.ok vector, s) ∧
      IsAnswer handle settings query config s (vector.map (·.id))
        ((hitsOf (byWords query.text settings.perSourceLimit query.kind s).1).map (·.id))
        results := by
  rcases reachable_cases hs with rfl | ⟨dimension, t, rfl, ht, -⟩
  · rw [search_empty] at hok
    cases hfusion : settings.fusion <;> simp [hfusion] at hok
  · rw [search_store] at hok
    cases hfusion : settings.fusion with
    | error f => simp [hfusion] at hok
    | ok config =>
      obtain ⟨e, hvector⟩ | ⟨vector, hvector⟩ := (readOnly_byVector query.embedding
        handle.dimension settings.perSourceLimit query.kind).outcome t.store
      · simp only [hfusion, hvector] at hok
        split_ifs at hok <;> simp at hok
      · simp only [hfusion, hvector] at hok
        split_ifs at hok
        · simp at hok
        · exact ⟨config, vector, rfl, hvector,
            isAnswer_of_materialize ht (byVector_eq_ok ht hvector) (hitsOf_byWords ht _ _ _) hok⟩

/-- Of two praises, one found by its embedding and one by its words, the first is the better one,
and the blocker that is nearer than both is passed over. -/
theorem search_loses_nothing_of_kind :
    let opened : Handle := ⟨"findings.db", 1⟩
    let finding (kind : Kind) (content : String) : NewFinding :=
      { session := "s", kind, content, severity := .low }
    let s := run [.applySchema opened,
      .insert opened (finding .praise "b") (some [.ofNat 1]),
      .insert opened (finding .praise "a") none,
      .insert opened (finding .blocker "b") (some [.zero])] {}
    let query : SearchQuery := ⟨"a", [.zero], some .praise⟩
    Reachable s ∧ ∀ limit ∈ [1, 2], ∃ (results : List Result) (config : FusionConfig),
      (search opened { resultLimit := limit } query s).1 = .ok results ∧
      results.map (fun r => (r.finding.id, r.vectorRank, r.lexicalRank)) =
        [(1, some 1, none), (2, none, some 1)].take limit ∧
      IsAnswer opened { resultLimit := limit } query config s [1] [2] results := by
  intro opened finding s query
  have hs : Reachable s := ⟨_, rfl⟩
  have hschema : s.hasSchema = true := by decide +kernel
  have hvector : byVector [.zero] 1 100 (some .praise) s = (.ok [⟨1, .ofNat 1⟩], s) :=
    (readOnly_byVector [.zero] 1 100 (some .praise)).eq_of_toOption_eq_some (by decide +kernel)
  have hlexical : (hitsOf (byWords "a" 100 (some .praise) s).1).map (·.id) = [2] := by
    decide +kernel
  let usual : Settings := {}
  let config : FusionConfig := ⟨usual.constant, usual.vectorWeight, usual.lexicalWeight⟩
  have hfusion (limit : Nat) : ({ resultLimit := limit } : Settings).fusion = .ok config := by
    have hpositive : (usual.vectorWeight.isPositive && usual.lexicalWeight.isPositive) = true ∧
        usual.constant.isPositive = true := by decide +kernel
    show FusionConfig.checked usual.constant usual.vectorWeight usual.lexicalWeight = _
    rw [FusionConfig.checked, hpositive.1, hpositive.2]
    rfl
  -- the fused candidates are in order as they stand
  have hfused : fuseRanks config [1] [2] = (rank [1] [2]).map (·.fused config) :=
    List.mergeSort_of_pairwise (by decide +kernel)
  have hresults : ∀ limit ∈ [1, 2],
      (materialize (((rank [1] [2]).map (·.fused config)).take limit) s).1.toOption.map
        (fun results => results.map fun r => (r.finding.id, r.vectorRank, r.lexicalRank)) =
      some ([(1, some 1, none), (2, none, some 1)].take limit) := by decide +kernel
  clear_value s
  refine ⟨hs, fun limit hlimit => ?_⟩
  have hfound := hresults limit hlimit
  have hsearch : search opened { resultLimit := limit } query s =
      materialize (((rank [1] [2]).map (·.fused config)).take limit) s := by
    rw [search_of_hits hs hschema (hfusion limit) rfl hvector]
    simp only [query, hlexical, fuse, List.map_cons, List.map_nil, hfused]
  rw [← hsearch] at hfound
  rcases hok : search opened { resultLimit := limit } query s with ⟨e | results, u⟩ <;>
    rw [hok] at hfound
  · cases hfound
  · obtain ⟨other, vector, hother, hhits, hanswer⟩ := search_loses_nothing hs hok
    obtain rfl : config = other := Except.ok.inj ((hfusion limit).symm.trans hother)
    obtain rfl : [⟨1, .ofNat 1⟩] = vector :=
      Except.ok.inj (congrArg Prod.fst (hvector.symm.trans hhits))
    rw [show (hitsOf (byWords query.text 100 query.kind s).1).map (·.id) = _ from hlexical]
      at hanswer
    exact ⟨results, config, rfl, Option.some.inj hfound, hanswer⟩

end Findings.Search
