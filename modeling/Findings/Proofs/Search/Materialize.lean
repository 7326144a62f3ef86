import Findings.Proofs.Config.Validation
import Findings.Proofs.Search.Failure
import Findings.Proofs.Search.Reading
import Findings.Proofs.Store.Lookup

/-!
# From candidates to results

The findings of all candidates are looked up together, in the order of their ids, and the results
take them out one by one. What comes out is described without the lookup: the first candidate of
each id stays in its place, with its score and its places in the two lists, if its id has a
finding, and that finding is the stored one.
-/
namespace Findings.Search

open Findings.Record
open Findings.Store

/-- The first candidate of each id, in their order. -/
def firsts : List Fused → List Fused
  | [] => []
  | candidate :: rest => candidate :: (firsts rest).filter (·.id != candidate.id)

lemma firsts_sublist (fused : List Fused) : (firsts fused).Sublist fused := by
  induction fused with
  | nil => exact .slnil
  | cons candidate rest ih => exact (List.filter_sublist.trans ih).cons_cons candidate

def resultOf (candidate : Fused) (finding : Finding) : Result :=
  ⟨finding, candidate.score, candidate.vectorRank, candidate.lexicalRank⟩

/-- What a search looks up: the best candidates of its two lists of hits. -/
def fusedHits (handle : Handle) (settings : Settings) (query : SearchQuery) :
    Action (List Fused) := do
  let config ← fusionOf settings
  ensureSchema handle
  if query.embedding.length ≠ handle.dimension then
    throw (.dimension handle.dimension query.embedding.length)
  let lexical ← wordHits query.text settings.perSourceLimit query.kind
  let vector ← byVector query.embedding handle.dimension settings.perSourceLimit query.kind
  return fuse config (vector.map (·.id)) (lexical.map (·.id)) settings.resultLimit

/-- A search finds candidates and looks them up. -/
theorem search_eq (handle : Handle) (settings : Settings) (query : SearchQuery) :
    search handle settings query = fusedHits handle settings query >>= materialize := by
  simp only [search, fusedHits, bind_assoc]
  refine bind_congr fun config => bind_congr fun _ => ?_
  by_cases hlength : query.embedding.length = handle.dimension
  · simp only [if_neg (not_not.mpr hlength), bind_assoc, pure_bind]
  · simp only [if_pos hlength, bind_assoc, pure_bind]

/-- Results take their findings out of those that were looked up, the first candidate of an id the
one of that id. -/
theorem attach_eq (fused : List Fused) (found : List Finding) :
    attach fused found = (firsts fused).filterMap fun candidate =>
      (found.find? (·.id == candidate.id)).map (resultOf candidate) := by
  induction fused generalizing found with
  | nil => rfl
  | cons candidate rest ih =>
    rw [firsts, List.filterMap_cons, List.filterMap_filter, attach]
    cases hfound : found.find? (·.id == candidate.id) with
    | none =>
      change attach rest found = _
      rw [ih]
      refine List.filterMap_congr fun other _ => ?_
      by_cases hid : other.id = candidate.id
      · simp [hid, hfound]
      · simp [hid]
    | some finding =>
      change resultOf candidate finding :: attach rest _ = _
      rw [ih]
      refine congrArg (resultOf candidate finding :: ·) (List.filterMap_congr fun other _ => ?_)
      rw [find?_filter_ne]
      by_cases hid : other.id = candidate.id <;> simp [hid]

/-- The results for candidates: the first candidate of each id that has a finding, in their order,
with the finding as it is stored. -/
def resultsOf (s : Store) (fused : List Fused) : List Result :=
  (firsts fused).filterMap fun candidate =>
    (findingOf s candidate.id).map (resultOf candidate)

/-- Looking up candidates in coherent tables fails only if there are too many of them. -/
theorem materialize_eq {t : Tables} (h : Coherent t) (fused : List Fused) :
    materialize fused t.store =
      if maxIds < fused.length then (.error (.table .tooManyIds), t.store)
      else (.ok (resultsOf t.store fused), t.store) := by
  have hattach : attach fused (t.findingsOf (idsOf fused)) = resultsOf t.store fused := by
    rw [attach_eq]
    refine List.filterMap_congr fun candidate hcandidate => ?_
    have hid : candidate.id ∈ idsOf fused :=
      List.mem_map_of_mem ((firsts_sublist fused).subset hcandidate)
    rw [h.find?_findingsOf hid]
  rw [← hattach]
  exact materialize_coherent h fused

lemma materialize_empty (fused : List Fused) :
    materialize fused {} =
      if fused = [] then (.ok [], {})
      else if maxIds < fused.length then (.error (.table .tooManyIds), {})
      else (.error (.table (.noTable "findings")), {}) := by
  by_cases hempty : fused = []
  · simp [materialize, hempty]
  · simp only [materialize, lookUp, List.isEmpty_iff, hempty, List.map_eq_nil_iff, List.length_map,
      if_false, bind_apply, step_ite]
    split_ifs <;> rfl

/-- In a reachable store, looking up candidates fails if there are too many of them, or if there
are any and no schema. -/
theorem materialize_reachable {s : Store} (hs : Reachable s) (fused : List Fused) :
    materialize fused s =
      if fused = [] ∨ s.hasSchema = true ∧ fused.length ≤ maxIds then (.ok (resultsOf s fused), s)
      else if maxIds < fused.length then (.error (.table .tooManyIds), s)
      else (.error (.table (.noTable "findings")), s) := by
  by_cases hempty : fused = []
  · rw [if_pos (.inl hempty), materialize, hempty]
    rfl
  obtain rfl | ⟨dimension, t, rfl, ht, -⟩ := reachable_cases hs
  · have hschema : Store.hasSchema {} = false := rfl
    rw [materialize_empty]
    simp only [hempty, hschema, Bool.false_eq_true, false_and, or_self, if_false]
  · rw [materialize_eq ht]
    simp only [hempty, hasSchema_store, true_and, false_or]
    by_cases hmany : maxIds < fused.length
    · rw [if_pos hmany, if_neg (Nat.not_le.mpr hmany), if_pos hmany]
    · rw [if_neg hmany, if_pos (Nat.not_lt.mp hmany)]

/-- A search finds no more candidates than results are wanted, and only where there is a schema. -/
lemma fusedHits_eq_ok {handle : Handle} {settings : Settings} {query : SearchQuery} {s u : Store}
    {fused : List Fused} (hok : fusedHits handle settings query s = (.ok fused, u)) :
    u = s ∧ s.hasSchema = true ∧ fused.length ≤ settings.resultLimit := by
  obtain ⟨config, -, hok⟩ := (readOnly_fusionOf settings).of_bind_eq_ok hok
  obtain ⟨_, hensured, hok⟩ := (readOnly_ensureSchema handle).of_bind_eq_ok hok
  have hschema : s.hasSchema = true := by
    by_contra hmissing
    simp [ensureSchema, hmissing] at hensured
  by_cases hlength : query.embedding.length = handle.dimension
  · rw [if_neg (not_not.mpr hlength)] at hok
    obtain ⟨lexical, -, hok⟩ := (readOnly_wordHits _ _ _).of_bind_eq_ok hok
    obtain ⟨vector, -, hok⟩ := (readOnly_byVector _ _ _ _).of_bind_eq_ok hok
    simp only [pure_apply, outcome_eq_iff, Except.ok.injEq] at hok
    obtain ⟨rfl, rfl⟩ := hok
    exact ⟨rfl, hschema, List.length_take_le _ _⟩
  · rw [if_pos hlength] at hok
    cases hok

/-- A search under a configuration that keeps the rules finds no more candidates than one lookup
takes. -/
lemma length_le_of_validate {c : Config} (hvalid : c.validate = .ok ()) {fused : List Fused}
    (hlength : fused.length ≤ c.search.resultLimit) : fused.length ≤ maxIds := by
  have hnone := Config.validate_eq_ok_iff.mp hvalid
  obtain ⟨-, hsearch⟩ := List.append_eq_nil_iff.mp hnone
  obtain ⟨-, hperSource, hresult⟩ := Config.of_searchRules_eq_nil hsearch
  have hmost : Vector.maxNearest ≤ maxIds := by decide
  omega

/-- What looking up candidates does in a store, whatever they are. -/
structure LooksUpCandidates (s : Store) : Prop where
  /-- It succeeds if there are not too many of them. -/
  succeeds : ∀ fused, (∃ results u, materialize fused s = (.ok results, u)) ↔
    fused = [] ∨ s.hasSchema = true ∧ fused.length ≤ maxIds
  /-- The first candidate of each id that has a finding is kept, in its place. -/
  kept : ∀ fused results u, materialize fused s = (.ok results, u) →
    results = resultsOf s fused ∧ u = s
  live : ∀ id, (findingOf s id).isSome = true ↔ IsLive s id
  stored : s.hasSchema = true → ∀ handle id, get? handle id s = (.ok (findingOf s id), s)
  /-- What a search under a configuration that keeps the rules looks up can be looked up, also if
  the store has been written since its hits were read. -/
  searched : ∀ c : Config, c.validate = .ok () → ∀ handle query fused u,
    fusedHits handle c.search query s = (.ok fused, u) →
      search handle c.search query s = materialize fused s ∧ ∀ later,
        ∃ results, materialize fused (run later s) = (.ok results, run later s)

/-- In every reachable store, candidates become the results of the first of each id that has a
finding, and those of a search that a configuration allows always do. -/
theorem candidates_become_results {s : Store} (hs : Reachable s) : LooksUpCandidates s := by
  have houtcome := materialize_reachable hs
  constructor
  case succeeds =>
    intro fused
    rw [houtcome]
    split_ifs with hfew hmany
    · exact ⟨fun _ => hfew, fun _ => ⟨_, _, rfl⟩⟩
    · simp [hfew]
    · simp [hfew]
  case kept =>
    intro fused results u hok
    rw [houtcome] at hok
    split_ifs at hok
    · simp only [outcome_eq_iff, Except.ok.injEq] at hok
      exact ⟨hok.1.symm, hok.2.symm⟩
    · cases hok
    · cases hok
  case live =>
    intro id
    obtain rfl | ⟨dimension, t, rfl, ht, -⟩ := reachable_cases hs
    · exact iff_of_false Bool.false_ne_true (not_isLive_empty id)
    · exact ht.isSome_findingOf
  case stored =>
    intro hschema handle id
    obtain rfl | ⟨dimension, t, rfl, ht, -⟩ := reachable_cases hs
    · exact absurd hschema Bool.false_ne_true
    · exact ht.get?_eq handle id
  case searched =>
    intro c hvalid handle query fused u hok
    obtain ⟨rfl, hschema, hlength⟩ := fusedHits_eq_ok hok
    refine ⟨by rw [search_eq, bind_apply, hok], fun later => ?_⟩
    obtain rfl | ⟨dimension, hsound⟩ := reachable_cases hs
    · exact absurd hschema Bool.false_ne_true
    · obtain ⟨t, ht, hcoherent, -⟩ := sound_run hsound later
      have hfew := length_le_of_validate hvalid hlength
      refine ⟨resultsOf t.store fused, ?_⟩
      rw [ht, materialize_eq hcoherent, if_neg (Nat.not_lt.mpr hfew)]

/-- Of five candidates, with an id that is repeated and one without a finding, two are kept; and a
candidate of an accepted search can be looked up although its finding is deleted before. -/
theorem candidates_become_results_repeated :
    let opened : Handle := ⟨"findings.db", 1⟩
    let finding (content : String) : NewFinding :=
      { session := "s", kind := .praise, content, severity := .low }
    let s := run [.applySchema opened, .insert opened (finding "a") none,
      .insert opened (finding "b") none] {}
    let candidate (id : Int) (vector lexical : Option Nat) : Fused :=
      ⟨⟨id, vector, lexical⟩, Number.Binary.zero⟩
    let fused := [candidate 2 none (some 3), candidate 9 (some 1) none,
      candidate 1 (some 2) (some 1), candidate 2 (some 1) none, candidate 9 none none]
    let c : Config := {
      schemaVersion := "1.0.0", createdAt := "", lastModified := "", dbPath := "findings.db",
      model := "all-MiniLM-L6-v2", dimension := 384 }
    let query : SearchQuery := ⟨"a", [Number.Binary.zero], none⟩
    Reachable s ∧ LooksUpCandidates s ∧
      (∃ results, materialize fused s = (.ok results, s) ∧
        results = [⟨{ finding "b" with id := 2 }, Number.Binary.zero, none, some 3⟩,
          ⟨{ finding "a" with id := 1 }, Number.Binary.zero, some 2, some 1⟩]) ∧
      c.validate = .ok () ∧ ∃ found u, fusedHits opened c.search query s = (.ok found, u) ∧
        found.map (·.id) = [1] ∧ search opened c.search query s = materialize found s ∧
        ∃ results, materialize found (run [.delete opened 1] s) =
          (.ok results, run [.delete opened 1] s) := by
  intro opened finding s candidate fused c query
  have hs : Reachable s := ⟨_, rfl⟩
  have hlooks := candidates_become_results hs
  have hvalid : c.validate = .ok () := by decide +kernel
  have hids : (fusedHits opened c.search query s).1.toOption.map (·.map (·.id)) = some [1] := by
    decide +kernel
  obtain ⟨results, u, hok⟩ := (hlooks.succeeds fused).mpr (.inr (by decide +kernel))
  obtain ⟨hresults, rfl⟩ := hlooks.kept fused results u hok
  refine ⟨hs, hlooks, ⟨results, hok, hresults.trans (by decide +kernel)⟩, hvalid, ?_⟩
  clear_value s
  rcases hfound : fusedHits opened c.search query s with ⟨e | found, u⟩ <;> rw [hfound] at hids
  · cases hids
  · obtain ⟨hsearch, hlater⟩ := hlooks.searched c hvalid opened query found u hfound
    exact ⟨found, u, rfl, Option.some.inj hids, hsearch, hlater [.delete opened 1]⟩

end Findings.Search
