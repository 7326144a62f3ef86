import Findings.Proofs.Store.Reading
import Findings.Proofs.Vector.Hits
import Findings.Search.Hybrid

/-!
# The two lists of hits

A hybrid search fuses the hits by embedding with the hits by words. Either list names findings
that exist and are of the wanted kind, and is no longer than the limit of its source. The hits by
embedding do not read the findings unless a kind is wanted: that they name findings all the same
is what coherence of the tables is for.
-/
namespace Findings.Search

open Findings.Record
open Findings.Store
open Findings.Vector

variable {t : Tables}

/-- The hits of a search by words, none if it failed. -/
def hitsOf : Except Error (List WordHit) → List WordHit
  | .ok hits => hits
  | .error _ => []

/-- The ids that one source gives: no more than its limit, none of them twice, and each the id of
a finding of the wanted kind. -/
structure IsLeg (t : Tables) (kind : Option Kind) (limit : Nat) (ids : List Int) : Prop where
  length_le : ids.length ≤ limit
  once : ids.Nodup
  wanted : ∀ id ∈ ids, isWanted t.findings kind id = true

lemma isLeg_nil (t : Tables) (kind : Option Kind) (limit : Nat) : IsLeg t kind limit [] :=
  ⟨Nat.zero_le _, List.nodup_nil, by simp⟩

theorem isWanted_iff {rows : List Row} {kind : Option Kind} {id : Int} :
    isWanted rows kind id = true ↔
      ∃ row ∈ rows, row.id = id ∧ ∀ k ∈ kind, row.kind = k.name := by
  simp [isWanted, Option.all_eq_true]

lemma isWanted_none {rows : List Row} {id : Int} (h : ∃ row ∈ rows, row.id = id) :
    isWanted rows none id = true := by
  obtain ⟨row, hrow, hid⟩ := h
  exact isWanted_iff.mpr ⟨row, hrow, hid, by simp⟩

lemma map_id_placed (rank : Nat) (scored : List (Int × Number.Double)) :
    (placed rank scored).map (·.id) = scored.map (·.1) := by
  fun_induction placed rank scored with
  | case1 => rfl
  | case2 rank id score rest ih => simp [ih]

lemma readOnly_byWords (text : String) (limit : Nat) (kind : Option Kind) :
    ReadOnly (byWords text limit kind) := by
  unfold byWords
  split
  · exact readOnly_pure _
  · refine readOnly_get.bind fun _ => (readOnly_require _ _).bind fun _ =>
      readOnly_get.bind fun _ => (readOnly_require _ _).bind fun _ => .ite (readOnly_pure _) ?_
    exact (readOnly_liftFault _).bind fun _ => readOnly_pure _

lemma readOnly_byVector (query : Embedding) (dimension limit : Nat) (kind : Option Kind) :
    ReadOnly (byVector query dimension limit kind) := by
  have hscan : ReadOnly (do
      if limit = 0 then return []
      let table ← require "finding_embeddings" (← get).vectors
      if table.rows.isEmpty then return []
      if kind.isNone && limit ≤ maxNearest then
        liftFault (boundedSearch table query limit)
      else
        let findings ← require "findings" (← get).findings
        liftFault (fullScan table query (isWanted findings kind) limit) : Action (List Hit)) := by
    refine .ite (readOnly_pure _) ?_
    refine readOnly_get.bind fun _ => (readOnly_require _ _).bind fun _ => .ite (readOnly_pure _) ?_
    refine .ite (readOnly_liftFault _) ?_
    exact readOnly_get.bind fun _ => (readOnly_require _ _).bind fun _ => readOnly_liftFault _
  exact .ite ((readOnly_throw _).bind fun _ => hscan) hscan

/-- Ranking by words gives no id of the index twice. -/
lemma nodup_ranked {index : List Lexical.Indexed} (h : (index.map (·.id)).Nodup)
    (phrases : List Lexical.Phrase) : ((Lexical.ranked index phrases).map (·.1)).Nodup := by
  have hperm : (Lexical.ranked index phrases).Perm (Lexical.matching index phrases) :=
    List.mergeSort_perm _ _
  refine (hperm.map _).nodup_iff.mpr ?_
  unfold Lexical.matching
  split
  · exact List.nodup_nil
  · simp only [List.map_map, Function.comp_def]
    exact h.sublist (List.filter_sublist.map _)

lemma nodup_index (h : Coherent t) :
    ((t.lexical.map Lexical.Entry.indexed).map (·.id)).Nodup := by
  have hids : (t.lexical.map Lexical.Entry.indexed).map (·.id) = t.findings.map (·.id) := by
    simp [h.indexed, Function.comp_def, Lexical.Entry.indexed, Row.entry]
  rw [hids]
  exact rising_nodup h.rising

/-- Hits by words name findings of the wanted kind, each of them once. -/
theorem byWords_eq_ok (h : Coherent t) {text : String} {limit : Nat} {kind : Option Kind}
    {hits : List WordHit} {s : Store} (hok : byWords text limit kind t.store = (.ok hits, s)) :
    IsLeg t kind limit (hits.map (·.id)) := by
  cases hescape : Lexical.escape text with
  | none =>
    simp only [byWords, hescape, pure_apply, outcome_eq_iff, Except.ok.injEq] at hok
    exact hok.1 ▸ isLeg_nil t kind limit
  | some quoted =>
    simp only [byWords, hescape, bind_apply, get_apply, require_lexical, require_findings, pure_apply,
      step_ite] at hok
    by_cases hlimit : limit = 0
    · simp only [if_pos hlimit, outcome_eq_iff, Except.ok.injEq] at hok
      exact hok.1 ▸ isLeg_nil t kind limit
    · cases hwords : Lexical.queryWords quoted with
      | error fault => simp [hlimit, hwords] at hok
      | ok words =>
        simp only [hlimit, if_false, hwords, liftFault_ok, pure_apply, outcome_eq_iff,
          Except.ok.injEq] at hok
        obtain ⟨rfl, -⟩ := hok
        rw [map_id_placed]
        refine ⟨by simp [List.length_take], ?_, fun id hid => ?_⟩
        · exact (nodup_ranked (nodup_index h) (phrases words)).sublist
            (((List.take_sublist _ _).trans List.filter_sublist).map _)
        · obtain ⟨scored, hscored, rfl⟩ := List.mem_map.mp hid
          exact (List.mem_filter.mp (List.mem_of_mem_take hscored)).2

/-- The hits of the embeddings of a table that holds some. -/
def scanOf (t : Tables) (query : Embedding) (limit : Nat) (kind : Option Kind) :
    Except TableFault (List Hit) :=
  if kind.isNone && limit ≤ maxNearest then boundedSearch t.vectors query limit
  else fullScan t.vectors query (isWanted t.findings kind) limit

theorem byVector_store (query : Embedding) (dimension limit : Nat) (kind : Option Kind) :
    byVector query dimension limit kind t.store =
      if query.length ≠ dimension then (.error (.dimension dimension query.length), t.store)
      else if limit = 0 ∨ t.vectors.rows = [] then (.ok [], t.store)
      else liftFault (scanOf t query limit kind) t.store := by
  by_cases hlength : query.length = dimension
  · by_cases hlimit : limit = 0
    · simp [byVector, hlength, hlimit]
    · by_cases hrows : t.vectors.rows = []
      · simp [byVector, hlength, hlimit, require_vectors, hrows]
      · simp only [byVector, scanOf, hlength, ne_eq, not_true_eq_false, if_false, hlimit, hrows,
          or_self, bind_apply, get_apply, require_vectors, require_findings, pure_apply, step_ite,
          List.isEmpty_iff]
        split_ifs <;> rfl
  · simp [byVector, hlength]

/-- The hits of embeddings name findings of the wanted kind, each of them once. -/
theorem scanOf_eq_ok (h : Coherent t) {query : Embedding} {limit : Nat} {kind : Option Kind}
    {hits : List Hit} (hok : scanOf t query limit kind = .ok hits) :
    IsLeg t kind limit (hits.map (·.id)) := by
  have honce : ((t.vectors.hits query).map (·.id)).Nodup := by
    rw [Table.map_id_hits]
    exact h.embeddedOnce
  unfold scanOf at hok
  split at hok
  case isTrue hbounded =>
    obtain ⟨hnone, -⟩ := Bool.and_eq_true_iff.mp hbounded
    obtain rfl : kind = none := Option.isNone_iff_eq_none.mp hnone
    have hperm := boundedSearch_eq_ok hok
    have hsub := hperm.subperm.trans (t.vectors.nearest_subperm query limit)
    have hlength := t.vectors.length_nearest query limit
    refine ⟨by rwa [List.length_map, hperm.length_eq], ?_, fun id hid => ?_⟩
    · exact nodup_ids_of_subperm hsub honce
    · obtain ⟨hit, hhit, rfl⟩ := List.mem_map.mp hid
      obtain ⟨stored, hstored, rfl⟩ := List.mem_map.mp (hsub.subset hhit)
      exact isWanted_none (h.embedded stored hstored)
  case isFalse =>
    obtain ⟨hlength, hsub⟩ := fullScan_eq_ok hok
    refine ⟨by rwa [List.length_map], ?_, fun id hid => ?_⟩
    · exact nodup_ids_of_subperm hsub (honce.sublist (List.filter_sublist.map _))
    · obtain ⟨hit, hhit, rfl⟩ := List.mem_map.mp hid
      exact (List.mem_filter.mp (hsub.subset hhit)).2

/-- Hits by embedding name findings of the wanted kind, each of them once. -/
theorem byVector_eq_ok (h : Coherent t) {query : Embedding} {dimension limit : Nat}
    {kind : Option Kind} {hits : List Hit} {s : Store}
    (hok : byVector query dimension limit kind t.store = (.ok hits, s)) :
    IsLeg t kind limit (hits.map (·.id)) := by
  rw [byVector_store] at hok
  split_ifs at hok
  · simp at hok
  · simp only [outcome_eq_iff, Except.ok.injEq] at hok
    exact hok.1 ▸ isLeg_nil t kind limit
  · exact scanOf_eq_ok h (liftFault_eq_ok_iff.mp hok).1

/-- The hits by words that a hybrid search fuses. -/
theorem hitsOf_byWords (h : Coherent t) (text : String) (limit : Nat) (kind : Option Kind) :
    IsLeg t kind limit ((hitsOf (byWords text limit kind t.store).1).map (·.id)) := by
  rcases hok : byWords text limit kind t.store with ⟨_ | hits, s⟩
  · exact isLeg_nil t kind limit
  · exact byWords_eq_ok h hok

theorem wordHits_store (text : String) (limit : Nat) (kind : Option Kind) :
    wordHits text limit kind t.store = (.ok (hitsOf (byWords text limit kind t.store).1), t.store) :=
  by
  rw [wordHits, tryCatch_apply]
  obtain ⟨e, hfails⟩ | ⟨hits, hok⟩ := (readOnly_byWords text limit kind).outcome t.store
  · rw [hfails]
    rfl
  · rw [hok]
    rfl

end Findings.Search
