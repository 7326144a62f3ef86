import Findings.Proofs.Search.Hybrid
import Findings.Proofs.Store.Ids

/-!
# Removed findings

A finding that has been removed is answered by nothing any more. Every way of reading gives rows
of findings that exist, also the searches that read the index or the embeddings alone, and the id
of a removed finding is given to no other. An embedding for it is refused.
-/
namespace Findings.Search

open Findings.Record
open Findings.Store
open Findings.Store.Operation
open Findings.Vector

/-- No way of reading a store gives an id, there is no embedding of it, and none is taken. -/
structure Absent (s : Store) (id : Int) : Prop where
  unknown : ∀ handle, get? handle id s = (.ok none, s)
  get? : ∀ handle other f, (get? handle other s).1 = .ok (some f) → f.id ≠ id
  getMany : ∀ handle ids found, (getMany handle ids s).1 = .ok found → ∀ f ∈ found, f.id ≠ id
  listSession : ∀ handle session found, (listSession handle session s).1 = .ok found →
    ∀ f ∈ found, f.id ≠ id
  byWords : ∀ text limit kind hits, (byWords text limit kind s).1 = .ok hits →
    ∀ hit ∈ hits, hit.id ≠ id
  byVector : ∀ query dimension limit kind hits, (byVector query dimension limit kind s).1 = .ok hits →
    ∀ hit ∈ hits, hit.id ≠ id
  search : ∀ handle settings query results, (search handle settings query s).1 = .ok results →
    ∀ r ∈ results, r.finding.id ≠ id
  /-- The length of an embedding is looked at first, then whether there is a finding for it. -/
  setEmbedding : ∀ handle embedding, setEmbedding handle id embedding s =
    (.error (if embedding.length ≠ handle.dimension then
      .dimension handle.dimension embedding.length else .finding (.missing id)), s)
  embedding : ∀ table ∈ s.vectors, table.find? id = none

variable {t : Tables}

/-- What is read from rows of the tables has their ids. -/
lemma isLive_of_readRows {rows : List Row} {s u : Store} {found : List Finding}
    (hrows : ∀ row ∈ rows, row ∈ t.findings) (hok : readRows rows s = (.ok found, u)) :
    ∀ f ∈ found, IsLive t.store f.id := by
  rw [readRows_apply] at hok
  split_ifs at hok
  · simp only [outcome_eq_iff, Except.ok.injEq] at hok
    intro f hf
    rw [← hok.1] at hf
    obtain ⟨row, hrow, hf⟩ := List.mem_filterMap.mp hf
    exact isLive_store.mpr ⟨row, hrows row hrow, (id_of_finding? hf).symm⟩
  · simp at hok

lemma isLive_of_get? {handle : Handle} {id : Int} {f : Finding} {u : Store}
    (hok : get? handle id t.store = (.ok (some f), u)) : IsLive t.store f.id := by
  simp only [get?, bind_apply, ensureSchema_store, get_apply, require_findings, pure_apply] at hok
  cases hrow : t.findings.find? (·.id == id) with
  | none => simp [hrow] at hok
  | some row =>
    have hmem : ∀ other ∈ [row], other ∈ t.findings := by
      simpa using List.mem_of_find?_eq_some hrow
    simp only [hrow, bind_apply] at hok
    rcases hread : readRows [row] t.store with ⟨_ | found, v⟩
    · simp [hread] at hok
    · simp only [hread, pure_apply, outcome_eq_iff, Except.ok.injEq] at hok
      exact isLive_of_readRows hmem hread f (List.mem_of_mem_head? hok.1)

lemma isLive_of_lookUp {ids : List Int} {found : List Finding} {u : Store}
    (hok : lookUp ids t.store = (.ok found, u)) : ∀ f ∈ found, IsLive t.store f.id := by
  rw [lookUp_store] at hok
  split_ifs at hok
  · simp only [outcome_eq_iff, Except.ok.injEq] at hok
    simp [← hok.1]
  · simp at hok
  · exact isLive_of_readRows (fun row hrow => List.mem_of_mem_filter hrow) hok

lemma isLive_of_listSession {handle : Handle} {session : String} {found : List Finding} {u : Store}
    (hok : listSession handle session t.store = (.ok found, u)) :
    ∀ f ∈ found, IsLive t.store f.id := by
  simp only [listSession, bind_apply, ensureSchema_store, get_apply, require_findings, pure_apply]
    at hok
  exact isLive_of_readRows (fun row hrow => List.mem_of_mem_filter hrow) hok

/-- What one source gives has findings. -/
lemma IsLeg.isLive {kind : Option Kind} {limit : Nat} {ids : List Int}
    (h : IsLeg t kind limit ids) : ∀ id ∈ ids, IsLive t.store id := by
  intro id hid
  obtain ⟨row, hrow, hid, -⟩ := isWanted_iff.mp (h.wanted id hid)
  exact isLive_store.mpr ⟨row, hrow, hid⟩

/-- A result is made from a finding that was looked up. -/
lemma finding_mem_of_mem_attach {fused : List Fused} {found : List Finding} {r : Result}
    (hr : r ∈ attach fused found) : r.finding ∈ found := by
  induction fused generalizing found with
  | nil => cases hr
  | cons candidate rest ih =>
    rw [attach] at hr
    split at hr
    · rename_i finding hfound
      rcases List.mem_cons.mp hr with rfl | hr
      · exact List.mem_of_find?_eq_some hfound
      · exact List.mem_of_mem_filter (ih hr)
    · exact ih hr

lemma isLive_of_materialize {fused : List Fused} {results : List Result} {u : Store}
    (hok : materialize fused t.store = (.ok results, u)) :
    ∀ r ∈ results, IsLive t.store r.finding.id := by
  rw [materialize] at hok
  split_ifs at hok
  · simp only [pure_apply, outcome_eq_iff, Except.ok.injEq] at hok
    simp [← hok.1]
  · obtain ⟨found, v, hlook, hpure⟩ := bind_eq_ok_iff.mp hok
    simp only [pure_apply, outcome_eq_iff, Except.ok.injEq] at hpure
    intro r hr
    rw [← hpure.1] at hr
    exact isLive_of_lookUp hlook _ (finding_mem_of_mem_attach hr)

lemma isLive_of_search {handle : Handle} {settings : Settings} {query : SearchQuery}
    {results : List Result} {u : Store}
    (hok : search handle settings query t.store = (.ok results, u)) :
    ∀ r ∈ results, IsLive t.store r.finding.id := by
  rw [search_store] at hok
  split at hok
  · simp at hok
  · split_ifs at hok
    · simp at hok
    · split at hok
      · exact isLive_of_materialize hok
      · simp at hok

/-- An id without a finding is absent in every way. -/
theorem absent_of_not_isLive (h : Coherent t) {id : Int} (hgone : ¬ IsLive t.store id) :
    Absent t.store id := by
  have hnone : ∀ row ∈ t.findings, row.id ≠ id := by
    intro row hrow hid
    exact hgone (isLive_store.mpr ⟨row, hrow, hid⟩)
  -- what is live has another id
  have hother : ∀ {other : Int}, IsLive t.store other → other ≠ id := by
    rintro other hlive rfl
    exact hgone hlive
  have hpair : ∀ {α : Type} {outcome : Except Error α × Store} {a : α},
      outcome.1 = .ok a → outcome = (.ok a, outcome.2) := fun h => Prod.ext h rfl
  constructor
  case unknown =>
    intro handle
    have hfind : t.findings.find? (·.id == id) = none := by simpa using hnone
    simp [Store.get?, require_findings, hfind]
  case get? => exact fun handle other f hok => hother (isLive_of_get? (hpair hok))
  case getMany =>
    intro handle ids found hok f hf
    have hok := hpair hok
    rw [Store.getMany, bind_apply, ensureSchema_store] at hok
    exact hother (isLive_of_lookUp hok f hf)
  case listSession =>
    exact fun handle session found hok f hf => hother (isLive_of_listSession (hpair hok) f hf)
  case byWords =>
    intro text limit kind hits hok hit hhit
    have hleg := byWords_eq_ok h (hpair hok)
    exact hother (hleg.isLive _ (List.mem_map_of_mem hhit))
  case byVector =>
    intro query dimension limit kind hits hok hit hhit
    have hleg := byVector_eq_ok h (hpair hok)
    exact hother (hleg.isLive _ (List.mem_map_of_mem hhit))
  case search =>
    exact fun handle settings query results hok r hr => hother (isLive_of_search (hpair hok) r hr)
  case setEmbedding =>
    intro handle embedding
    exact setEmbedding_missing (by rintro rows ⟨⟩; exact hnone) embedding
  case embedding =>
    rintro table ⟨⟩
    rw [Table.find?_eq_none_iff]
    intro stored hstored hid
    obtain ⟨row, hrow, hid'⟩ := h.embedded stored hstored
    exact hnone row hrow (hid'.trans hid)

/-- Over every run the ids that are given rise, and a finding that has been removed never comes
back: what removes a finding leaves nothing under its id, and an id whose finding has gone stays
absent in every continuation of the run. -/
theorem removed_finding_never_returns (before : List Operation) (removing : Operation)
    (later : List Operation) :
    (idsGiven (before ++ removing :: later) {}).Pairwise (· < ·) ∧
    (∀ rows ∈ (run before {}).findings, ∀ row ∈ rows, Removes row removing →
      (removing.action (run before {})).1 = .ok () →
        ¬ IsLive (perform (run before {}) removing) row.id) ∧
    (∀ id, IsLive (run before {}) id → ¬ IsLive (perform (run before {}) removing) id →
      Absent (run (before ++ removing :: later) {}) id) := by
  have hbefore : Reachable (run before {}) := ⟨before, rfl⟩
  refine ⟨(ages_run ⟨[], rfl⟩ _).rising, fun rows hrows row hrow hremoves hok => ?_,
    fun id hlive hgone => ?_⟩
  · rcases reachable_cases hbefore with hempty | ⟨dimension, t, ht, hcoherent, -⟩
    · rw [hempty] at hrows
      cases hrows
    · rw [ht] at hrows hok ⊢
      obtain rfl : t.findings = rows := Option.some.inj hrows
      exact not_isLive_of_removes hcoherent hrow hremoves (Prod.ext hok rfl)
  · have hsplit : run (before ++ removing :: later) {} =
        run (removing :: later) (run before {}) := List.foldl_append
    have hstays : ¬ IsLive (run (before ++ removing :: later) {}) id := by
      rw [hsplit]
      have hafter := ages_run (reachable_run hbefore [removing]) later
      have hid := (le_lastId hbefore hlive).trans (ages_perform hbefore removing).lastId_le
      exact hafter.not_isLive hid hgone
    rcases reachable_cases hbefore with hempty | ⟨dimension, hsound⟩
    · rw [hempty] at hlive
      exact absurd hlive (not_isLive_empty id)
    · obtain ⟨t, ht, hcoherent, -⟩ := sound_run hsound (removing :: later)
      rw [hsplit, ht] at hstays ⊢
      exact absent_of_not_isLive hcoherent hstays

/-- The one finding of a session is replaced, another one is stored after that, and the first one
stays away. -/
theorem removed_finding_never_returns_replaced :
    let opened : Handle := ⟨"findings.db", 1⟩
    let finding (content : String) : NewFinding :=
      { session := "s", kind := .praise, content, severity := .low }
    let before : List Operation :=
      [.applySchema opened, .insert opened (finding "a") (some [Number.Binary.zero])]
    let removing : Operation := .replaceSession opened "s" [(finding "b", [Number.Binary.zero])]
    let later : List Operation := [.reopen opened, .insert opened (finding "c") none]
    IsLive (run before {}) 1 ∧ ¬ IsLive (perform (run before {}) removing) 1 ∧
      idsGiven (before ++ removing :: later) {} = [1, 2, 3] ∧
      ([1, 2, 3] : List Int).Pairwise (· < ·) ∧
      Absent (run (before ++ removing :: later) {}) 1 := by
  intro opened finding before removing later
  obtain ⟨hrising, hremoves, habsent⟩ := removed_finding_never_returns before removing later
  have hgiven : idsGiven (before ++ removing :: later) {} = [1, 2, 3] := by decide +kernel
  have hrow : (run before {}).findings = some [.ofNew 1 (finding "a")] := by decide +kernel
  have hlive : IsLive (run before {}) 1 := ⟨_, hrow, _, List.mem_cons_self, rfl⟩
  have hgone : ¬ IsLive (perform (run before {}) removing) 1 :=
    hremoves _ hrow _ List.mem_cons_self (.replaceSession opened _) (by decide +kernel)
  exact ⟨hlive, hgone, hgiven, hgiven ▸ hrising, habsent 1 hlive hgone⟩

/-- An embedding of another length for a removed finding is refused for its length, before anyone
asks for the finding. -/
theorem removed_finding_refused_for_length :
    let opened : Handle := ⟨"findings.db", 1⟩
    let before : List Operation := [.applySchema opened,
      .insert opened { session := "s", kind := .praise, content := "a", severity := .low } none]
    let s := perform (run before {}) (.delete opened 1)
    IsLive (run before {}) 1 ∧ ¬ IsLive s 1 ∧
      setEmbedding opened 1 [Number.Binary.zero, Number.Binary.zero] s = (.error (.dimension 1 2), s) ∧
      ¬ ∀ embedding, (setEmbedding opened 1 embedding s).1 = .error (.finding (.missing 1)) := by
  intro opened before s
  have hrow : (run before {}).findings = some [.ofNew 1
      { session := "s", kind := .praise, content := "a", severity := .low }] := by decide +kernel
  have hrows : s.findings = some [] := by decide +kernel
  have hgone : ¬ IsLive s 1 := by
    rintro ⟨rows, hsome, row, hmem, -⟩
    rw [hrows] at hsome
    obtain rfl := Option.some.inj hsome
    cases hmem
  have hrefused : setEmbedding opened 1 [Number.Binary.zero, Number.Binary.zero] s =
      (.error (.dimension 1 2), s) := rfl
  refine ⟨⟨_, hrow, _, List.mem_cons_self, rfl⟩, hgone, hrefused, fun hall => ?_⟩
  have hfinding := hall [Number.Binary.zero, Number.Binary.zero]
  rw [hrefused] at hfinding
  cases hfinding

end Findings.Search
