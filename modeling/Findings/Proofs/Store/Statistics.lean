import Findings.Proofs.Store.Coherence
import Findings.Store.Read
import Mathlib.Algebra.GroupWithZero.Nat
import Mathlib.Data.List.Dedup

/-!
# Counting what a store holds

The statistics count the rows of each table and the findings of each kind. On coherent tables all
kinds that are stored are read back, so that counting never fails, and the counts of the kinds
sum to the number of findings.
-/
namespace Findings.Store

open Findings.Record

/-- The kinds that occur among rows, each with the number of its rows. -/
def countKinds (rows : List Row) (kinds : List Kind) : List (Kind × Nat) :=
  kinds.filterMap fun k =>
    if k.name ∈ rows.map (·.kind) then some (k, rows.countP (·.kind == k.name)) else none

section Counts

variable {rows : List Row}

lemma mem_storedKinds {text : String} : text ∈ storedKinds rows ↔ text ∈ rows.map (·.kind) := by
  rw [storedKinds, List.mem_mergeSort, List.mem_eraseDups]

/-- Texts that are names of kinds are the names of a list of kinds. -/
lemma exists_kinds {texts : List String} (h : ∀ text ∈ texts, ∃ k : Kind, k.name = text) :
    ∃ kinds : List Kind, kinds.map Kind.name = texts := by
  induction texts with
  | nil => exact ⟨[], rfl⟩
  | cons text texts ih =>
    obtain ⟨k, rfl⟩ := h text (by simp)
    obtain ⟨kinds, rfl⟩ := ih fun text' htext => h text' (by simp [htext])
    exact ⟨k :: kinds, rfl⟩

/-- If every stored kind is the name of one, counting them succeeds. -/
lemma exists_kindCounts (h : ∀ row ∈ rows, ∃ k : Kind, k.name = row.kind) :
    ∃ counts, kindCounts rows = some counts ∧ ∀ entry : Kind × Nat, entry ∈ counts ↔
      entry.1.name ∈ rows.map (·.kind) ∧ entry.2 = rows.countP (·.kind == entry.1.name) := by
  have hstored : ∀ text ∈ storedKinds rows, ∃ k : Kind, k.name = text := by
    intro text htext
    obtain ⟨row, hrow, rfl⟩ := List.mem_map.mp (mem_storedKinds.mp htext)
    exact h row hrow
  obtain ⟨kinds, hkinds⟩ := exists_kinds hstored
  refine ⟨kinds.map fun k => (k, rows.countP (·.kind == k.name)), ?_, fun entry => ?_⟩
  · rw [kindCounts, ← hkinds, List.mapM_map]
    simp only [Function.comp_def, Kind.ofText?_name, Option.map_some]
    exact List.mapM_pure
  · have hmem : entry.1 ∈ kinds ↔ entry.1.name ∈ rows.map (·.kind) := by
      rw [← mem_storedKinds, ← hkinds, List.mem_map]
      constructor
      · exact fun hentry => ⟨entry.1, hentry, rfl⟩
      · rintro ⟨k, hk, hname⟩
        have hkind : some k = some entry.1 := by
          rw [← k.ofText?_name, hname, Kind.ofText?_name]
        exact Option.some.inj hkind ▸ hk
    rw [← hmem, List.mem_map]
    constructor
    · rintro ⟨k, hk, rfl⟩
      exact ⟨hk, rfl⟩
    · exact fun ⟨hk, hcount⟩ => ⟨entry.1, hk, Prod.ext rfl hcount.symm⟩

/-- Counts that say the number of rows of each kind are listed in the order of kinds. -/
lemma countsByKind_eq {counts : List (Kind × Nat)}
    (h : ∀ entry : Kind × Nat, entry ∈ counts ↔
      entry.1.name ∈ rows.map (·.kind) ∧ entry.2 = rows.countP (·.kind == entry.1.name)) :
    countsByKind counts = countKinds rows Kind.all := by
  refine List.filterMap_congr fun k _ => ?_
  split
  case isTrue hk =>
    have hsome : (counts.reverse.find? (·.1 == k)).isSome := by
      rw [List.find?_isSome]
      exact ⟨(k, rows.countP (·.kind == k.name)),
        List.mem_reverse.mpr ((h (k, _)).mpr ⟨hk, rfl⟩), beq_self_eq_true k⟩
    obtain ⟨entry, hentry⟩ := Option.isSome_iff_exists.mp hsome
    obtain rfl : entry.1 = k := by simpa using List.find?_some hentry
    have hcount := ((h entry).mp (List.mem_reverse.mp (List.mem_of_find?_eq_some hentry))).2
    rw [hentry, ← hcount]
  case isFalse hk =>
    refine List.find?_eq_none.mpr fun entry hentry hkind => hk ?_
    obtain rfl : entry.1 = k := by simpa using hkind
    exact ((h entry).mp (List.mem_reverse.mp hentry)).1

/-- A kind that does not occur adds nothing to the sum. -/
lemma sum_countKinds (rows : List Row) (kinds : List Kind) :
    ((countKinds rows kinds).map (·.2)).sum =
      (kinds.map fun k => rows.countP (·.kind == k.name)).sum := by
  induction kinds with
  | nil => rfl
  | cons k kinds ih =>
    rw [countKinds, List.filterMap_cons, List.map_cons, List.sum_cons, ← ih, countKinds]
    by_cases hk : k.name ∈ rows.map (·.kind)
    · rw [if_pos hk, List.map_cons, List.sum_cons]
    · have hzero : rows.countP (·.kind == k.name) = 0 := by
        refine List.countP_eq_zero.mpr fun row hrow hkind => hk ?_
        exact List.mem_map.mpr ⟨row, hrow, by simpa using hkind⟩
      rw [if_neg hk, hzero, Nat.zero_add]

/-- Every row is counted under exactly one kind. -/
lemma sum_countP_kind (h : ∀ row ∈ rows, ∃ k : Kind, k.name = row.kind) :
    (Kind.all.map fun k => rows.countP (·.kind == k.name)).sum = rows.length := by
  induction rows with
  | nil => rfl
  | cons row rows ih =>
    have hrest := ih fun other hother => h other (by simp [hother])
    obtain ⟨k, hk⟩ := h row (by simp)
    simp only [Kind.all, List.map_cons, List.map_nil, List.sum_cons, List.sum_nil,
      List.countP_cons, List.length_cons, ← hk] at hrest ⊢
    cases k <;> simp [Kind.name] at hrest ⊢ <;> omega

end Counts

variable {t : Tables}

namespace Coherent

/-- The column of kinds holds names of kinds only. -/
lemma kind_name (h : Coherent t) : ∀ row ∈ t.findings, ∃ k : Kind, k.name = row.kind := by
  intro row hrow
  obtain ⟨f, hf⟩ := h.written row hrow
  exact ⟨f.kind, by rw [hf]; rfl⟩

/-- There are not more embeddings than findings. -/
lemma size_le (h : Coherent t) : t.vectors.size ≤ t.findings.length := by
  have hsubset : t.vectors.rows.map (·.1) ⊆ t.findings.map (·.id) := by
    intro id hid
    obtain ⟨stored, hstored, rfl⟩ := List.mem_map.mp hid
    obtain ⟨row, hrow, hid⟩ := h.embedded stored hstored
    exact List.mem_map.mpr ⟨row, hrow, hid⟩
  simpa [Vector.Table.size] using h.embeddedOnce.length_le_of_subset hsubset

/-- There are not fewer sessions than findings belong to. -/
lemma sessions_le (h : Coherent t) :
    (t.findings.map (·.session)).dedup.length ≤ t.sessions.length := by
  have hsubset : (t.findings.map (·.session)).dedup ⊆ t.sessions.map (·.id) := by
    intro id hid
    obtain ⟨row, hrow, rfl⟩ := List.mem_map.mp (List.mem_dedup.mp hid)
    obtain ⟨session, hsession, hid⟩ := h.owned row hrow
    exact List.mem_map.mpr ⟨session, hsession, hid⟩
  simpa using (List.nodup_dedup _).length_le_of_subset hsubset

end Coherent

/-- The statistics of coherent tables. -/
def Tables.statistics (t : Tables) : Stats :=
  ⟨t.sessions.length, t.findings.length, t.vectors.size, t.lexical.length,
    countKinds t.findings Kind.all⟩

theorem stats_store (h : Coherent t) (handle : Handle) :
    stats handle t.store = (.ok t.statistics, t.store) := by
  obtain ⟨counts, hcounts, hmem⟩ := exists_kindCounts h.kind_name
  simp [stats, Tables.store, ensureSchema, hasSchema, hcounts, Tables.statistics,
    countsByKind_eq hmem]

/-- Every part of the statistics of coherent tables agrees with the others. -/
theorem statistics_agree (h : Coherent t) :
    t.statistics.lexical = t.statistics.findings ∧
      (t.statistics.byKind.map (·.2)).sum = t.statistics.findings ∧
      t.statistics.embeddings ≤ t.statistics.findings ∧
      (t.findings.map (·.session)).dedup.length ≤ t.statistics.sessions := by
  refine ⟨?_, ?_, h.size_le, h.sessions_le⟩
  · simp [Tables.statistics, h.indexed]
  · exact (sum_countKinds t.findings Kind.all).trans (sum_countP_kind h.kind_name)

end Findings.Store
