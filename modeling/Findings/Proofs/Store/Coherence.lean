import Findings.Proofs.Store.Tables
import Mathlib.Data.List.Nodup
import Mathlib.Data.List.Pairwise

/-!
# Coherent tables

The lexical index and the embeddings repeat what the findings say, and the findings name rows of
the sessions. `Coherent` says that all four tables agree. Each change that a statement makes keeps
it; what a statement checks first, and what its callers have done before, are the hypotheses.
-/
namespace Findings.Store

open Findings.Record

/-- The tables agree: every finding was written by the store, has a session and has exactly its
own entry in the index; every embedding is the one embedding of a finding and fits the table. -/
structure Coherent (t : Tables) : Prop where
  rising : t.findings.Pairwise fun a b => a.id < b.id
  bounded : ∀ row ∈ t.findings, 0 < row.id ∧ row.id ≤ t.lastId
  lastId_range : 0 ≤ t.lastId ∧ t.lastId ≤ maxId
  written : ∀ row ∈ t.findings, ∃ f : NewFinding, row = .ofNew row.id f
  owned : ∀ row ∈ t.findings, ∃ session ∈ t.sessions, session.id = row.session
  sessionsOnce : (t.sessions.map (·.id)).Nodup
  indexed : t.lexical = t.findings.map Row.entry
  embedded : ∀ stored ∈ t.vectors.rows, ∃ row ∈ t.findings, row.id = stored.1
  embeddedOnce : (t.vectors.rows.map (·.1)).Nodup
  lengths : ∀ stored ∈ t.vectors.rows, stored.2.length = t.vectors.dimension
  filled : ∀ stored ∈ t.vectors.rows, stored.2 ≠ []

lemma rising_nodup {rows : List Row} (h : rows.Pairwise fun a b => a.id < b.id) :
    (rows.map (·.id)).Nodup :=
  List.pairwise_map.mpr (h.imp fun hlt => Int.ne_of_lt hlt)

/-- Rows are told apart by their ids. -/
lemma Coherent.eq_of_id_eq {t : Tables} (h : Coherent t) {a b : Row} (ha : a ∈ t.findings)
    (hb : b ∈ t.findings) (hid : a.id = b.id) : a = b :=
  List.inj_on_of_nodup_map (rising_nodup h.rising) ha hb hid

theorem coherent_fresh (dimension : Nat) : Coherent (.fresh dimension) := by
  constructor <;> simp [Tables.fresh, maxId, Number.signedCount]

/-- A row above all others goes to the end. -/
lemma placeRow_of_lt {row : Row} {rows : List Row} (h : ∀ other ∈ rows, other.id < row.id) :
    placeRow row rows = rows ++ [row] := by
  induction rows with
  | nil => rfl
  | cons other rest ih =>
    have hlt := h other (by simp)
    rw [placeRow, if_neg (by omega), ih fun r hr => h r (by simp [hr])]
    rfl

lemma rows_eraseAll (removed : List Row) (vectors : Vector.Table) :
    (removed.foldl (fun table row => table.erase row.id) vectors).rows =
      vectors.rows.filter fun stored => !removed.any (·.id == stored.1) := by
  induction removed generalizing vectors with
  | nil => simp
  | cons row removed ih =>
    rw [List.foldl_cons, ih, Vector.Table.rows_erase, List.filter_filter]
    congr 1
    funext stored
    rw [List.any_cons, Bool.not_or, Bool.and_comm, bne, BEq.comm (a := row.id)]

@[simp] lemma dimension_eraseAll (removed : List Row) (vectors : Vector.Table) :
    (removed.foldl (fun table row => table.erase row.id) vectors).dimension =
      vectors.dimension := by
  induction removed generalizing vectors with
  | nil => rfl
  | cons row removed ih => rw [List.foldl_cons, ih, Vector.Table.dimension_erase]

/-- Erasing rows forgets their embeddings and no others. -/
lemma find?_eraseAll (removed : List Row) (vectors : Vector.Table) (id : Int) :
    (removed.foldl (fun table row => table.erase row.id) vectors).find? id =
      if removed.any (·.id == id) then none else vectors.find? id := by
  induction removed generalizing vectors with
  | nil => rfl
  | cons row removed ih =>
    rw [List.foldl_cons, ih, Vector.Table.find?_erase, List.any_cons]
    by_cases hid : row.id = id
    · simp [hid]
    · have hne : ¬ id = row.id := fun heq => hid heq.symm
      simp [hid, hne]

namespace Tables

variable {t : Tables}

lemma exists_withSession (t : Tables) (id : String) :
    ∃ session ∈ (t.withSession id).sessions, session.id = id := by
  by_cases h : ∃ session ∈ t.sessions, session.id = id <;> simp [withSession, h]

@[simp] lemma withSession_findings (t : Tables) (id : String) :
    (t.withSession id).findings = t.findings := by
  unfold withSession
  split <;> rfl

@[simp] lemma withSession_vectors (t : Tables) (id : String) :
    (t.withSession id).vectors = t.vectors := by
  unfold withSession
  split <;> rfl

@[simp] lemma withSession_lastId (t : Tables) (id : String) :
    (t.withSession id).lastId = t.lastId := by
  unfold withSession
  split <;> rfl

end Tables

namespace Coherent

open Tables

variable {t : Tables}

/-- Tables stay coherent when only sessions are added or completed. -/
lemma withSessions (h : Coherent t) {sessions : List SessionRow}
    (honce : (sessions.map (·.id)).Nodup)
    (howned : ∀ session ∈ t.sessions, ∃ other ∈ sessions, other.id = session.id) :
    Coherent { t with sessions } where
  __ := h
  owned row hrow := by
    obtain ⟨session, hsession, hid⟩ := h.owned row hrow
    obtain ⟨other, hother, hid'⟩ := howned session hsession
    exact ⟨other, hother, hid'.trans hid⟩
  sessionsOnce := honce

lemma withSession (h : Coherent t) (id : String) : Coherent (t.withSession id) := by
  unfold Tables.withSession
  split
  · exact h
  · rename_i hnew
    refine h.withSessions ?_ fun session hsession => ⟨session, by simp [hsession], rfl⟩
    simp only [List.map_append, List.map_cons, List.map_nil]
    refine List.nodup_append.mpr ⟨h.sessionsOnce, by simp, ?_⟩
    simp at hnew ⊢
    exact hnew

lemma withMetadata (h : Coherent t) (s : Session) : Coherent (t.withMetadata s) := by
  have hid : ∀ row : SessionRow, (if row.id = s.id then row.update s else row).id = row.id := by
    intro row
    split <;> rfl
  refine h.withSessions ?_ fun session hsession => ?_
  · split
    · simpa [Function.comp_def, hid] using h.sessionsOnce
    · rename_i hnew
      simp only [List.map_append, List.map_cons, List.map_nil]
      refine List.nodup_append.mpr ⟨h.sessionsOnce, by simp, ?_⟩
      simp [SessionRow.update] at hnew ⊢
      exact hnew
  · split
    · exact ⟨_, List.mem_map_of_mem hsession, hid session⟩
    · exact ⟨session, by simp [hsession], rfl⟩

/-- A written row with the next id and a session that exists may be added. -/
lemma withRow (h : Coherent t) {row : Row} (hid : row.id = t.lastId + 1) (hlast : t.lastId < maxId)
    (hwritten : ∃ f : NewFinding, row = .ofNew row.id f)
    (hsession : ∃ session ∈ t.sessions, session.id = row.session) : Coherent (t.withRow row) := by
  have hlt : ∀ other ∈ t.findings, other.id < row.id := by
    intro other hother
    have := (h.bounded other hother).2
    omega
  have hrows : (t.withRow row).findings = t.findings ++ [row] := placeRow_of_lt hlt
  have hlastId : (t.withRow row).lastId = t.lastId + 1 := by
    simp only [Tables.withRow, hid]
    omega
  have hrange := h.lastId_range
  constructor
  case rising =>
    rw [hrows]
    exact List.pairwise_append.mpr ⟨h.rising, by simp, by simpa using hlt⟩
  case bounded =>
    intro other hother
    rw [hrows, List.mem_append, List.mem_singleton] at hother
    rw [hlastId]
    rcases hother with hother | rfl
    · have := h.bounded other hother
      omega
    · omega
  case lastId_range => omega
  case written =>
    intro other hother
    rw [hrows, List.mem_append, List.mem_singleton] at hother
    rcases hother with hother | rfl
    · exact h.written other hother
    · exact hwritten
  case owned =>
    intro other hother
    rw [hrows, List.mem_append, List.mem_singleton] at hother
    rcases hother with hother | rfl
    · exact h.owned other hother
    · exact hsession
  case sessionsOnce => exact h.sessionsOnce
  case indexed =>
    rw [hrows, List.map_append, ← h.indexed]
    rfl
  case embedded =>
    intro stored hstored
    obtain ⟨other, hother, hid⟩ := h.embedded stored hstored
    exact ⟨other, by simp [hrows, hother], hid⟩
  case embeddedOnce => exact h.embeddedOnce
  case lengths => exact h.lengths
  case filled => exact h.filled

/-- Another chosen row with the id of a row would be this row. -/
lemma any_filter_id (h : Coherent t) {row : Row} (hrow : row ∈ t.findings) (chosen : Row → Bool) :
    (t.findings.filter chosen).any (·.id == row.id) = chosen row := by
  rw [Bool.eq_iff_iff]
  simp only [List.any_eq_true, List.mem_filter, beq_iff_eq]
  constructor
  · rintro ⟨other, ⟨hother, hchosen⟩, hid⟩
    rwa [h.eq_of_id_eq hother hrow hid] at hchosen
  · exact fun hchosen => ⟨row, ⟨hrow, hchosen⟩, rfl⟩

/-- Deleting rows takes the embeddings of these rows and of no others. -/
lemma find?_without (h : Coherent t) {row : Row} (hrow : row ∈ t.findings)
    (chosen : Row → Bool) :
    (t.without chosen).vectors.find? row.id =
      if chosen row then none else t.vectors.find? row.id := by
  rw [Tables.without, find?_eraseAll, h.any_filter_id hrow]

/-- Rows of findings may be removed with their entries and embeddings. -/
lemma without (h : Coherent t) (chosen : Row → Bool) : Coherent (t.without chosen) := by
  have hmem : ∀ row ∈ (t.without chosen).findings, row ∈ t.findings ∧ chosen row = false := by
    intro row hrow
    simpa [Tables.without] using hrow
  have hstored : ∀ stored ∈ (t.without chosen).vectors.rows, stored ∈ t.vectors.rows ∧
      ∀ row ∈ t.findings, chosen row = true → row.id ≠ stored.1 := by
    intro stored hstored
    simpa [Tables.without, rows_eraseAll] using hstored
  constructor
  case rising => exact h.rising.filter _
  case bounded => exact fun row hrow => h.bounded row (hmem row hrow).1
  case lastId_range => exact h.lastId_range
  case written => exact fun row hrow => h.written row (hmem row hrow).1
  case owned => exact fun row hrow => h.owned row (hmem row hrow).1
  case sessionsOnce => exact h.sessionsOnce
  case indexed =>
    simp only [Tables.without, h.indexed, List.filter_map]
    congr 1
    refine List.filter_congr fun row hrow => ?_
    simp only [Function.comp_apply, Row.entry, h.any_filter_id hrow]
  case embedded =>
    intro stored hmem'
    obtain ⟨row, hrow, hid⟩ := h.embedded stored (hstored stored hmem').1
    refine ⟨row, ?_, hid⟩
    have hkept : chosen row = false := by
      by_contra hchosen
      exact (hstored stored hmem').2 row hrow (by simpa using hchosen) hid
    simp [Tables.without, hrow, hkept]
  case embeddedOnce =>
    simp only [Tables.without, rows_eraseAll]
    exact h.embeddedOnce.sublist (List.filter_sublist.map _)
  case lengths =>
    intro stored hmem'
    rw [h.lengths stored (hstored stored hmem').1]
    simp [Tables.without]
  case filled => exact fun stored hmem' => h.filled stored (hstored stored hmem').1

/-- A session may be removed with its findings. -/
lemma withoutSession (h : Coherent t) (id : String) : Coherent (t.withoutSession id) where
  __ := h.without (·.session == id)
  owned row hrow := by
    have hrow : row ∈ t.findings ∧ row.session ≠ id := by
      simpa [Tables.withoutSession, Tables.without] using hrow
    obtain ⟨session, hsession, hid⟩ := h.owned row hrow.1
    exact ⟨session, by simp [Tables.withoutSession, hsession, hid, hrow.2], hid⟩
  sessionsOnce := h.sessionsOnce.sublist (List.filter_sublist.map _)

/-- A row may be changed into another written row of its id and session. -/
lemma withChanged (h : Coherent t) {row changed : Row} (hrow : row ∈ t.findings)
    (hid : changed.id = row.id) (hsession : changed.session = row.session)
    (hwritten : ∃ f : NewFinding, changed = .ofNew changed.id f) :
    Coherent (t.withChanged changed) := by
  have hids : ∀ other : Row, (if other.id = changed.id then changed else other).id = other.id := by
    intro other
    split <;> simp_all
  have hmem : ∀ other ∈ (t.withChanged changed).findings, other ∈ t.findings ∨ other = changed := by
    intro other hother
    obtain ⟨old, hold, rfl⟩ := List.mem_map.mp hother
    split
    · exact .inr rfl
    · exact .inl hold
  constructor
  case rising =>
    refine List.pairwise_map.mpr (h.rising.imp fun {a b} hlt => ?_)
    rwa [hids, hids]
  case bounded =>
    intro other hother
    rcases hmem other hother with hother | rfl
    · exact h.bounded other hother
    · exact hid ▸ h.bounded row hrow
  case lastId_range => exact h.lastId_range
  case written =>
    intro other hother
    rcases hmem other hother with hother | rfl
    · exact h.written other hother
    · exact hwritten
  case owned =>
    intro other hother
    rcases hmem other hother with hother | rfl
    · exact h.owned other hother
    · exact hsession ▸ h.owned row hrow
  case sessionsOnce => exact h.sessionsOnce
  case indexed =>
    simp only [Tables.withChanged, h.indexed, List.map_map]
    refine List.map_congr_left fun other _ => ?_
    by_cases hother : other.id = changed.id <;> simp [Row.entry, hother]
  case embedded =>
    intro stored hstored
    obtain ⟨other, hother, hid⟩ := h.embedded stored hstored
    exact ⟨_, List.mem_map_of_mem hother, (hids other).trans hid⟩
  case embeddedOnce => exact h.embeddedOnce
  case lengths => exact h.lengths
  case filled => exact h.filled

/-- A finding without an embedding may be given one that fits. -/
lemma withEmbedding (h : Coherent t) {id : Int} {embedding : Embedding}
    (hlive : ∃ row ∈ t.findings, row.id = id) (hnew : t.vectors.find? id = none)
    (hlength : embedding.length = t.vectors.dimension) (hfilled : embedding ≠ []) :
    Coherent (t.withEmbedding id embedding) := by
  have hperm := Vector.Table.rows_put t.vectors id embedding
  have hmem : ∀ stored ∈ (t.withEmbedding id embedding).vectors.rows,
      stored = (id, embedding) ∨ stored ∈ t.vectors.rows :=
    fun stored hstored => List.mem_cons.mp (hperm.mem_iff.mp hstored)
  refine { h with embedded := ?_, embeddedOnce := ?_, lengths := ?_, filled := ?_ }
  · intro stored hstored
    rcases hmem stored hstored with rfl | hstored
    · exact hlive
    · exact h.embedded stored hstored
  · exact Vector.Table.nodup_put h.embeddedOnce hnew embedding
  · intro stored hstored
    rcases hmem stored hstored with rfl | hstored
    · exact hlength
    · exact h.lengths stored hstored
  · intro stored hstored
    rcases hmem stored hstored with rfl | hstored
    · exact hfilled
    · exact h.filled stored hstored

/-- The embedding of an id may be removed. -/
lemma withoutEmbedding (h : Coherent t) (id : Int) : Coherent (t.withoutEmbedding id) := by
  have hmem : ∀ stored ∈ (t.withoutEmbedding id).vectors.rows, stored ∈ t.vectors.rows := by
    intro stored hstored
    rw [Tables.withoutEmbedding, Vector.Table.rows_erase] at hstored
    exact List.mem_of_mem_filter hstored
  refine { h with embedded := ?_, embeddedOnce := ?_, lengths := ?_, filled := ?_ }
  · exact fun stored hstored => h.embedded stored (hmem stored hstored)
  · rw [Tables.withoutEmbedding, Vector.Table.rows_erase]
    exact h.embeddedOnce.sublist (List.filter_sublist.map _)
  · exact fun stored hstored => h.lengths stored (hmem stored hstored)
  · exact fun stored hstored => h.filled stored (hmem stored hstored)

end Coherent

end Findings.Store
