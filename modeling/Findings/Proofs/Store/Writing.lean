import Findings.Proofs.Store.Coherence
import Findings.Proofs.Store.Failure

/-!
# What successful writes do

On coherent tables each operation of the store that succeeds is a function of the tables. Adding a
finding gives it the next id, adds its session if it has none, and adds its embedding if it is
given one; everything else that writes is put together from that and from the statements.
-/
namespace Findings.Store

open Findings.Record

namespace Tables

def withFinding (t : Tables) (f : NewFinding) : Tables :=
  (t.withSession f.session).withRow (.ofNew (t.lastId + 1) f)

/-- The tables with a new finding and the embedding that is given with it. -/
def added (t : Tables) (f : NewFinding) : Option Embedding → Tables
  | none => t.withFinding f
  | some embedding => (t.withFinding f).withEmbedding (t.lastId + 1) embedding

/-- The tables with new findings and their embeddings, one after another. -/
def addedAll (t : Tables) (items : List (NewFinding × Embedding)) : Tables :=
  items.foldl (fun t item => t.added item.1 (some item.2)) t

/-- Whether an embedding can be stored in the tables. -/
def Fits (t : Tables) (embedding : Embedding) : Prop :=
  embedding ≠ [] ∧ embedding.length = t.vectors.dimension

@[simp] theorem withFinding_vectors (t : Tables) (f : NewFinding) :
    (t.withFinding f).vectors = t.vectors := withSession_vectors t f.session

@[simp] theorem dimension_added (t : Tables) (f : NewFinding) (embedding : Option Embedding) :
    (t.added f embedding).vectors.dimension = t.vectors.dimension := by
  cases embedding <;> simp [added, withEmbedding]

lemma dimension_addedAll (t : Tables) (new : List (NewFinding × Embedding)) :
    (t.addedAll new).vectors.dimension = t.vectors.dimension := by
  induction new generalizing t with
  | nil => rfl
  | cons item new ih => exact (ih _).trans (dimension_added _ _ _)

end Tables

open Tables

variable {t : Tables}

namespace Coherent

lemma withFinding (h : Coherent t) (hlast : t.lastId < maxId) (f : NewFinding) :
    Coherent (t.withFinding f) :=
  (h.withSession f.session).withRow (by simp [Row.ofNew]) (by simpa using hlast)
    ⟨f, rfl⟩ (exists_withSession t f.session)

/-- No embedding is stored under an id that has not been given yet. -/
lemma find?_of_lastId_lt (h : Coherent t) {id : Int} (hid : t.lastId < id) :
    t.vectors.find? id = none := by
  rw [Vector.Table.find?_eq_none_iff]
  rintro stored hstored rfl
  obtain ⟨row, hrow, hid'⟩ := h.embedded stored hstored
  have := (h.bounded row hrow).2
  omega

/-- No finding has an id that has not been given yet. -/
lemma ne_of_lastId_lt (h : Coherent t) {id : Int} (hid : t.lastId < id) :
    ∀ row ∈ t.findings, row.id ≠ id := by
  rintro row hrow rfl
  have := (h.bounded row hrow).2
  omega

/-- The row of a new finding goes to the end. -/
lemma findings_withFinding (h : Coherent t) (f : NewFinding) :
    (t.withFinding f).findings = t.findings ++ [.ofNew (t.lastId + 1) f] := by
  have hlt : ∀ other ∈ (t.withSession f.session).findings,
      other.id < (Row.ofNew (t.lastId + 1) f).id := by
    intro other hother
    rw [withSession_findings] at hother
    have := (h.bounded other hother).2
    simp only [Row.ofNew]
    omega
  rw [Tables.withFinding, Tables.withRow, placeRow_of_lt hlt, withSession_findings]

lemma findings_added (h : Coherent t) (f : NewFinding) (embedding : Option Embedding) :
    (t.added f embedding).findings = t.findings ++ [.ofNew (t.lastId + 1) f] := by
  cases embedding <;> exact h.findings_withFinding f

/-- Nothing was stored under the id of a new finding, and all else is as before. -/
lemma find?_added (h : Coherent t) (f : NewFinding) (embedding : Option Embedding) (id : Int) :
    (t.added f embedding).vectors.find? id =
      if id = t.lastId + 1 then embedding else t.vectors.find? id := by
  have hnone := h.find?_of_lastId_lt (Int.lt_add_one_iff.mpr (Int.le_refl t.lastId))
  cases embedding with
  | none =>
    have hsame : (t.added f none).vectors = t.vectors := withFinding_vectors t f
    rw [hsame]
    split_ifs with hid
    · rw [hid, hnone]
    · rfl
  | some vector =>
    have hput : (t.added f (some vector)).vectors = t.vectors.put (t.lastId + 1) vector := by
      rw [Tables.added, Tables.withEmbedding, withFinding_vectors]
    rw [hput, Vector.Table.find?_put h.embeddedOnce hnone]

lemma exists_withFinding (h : Coherent t) (f : NewFinding) :
    ∃ row ∈ (t.withFinding f).findings, row.id = t.lastId + 1 :=
  ⟨.ofNew (t.lastId + 1) f, by simp [h.findings_withFinding], rfl⟩

lemma added (h : Coherent t) (hlast : t.lastId < maxId) (f : NewFinding)
    {embedding : Option Embedding} (hfits : ∀ vector ∈ embedding, t.Fits vector) :
    Coherent (t.added f embedding) := by
  cases embedding with
  | none => exact h.withFinding hlast f
  | some vector =>
    obtain ⟨hfilled, hlength⟩ := hfits vector rfl
    refine (h.withFinding hlast f).withEmbedding (h.exists_withFinding f) ?_ ?_ hfilled
    · rw [withFinding_vectors]
      exact h.find?_of_lastId_lt (by omega)
    · rw [withFinding_vectors]
      exact hlength

end Coherent

/-- The row of a new finding finds no other row of its id, and its session. -/
lemma insertRow_withSession (h : Coherent t) (f : NewFinding) :
    insertRow (.ofNew (t.lastId + 1) f) (t.withSession f.session).store =
      (.ok (), (t.withFinding f).store) := by
  refine insertRow_store (fun other hother => ?_) (exists_withSession t f.session)
  rw [withSession_findings] at hother
  exact h.ne_of_lastId_lt (by simp only [Row.ofNew]; omega) other hother

theorem addFinding_store (h : Coherent t) {f : NewFinding} {embedding : Option Embedding}
    {id : Int} {s : Store} (hok : addFinding f embedding t.store = (.ok id, s)) :
    t.lastId < maxId ∧ (∀ vector ∈ embedding, t.Fits vector) ∧ id = t.lastId + 1 ∧
      s = (t.added f embedding).store := by
  have hinsert := insertRow_withSession h f
  simp only [addFinding, bind_apply, addSession_store, nextId_store, withSession_lastId] at hok
  by_cases hfull : maxId ≤ t.lastId
  · simp [hfull] at hok
  · simp only [if_neg hfull, hinsert] at hok
    cases embedding with
    | none =>
      simp only [pure_apply, outcome_eq_iff, Except.ok.injEq] at hok
      exact ⟨by omega, by simp, hok.1.symm, hok.2.symm⟩
    | some vector =>
      simp only [bind_apply, insertEmbedding_store, withFinding_vectors] at hok
      cases hput : t.vectors.insert (t.lastId + 1) vector with
      | error fault => simp [hput] at hok
      | ok vectors =>
        obtain ⟨hfilled, hlength, -, rfl⟩ := Vector.Table.insert_eq_ok_iff.mp hput
        simp only [hput, pure_apply, outcome_eq_iff, Except.ok.injEq] at hok
        refine ⟨by omega, by simpa [Fits] using ⟨hfilled, hlength⟩, hok.1.symm, hok.2.symm.trans ?_⟩
        simp [Tables.added, Tables.withEmbedding]

theorem addAll_store (h : Coherent t) {items : List (NewFinding × Embedding)} {ids : List Int}
    {s : Store}
    (hok : items.mapM (fun item => addFinding item.1 (some item.2)) t.store = (.ok ids, s)) :
    s = (t.addedAll items).store ∧ Coherent (t.addedAll items) ∧
      (t.addedAll items).vectors.dimension = t.vectors.dimension := by
  induction items generalizing t ids with
  | nil =>
    simp only [List.mapM_nil, pure_apply, outcome_eq_iff] at hok
    exact ⟨hok.2.symm, h, rfl⟩
  | cons item items ih =>
    rw [List.mapM_cons] at hok
    obtain ⟨id, u, hadd, hrest⟩ := bind_eq_ok_iff.mp hok
    obtain ⟨later, v, hall, hpure⟩ := bind_eq_ok_iff.mp hrest
    obtain rfl : v = s := congrArg Prod.snd hpure
    obtain ⟨hlast, hfits, -, rfl⟩ := addFinding_store h hadd
    obtain ⟨hs, hcoherent, hdimension⟩ := ih (h.added hlast item.1 hfits) hall
    exact ⟨hs, hcoherent, hdimension.trans (dimension_added _ _ _)⟩

theorem insert_store (h : Coherent t) {handle : Handle} {f : NewFinding}
    {embedding : Option Embedding} {id : Int} {s : Store}
    (hok : insert handle f embedding t.store = (.ok id, s)) :
    t.lastId < maxId ∧ (∀ vector ∈ embedding, t.Fits vector) ∧ id = t.lastId + 1 ∧
      s = (t.added f embedding).store := by
  obtain ⟨_, -, hok⟩ := (readOnly_validate handle f embedding).of_bind_eq_ok hok
  simp only [bind_apply, ensureSchema_store] at hok
  exact addFinding_store h (transaction_eq_ok_iff.mp hok)

/-- New findings in place of others are added once the others are deleted. -/
lemma addAll_of_replaceSession {handle : Handle} {session : String}
    {items : List (NewFinding × Embedding)} {ids : List Int} {s : Store}
    (hok : replaceSession handle session items t.store = (.ok ids, s)) :
    items.mapM (fun item => addFinding item.1 (some item.2))
      (t.without (·.session == session)).store = (.ok ids, s) := by
  have hread : ReadOnly (items.forM (validateFor handle session)) :=
    .forM (readOnly_validateFor handle session)
  obtain ⟨_, -, hok⟩ := hread.of_bind_eq_ok hok
  simp only [bind_apply, ensureSchema_store] at hok
  have hok := transaction_eq_ok_iff.mp hok
  simpa only [bind_apply, discard_apply, deleteRows_store] using hok

theorem replaceSession_store (h : Coherent t) {handle : Handle} {session : String}
    {items : List (NewFinding × Embedding)} {ids : List Int} {s : Store}
    (hok : replaceSession handle session items t.store = (.ok ids, s)) :
    s = ((t.without (·.session == session)).addedAll items).store ∧
      Coherent ((t.without (·.session == session)).addedAll items) ∧
      ((t.without (·.session == session)).addedAll items).vectors.dimension =
        t.vectors.dimension := by
  have hall := addAll_store (h.without (·.session == session)) (addAll_of_replaceSession hok)
  exact ⟨hall.1, hall.2.1, hall.2.2.trans (dimension_eraseAll _ _)⟩

theorem setEmbedding_store {handle : Handle} {id : Int} {embedding : Embedding}
    {s : Store} (hok : setEmbedding handle id embedding t.store = (.ok (), s)) :
    (∃ row ∈ t.findings, row.id = id) ∧ t.Fits embedding ∧
      s = ((t.withoutEmbedding id).withEmbedding id embedding).store := by
  obtain ⟨_, -, hok⟩ := (readOnly_checkDimension handle embedding).of_bind_eq_ok hok
  simp only [bind_apply, ensureSchema_store] at hok
  have hok := transaction_eq_ok_iff.mp hok
  by_cases hlive : ∃ row ∈ t.findings, row.id = id
  · have hany : t.findings.any (·.id == id) = true := by simpa using hlive
    simp only [bind_apply, get_apply, require_findings, pure_apply, hany, if_true, discard_apply,
      deleteEmbedding_store, insertEmbedding_store] at hok
    cases hput : (t.withoutEmbedding id).vectors.insert id embedding with
    | error fault => simp [hput] at hok
    | ok vectors =>
      obtain ⟨hfilled, hlength, -, rfl⟩ := Vector.Table.insert_eq_ok_iff.mp hput
      simp only [hput, outcome_eq_iff] at hok
      exact ⟨hlive, ⟨hfilled, hlength⟩, hok.2.symm⟩
  · have hany : t.findings.any (·.id == id) = false := by simpa using hlive
    simp only [bind_apply, get_apply, require_findings, pure_apply, hany, Bool.false_eq_true, if_false,
      throw_apply, outcome_eq_iff] at hok
    cases hok.1

lemma without_congr {chosen other : Row → Bool} (h : ∀ row ∈ t.findings, chosen row = other row) :
    t.without chosen = t.without other := by
  have hrest : ∀ row ∈ t.findings, (!chosen row) = !other row := fun row hrow => by rw [h row hrow]
  simp only [Tables.without, List.filter_congr h, List.filter_congr hrest]

/-- Deleting a session that does not exist deletes nothing, because it has no findings. -/
theorem deleteSessionRow_store (h : Coherent t) (id : String) :
    deleteSessionRow id t.store =
      (.ok (t.sessions.countP (·.id == id)), (t.withoutSession id).store) := by
  simp only [deleteSessionRow, transaction, bind_apply, get_apply, require_sessions, pure_apply,
    show t.store.findings.isSome = true from rfl, if_true, step_ite, discard_apply,
    deleteRows_store]
  by_cases hany : t.sessions.any (·.id == id) = true
  · simp [hany, Tables.store, Tables.withoutSession]
  · have hnone : ∀ row ∈ t.findings, (row.session == id) = false := by
      intro row hrow
      obtain ⟨session, hsession, hid⟩ := h.owned row hrow
      have hother : session.id ≠ id := by
        intro hid
        exact hany (List.any_eq_true.mpr ⟨session, hsession, by simpa using hid⟩)
      simpa [← hid] using hother
    simp [hany, Tables.store, Tables.withoutSession, without_congr hnone]

lemma allow_kindCheck {value : String} {s u : Store}
    (hok : allow kindCheck value s = (.ok (), u)) : ∃ k : Kind, k.name = value := by
  have hmem : value ∈ kindCheck.1 := by
    by_contra hnot
    simp [allow, hnot] at hok
  simp only [kindCheck, List.mem_cons, List.not_mem_nil, or_false] at hmem
  rcases hmem with rfl | rfl | rfl | rfl
  · exact ⟨.praise, rfl⟩
  · exact ⟨.blocker, rfl⟩
  · exact ⟨.suggestion, rfl⟩
  · exact ⟨.nitpick, rfl⟩

lemma checkTexts_eq_ok {id : Int} {kind content : Option String} {name text : String} {u : Store}
    (hlive : ∃ row ∈ t.findings, row.id = id)
    (hok : checkTexts id kind content t.store = (.ok (name, text), u)) :
    (∃ k : Kind, k.name = name) ∧ kind = some name ∧ content = some text := by
  have hany : t.findings.any (·.id == id) = true := by simpa using hlive
  simp only [checkTexts, bind_apply, get_apply, require_findings, require_lexical, pure_apply, discard_apply,
    hany, if_true] at hok
  cases kind with
  | none => simp [present] at hok
  | some name' =>
    cases content with
    | none => simp [present] at hok
    | some text' =>
      simp only [present, pure_apply] at hok
      rcases hallow : allow kindCheck name' t.store with ⟨_ | _, v⟩
      · simp [hallow] at hok
      · simp only [hallow, outcome_eq_iff, Except.ok.injEq, Prod.mk.injEq] at hok
        obtain ⟨⟨rfl, rfl⟩, -⟩ := hok
        exact ⟨allow_kindCheck hallow, rfl, rfl⟩

/-- A change of texts that succeeds gives a finding the name of a kind, if there is the finding. -/
theorem updateTexts_store {id : Int} {content context kind : Option String} {count : Nat}
    {s : Store} (hok : updateTexts id content context kind t.store = (.ok count, s)) :
    s = t.store ∨ ∃ row ∈ t.findings, ∃ (k : Kind) (text : String),
      s = (t.withChanged { row with content := text, context, kind := k.name }).store := by
  obtain ⟨⟨name, text⟩, hcheck, hupdate⟩ := (readOnly_checkTexts id kind content).of_bind_eq_ok hok
  have hupdate : updateRow id (fun row => { row with content := text, context, kind := name })
      t.store = (.ok count, s) := hupdate
  cases hrow : t.findings.find? (·.id == id) with
  | none =>
    rw [updateRow_store_none hrow] at hupdate
    exact .inl (congrArg Prod.snd hupdate).symm
  | some row =>
    obtain rfl : row.id = id := by simpa using List.find?_some hrow
    have hmem := List.mem_of_find?_eq_some hrow
    obtain ⟨⟨k, rfl⟩, -, -⟩ := checkTexts_eq_ok ⟨row, hmem, rfl⟩ hcheck
    rw [updateRow_store hrow (by rfl)] at hupdate
    exact .inr ⟨row, hmem, k, text, (congrArg Prod.snd hupdate).symm⟩

namespace Coherent

/-- A finding may get other texts and another kind. -/
lemma withTexts (h : Coherent t) {row : Row} (hrow : row ∈ t.findings) (text : String)
    (context : Option String) (k : Kind) :
    Coherent (t.withChanged { row with content := text, context, kind := k.name }) := by
  obtain ⟨f, hf⟩ := h.written row hrow
  refine h.withChanged hrow rfl rfl ⟨{ f with content := text, context, kind := k }, ?_⟩
  rw [hf]
  rfl

end Coherent

end Findings.Store
