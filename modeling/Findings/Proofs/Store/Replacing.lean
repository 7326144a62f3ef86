import Findings.Proofs.Store.Ids
import Findings.Proofs.Store.ReadBack
import Findings.Proofs.Store.Reading

/-!
# Replacing is deleting and inserting

The findings of a session are replaced in one transaction, and what is wrong with the new ones is
found before it begins. If it succeeds, deleting the findings of the session and inserting the new
ones one at a time gives the same store and the same ids: each insertion checks its own finding only,
but none of them has anything left to refuse.
-/
namespace Findings.Store

open Findings.Record
open Operation
open Tables

variable {t : Tables} {handle : Handle} {session : String} {items : List (NewFinding × Embedding)}
  {ids : List Int}

/-- New findings that may be stored for a session: each of them names the session, which is not
blank, has a content that is not blank, and comes with an embedding of the dimension. -/
def Storable (dimension : Nat) (session : String) (items : List (NewFinding × Embedding)) : Prop :=
  ∀ item ∈ items, item.1.session = session ∧ Text.isBlankText item.1.session = false ∧
    Text.isBlankText item.1.content = false ∧ item.2.length = dimension

lemma storable_iff {dimension : Nat} :
    items.findSome? (refusalFor dimension session) = none ↔ Storable dimension session items := by
  rw [List.findSome?_eq_none_iff]
  refine forall₂_congr fun item _ => ?_
  simp only [refusalFor, refusal, Option.bind_some]
  split_ifs <;> simp_all

/-- Findings that may be stored for a session may be stored one at a time. -/
lemma Storable.refusal_eq_none {dimension : Nat} (h : Storable dimension session items)
    {item : NewFinding × Embedding} (hitem : item ∈ items) :
    refusal dimension item.1 (some item.2) = none := by
  obtain ⟨-, hsession, hcontent, hlength⟩ := h item hitem
  simp [refusal, hsession, hcontent, hlength]

/-! ### One after another -/

/-- What adding findings does to tables: their rows go to the end under the next ids, each with its
embedding, and all other embeddings stay. -/
structure Appended (t : Tables) (items : List (NewFinding × Embedding)) (ids : List Int)
    (u : Tables) : Prop where
  given : ids = idsAfter t.lastId items.length
  room : t.lastId + items.length ≤ maxId
  findings : u.findings = t.findings ++ (ids.zip items).map fun pair => .ofNew pair.1 pair.2.1
  embedded : ∀ pair ∈ ids.zip items, u.vectors.find? pair.1 = some pair.2.2
  kept : ∀ id ≤ t.lastId, u.vectors.find? id = t.vectors.find? id

lemma appended_addAll (h : Coherent t) {s : Store}
    (hok : items.mapM (fun item => addFinding item.1 (some item.2)) t.store = (.ok ids, s)) :
    Appended t items ids (t.addedAll items) := by
  induction items generalizing t ids with
  | nil =>
    simp only [List.mapM_nil, pure_apply, outcome_eq_iff, Except.ok.injEq] at hok
    obtain ⟨rfl, -⟩ := hok
    exact ⟨rfl, by simpa using h.lastId_range.2, by simp [addedAll], by simp, fun _ _ => rfl⟩
  | cons item items ih =>
    rw [List.mapM_cons] at hok
    obtain ⟨id, v, hadd, hrest⟩ := bind_eq_ok_iff.mp hok
    obtain ⟨later, w, hall, hpure⟩ := bind_eq_ok_iff.mp hrest
    simp only [pure_apply, outcome_eq_iff, Except.ok.injEq] at hpure
    obtain ⟨rfl, rfl⟩ := hpure
    obtain ⟨hlast, hfits, rfl, rfl⟩ := addFinding_store h hadd
    have hlater := ih (h.added hlast item.1 hfits) hall
    have hlastId := lastId_added t item.1 (some item.2)
    have hall : t.addedAll (item :: items) = (t.added item.1 (some item.2)).addedAll items := rfl
    rw [hall]
    constructor
    case given => rw [hlater.given, hlastId, List.length_cons, idsAfter_succ]
    case room =>
      have := hlater.room
      rw [List.length_cons]
      omega
    case findings =>
      rw [hlater.findings, h.findings_added, List.zip_cons_cons, List.map_cons, List.append_assoc,
        List.singleton_append]
    case embedded =>
      intro pair hpair
      rcases List.mem_cons.mp hpair with rfl | hpair
      · rw [hlater.kept _ (Int.le_of_eq hlastId.symm), h.find?_added, if_pos rfl]
      · exact hlater.embedded pair hpair
    case kept =>
      intro id hid
      rw [hlater.kept id (by omega), h.find?_added, if_neg (by omega)]

/-- Findings that are added in one transaction may as well be inserted one at a time. -/
lemma insertAll_of_addAll (h : Coherent t)
    (hfine : ∀ item ∈ items, refusal handle.dimension item.1 (some item.2) = none) {s : Store}
    (hok : items.mapM (fun item => addFinding item.1 (some item.2)) t.store = (.ok ids, s)) :
    items.mapM (fun item => insert handle item.1 (some item.2)) t.store = (.ok ids, s) := by
  induction items generalizing t ids with
  | nil => exact hok
  | cons item items ih =>
    rw [List.mapM_cons] at hok ⊢
    obtain ⟨id, v, hadd, hrest⟩ := bind_eq_ok_iff.mp hok
    obtain ⟨later, w, hall, hpure⟩ := bind_eq_ok_iff.mp hrest
    obtain rfl : w = s := congrArg Prod.snd hpure
    have hinsert : insert handle item.1 (some item.2) t.store = (.ok id, v) := by
      rw [insert, validate_eq, hfine item List.mem_cons_self]
      simp only [bind_apply, verdict_none, ensureSchema_store]
      exact transaction_eq_ok_iff.mpr hadd
    obtain ⟨hlast, hfits, -, rfl⟩ := addFinding_store h hadd
    have hlater := ih (h.added hlast item.1 hfits)
      (fun other hother => hfine other (List.mem_cons_of_mem _ hother)) hall
    exact bind_eq_ok_iff.mpr ⟨id, _, hinsert, bind_eq_ok_iff.mpr ⟨later, w, hlater, hpure⟩⟩

/-! ### Success -/

/-- If there is any embedding to be added, those of the store are of the dimension of the handle,
which is not zero. -/
def SuitsHandle (handle : Handle) (count : Nat) (s : Store) : Prop :=
  0 < count → 0 < handle.dimension ∧ ∀ table ∈ s.vectors, table.dimension = handle.dimension

/-- A store takes a number of new findings through a handle: it has the schema and enough ids, and
the embeddings of the handle suit it. -/
structure Takes (handle : Handle) (count : Nat) (s : Store) : Prop where
  schema : s.hasSchema = true
  room : s.lastId + count ≤ maxId
  suits : SuitsHandle handle count s

lemma SuitsHandle.opened {count : Nat} (h : SuitsHandle handle count t.store) (hcount : 0 < count) :
    Opened handle t :=
  ⟨(h hcount).2 t.vectors rfl, (h hcount).1⟩

/-- Findings with something wrong replace none. -/
lemma storable_of_replaceSession {s u : Store}
    (hok : replaceSession handle session items s = (.ok ids, u)) :
    Storable handle.dimension session items := by
  refine storable_iff.mp (Option.eq_none_iff_forall_ne_some.mpr fun e he => ?_)
  rw [replaceSession_refused he] at hok
  simp at hok

/-- A table that has taken the first embedding has the dimension of the handle. -/
lemma takes_of_replaceSession (h : Coherent t) {u : Store}
    (hok : replaceSession handle session items t.store = (.ok ids, u)) :
    Takes handle items.length t.store where
  schema := rfl
  room := (appended_addAll (h.without _) (addAll_of_replaceSession hok)).room
  suits := by
    intro hcount
    obtain ⟨item, rest, rfl⟩ := List.exists_cons_of_ne_nil (List.ne_nil_of_length_pos hcount)
    have hall := addAll_of_replaceSession hok
    rw [List.mapM_cons] at hall
    obtain ⟨id, v, hadd, -⟩ := bind_eq_ok_iff.mp hall
    obtain ⟨-, hfits, -⟩ := addFinding_store (h.without _) hadd
    obtain ⟨hfilled, hlength⟩ := hfits item.2 rfl
    have hitem := (storable_of_replaceSession hok item List.mem_cons_self).2.2.2
    rw [without, dimension_eraseAll, hitem] at hlength
    refine ⟨hitem ▸ List.length_pos_of_ne_nil hfilled, ?_⟩
    rintro table ⟨⟩
    exact hlength.symm

/-- Findings that may be stored in a store that takes them replace the old ones. -/
lemma exists_replaceSession (h : Coherent t) (hfine : Storable handle.dimension session items)
    (htakes : Takes handle items.length t.store) :
    ∃ ids u, replaceSession handle session items t.store = (.ok ids, u) := by
  cases items with
  | nil => exact ⟨[], (t.without (·.session == session)).store, rfl⟩
  | cons item rest =>
    have hopen := htakes.suits.opened (Nat.zero_lt_succ rest.length)
    have hroom : ¬ maxId < t.lastId + (item :: rest).length := Int.not_lt.mpr htakes.room
    have heq := replaceSession_eq h hopen session (item :: rest)
    rw [storable_iff.mpr hfine] at heq
    simp only [if_neg hroom] at heq
    exact ⟨_, _, heq⟩

/-! ### What replacing leaves -/

def embeddingOf (s : Store) (id : Int) : Option Embedding := s.vectors.bind (·.find? id)

def rowsFor (s : Store) (session : String) : List Row :=
  (s.findings.getD []).filter (·.session == session)

/-- Deletes the findings of a session and inserts new ones one at a time. -/
def deleteThenInsert (handle : Handle) (session : String) (items : List (NewFinding × Embedding)) :
    Action (List Int) := do
  discard <| deleteSession handle session
  items.mapM fun item => insert handle item.1 (some item.2)

/-- What has become of a store whose findings of a session were replaced. -/
structure Replaced (handle : Handle) (session : String) (items : List (NewFinding × Embedding))
    (s : Store) (ids : List Int) (u : Store) : Prop where
  /-- Deleting the findings of the session and inserting each new one gives the same. -/
  oneByOne : deleteThenInsert handle session items s = (.ok ids, u)
  listed : (listSession handle session u).1 =
    .ok ((ids.zip items).map fun pair => stored pair.1 pair.2.1)
  /-- Timestamps that a text can spell are listed as they were given. -/
  listedAsGiven : (∀ item ∈ items, item.1.IsRepresentable) → (listSession handle session u).1 =
    .ok ((ids.zip items).map fun pair => { pair.2.1 with id := pair.1 })
  counted : ids.length = items.length
  embedded : ∀ pair ∈ ids.zip items, embeddingOf u pair.1 = some pair.2.2
  otherRows : ∀ other, other ≠ session → rowsFor u other = rowsFor s other
  otherEmbeddings : ∀ other, other ≠ session → ∀ row ∈ rowsFor s other,
    embeddingOf u row.id = embeddingOf s row.id

variable {u : Tables}

/-- The session has the rows of the new findings alone, and no other session has any of them. -/
lemma Appended.rowsFor_eq (hfine : Storable handle.dimension session items)
    (happended : Appended (t.without (·.session == session)) items ids u) (other : String) :
    rowsFor u.store other =
      if other = session then (ids.zip items).map fun pair => .ofNew pair.1 pair.2.1
      else rowsFor t.store other := by
  have hnew : ∀ row ∈ (ids.zip items).map (fun pair => Row.ofNew pair.1 pair.2.1),
      row.session = session := by
    intro row hrow
    obtain ⟨pair, hpair, rfl⟩ := List.mem_map.mp hrow
    exact (hfine pair.2 (List.of_mem_zip hpair).2).1
  have hrows : rowsFor u.store other =
      ((t.without (·.session == session)).findings.filter (·.session == other)) ++
        ((ids.zip items).map fun pair => Row.ofNew pair.1 pair.2.1).filter (·.session == other) := by
    rw [← List.filter_append, ← happended.findings]
    rfl
  rw [hrows, without, List.filter_filter]
  split_ifs with hother
  · subst hother
    have hnone : t.findings.filter (fun row => row.session == other && !(row.session == other)) =
        [] := by simp
    rw [hnone, List.nil_append, List.filter_eq_self.mpr]
    exact fun row hrow => beq_iff_eq.mpr (hnew row hrow)
  · have hnone : ((ids.zip items).map fun pair => Row.ofNew pair.1 pair.2.1).filter
        (·.session == other) = [] := by
      refine List.filter_eq_nil_iff.mpr fun row hrow => ?_
      rw [hnew row hrow, beq_iff_eq]
      exact fun heq => hother heq.symm
    rw [hnone, List.append_nil]
    refine List.filter_congr fun row _ => ?_
    by_cases hrow : row.session = other
    · simp [hrow, hother]
    · simp [hrow]

/-- The session is listed with the new findings under their ids. -/
lemma Appended.listSession_eq (h : Coherent u) (hfine : Storable handle.dimension session items)
    (happended : Appended (t.without (·.session == session)) items ids u) :
    (listSession handle session u.store).1 =
      .ok ((ids.zip items).map fun pair => stored pair.1 pair.2.1) := by
  have hread : (fun pair : Int × NewFinding × Embedding =>
      (Row.ofNew pair.1 pair.2.1).finding?) = some ∘ fun pair => stored pair.1 pair.2.1 :=
    funext fun pair => finding?_ofNew pair.1 pair.2.1
  have hrows : u.findings.filter (·.session == session) =
      (ids.zip items).map fun pair => .ofNew pair.1 pair.2.1 :=
    (happended.rowsFor_eq hfine session).trans (if_pos rfl)
  rw [h.listSession_store, hrows, List.filterMap_map, Function.comp_def, hread,
    List.filterMap_eq_map]

lemma stored_eq {f : NewFinding} (h : f.IsRepresentable) (id : Int) :
    stored id f = { f with id } := by
  have hsettled : stored id f = { f.settled with id } := rfl
  rw [hsettled, NewFinding.settled_eq h]

/-- What the success of a replacement says of the tables. -/
theorem replaced_of_ok (h : Coherent t) {s : Store}
    (hok : replaceSession handle session items t.store = (.ok ids, s)) :
    Replaced handle session items t.store ids s := by
  have hfine := storable_of_replaceSession hok
  have hall := addAll_of_replaceSession hok
  have happended := appended_addAll (h.without _) hall
  obtain ⟨rfl, hcoherent, -⟩ := replaceSession_store h hok
  have hlisted := happended.listSession_eq hcoherent hfine
  constructor
  case oneByOne =>
    simp only [deleteThenInsert, bind_apply, discard_apply, deleteSession_store]
    exact insertAll_of_addAll (h.without _) (fun item hitem => hfine.refusal_eq_none hitem) hall
  case listed => exact hlisted
  case listedAsGiven =>
    intro htimes
    rw [hlisted]
    refine congrArg Except.ok (List.map_congr_left fun pair hpair => ?_)
    exact stored_eq (htimes pair.2 (List.of_mem_zip hpair).2) pair.1
  case counted => rw [happended.given, idsAfter, List.length_map, List.length_range]
  case embedded => exact happended.embedded
  case otherRows =>
    intro other hother
    rw [happended.rowsFor_eq hfine, if_neg hother]
  case otherEmbeddings =>
    intro other hother row hrow
    obtain ⟨hrow, hsession⟩ := List.mem_filter.mp hrow
    have hkept : (row.session == session) = false := by
      rw [beq_iff_eq.mp hsession, beq_eq_false_iff_ne]
      exact hother
    refine (happended.kept row.id (h.bounded row hrow).2).trans ?_
    rw [h.find?_without hrow, hkept]
    rfl

/-! ### Every outcome -/

/-- Without a schema findings that may be stored are not. -/
lemma replaceSession_empty (hfine : Storable handle.dimension session items) :
    replaceSession handle session items {} = (.error (.schemaMissing handle.path), {}) := by
  rw [replaceSession, forM_validateFor_eq, storable_iff.mpr hfine]
  rfl

/-- Findings are replaced in a store with a schema only. -/
lemma tables_of_replaceSession {s u : Store} (hs : Reachable s)
    (hok : replaceSession handle session items s = (.ok ids, u)) :
    ∃ t : Tables, s = t.store ∧ Coherent t := by
  obtain rfl | ⟨dimension, t, rfl, ht, -⟩ := reachable_cases hs
  · rw [replaceSession_empty (storable_of_replaceSession hok)] at hok
    simp at hok
  · exact ⟨t, rfl, ht⟩

/-- Without enough ids they are not stored either, and the old ones stay. -/
lemma replaceSession_full (h : Coherent t) (hfine : Storable handle.dimension session items)
    (hsuits : SuitsHandle handle items.length t.store) (hshort : maxId < t.lastId + items.length) :
    replaceSession handle session items t.store = (.error (.table .full), t.store) := by
  have hsome : 0 < items.length := by
    have := h.lastId_range.2
    omega
  rw [replaceSession_eq h (hsuits.opened hsome), storable_iff.mpr hfine]
  exact if_pos hshort

/-- What replacing the findings of a session does in a store, whatever it is given. Of the ids that
were given before, `earlier` are those whose findings may have gone. -/
structure ReplacesExactly (handle : Handle) (session : String)
    (items : List (NewFinding × Embedding)) (s : Store) (earlier : List Int) : Prop where
  /-- It succeeds if nothing is wrong with the new findings and the store takes them. -/
  succeeds : (∃ ids u, replaceSession handle session items s = (.ok ids, u)) ↔
    Storable handle.dimension session items ∧ Takes handle items.length s
  /-- The first finding with something wrong decides. -/
  refused : ¬ Storable handle.dimension session items →
    ∃ e, items.findSome? (refusalFor handle.dimension session) = some e ∧
      replaceSession handle session items s = (.error e, s)
  unmade : Storable handle.dimension session items → s.hasSchema = false →
    replaceSession handle session items s = (.error (.schemaMissing handle.path), s)
  full : Storable handle.dimension session items → s.hasSchema = true →
    SuitsHandle handle items.length s → maxId < s.lastId + items.length →
      replaceSession handle session items s = (.error (.table .full), s)
  replaced : ∀ ids u, replaceSession handle session items s = (.ok ids, u) →
    Replaced handle session items s ids u
  /-- The new ids rise, and they are above all that were given before. -/
  later : ∀ ids u, replaceSession handle session items s = (.ok ids, u) →
    ids.Pairwise (· < ·) ∧
      ∀ id ∈ ids, (∀ old ∈ earlier, old < id) ∧ ∀ old, IsLive s old → old < id

/-- In every store that operations have made, replacing the findings of a session succeeds exactly
if nothing is wrong with the new findings and the store takes them. It then does what deleting the
old findings and inserting the new ones one at a time does. -/
theorem replacing_is_deleting_and_inserting (operations : List Operation) (handle : Handle)
    (session : String) (items : List (NewFinding × Embedding)) :
    ReplacesExactly handle session items (run operations {}) (idsGiven operations {}) := by
  have hreachable : Reachable (run operations {}) := ⟨operations, rfl⟩
  have hearlier := (ages_run (s := {}) ⟨[], rfl⟩ operations).above
  have hages := ages_perform hreachable (.replaceSession handle session items)
  have hlive : ∀ id, IsLive (run operations {}) id → id ≤ (run operations {}).lastId :=
    fun _ => le_lastId hreachable
  generalize run operations {} = s at *
  constructor
  case succeeds =>
    constructor
    · rintro ⟨ids, u, hok⟩
      obtain ⟨t, rfl, ht⟩ := tables_of_replaceSession hreachable hok
      exact ⟨storable_of_replaceSession hok, takes_of_replaceSession ht hok⟩
    · rintro ⟨hfine, htakes⟩
      obtain rfl | ⟨dimension, t, rfl, ht, -⟩ := reachable_cases hreachable
      · exact absurd htakes.schema Bool.false_ne_true
      · exact exists_replaceSession ht hfine htakes
  case refused =>
    intro hwrong
    obtain ⟨e, he⟩ := Option.ne_none_iff_exists'.mp (storable_iff.not.mpr hwrong)
    exact ⟨e, he, replaceSession_refused he s⟩
  case unmade =>
    intro hfine hschema
    obtain rfl | ⟨dimension, t, rfl, ht, -⟩ := reachable_cases hreachable
    · exact replaceSession_empty hfine
    · cases hschema
  case full =>
    intro hfine hschema hsuits hshort
    obtain rfl | ⟨dimension, t, rfl, ht, -⟩ := reachable_cases hreachable
    · cases hschema
    · exact replaceSession_full ht hfine hsuits hshort
  case replaced =>
    intro ids u hok
    obtain ⟨t, rfl, ht⟩ := tables_of_replaceSession hreachable hok
    exact replaced_of_ok ht hok
  case later =>
    intro ids u hok
    rw [newIds, hok] at hages
    refine ⟨hages.rising, fun id hid => ⟨fun old hold => ?_, fun old hold => ?_⟩⟩
    · have := (hearlier old hold).2
      have := (hages.above id hid).1
      omega
    · have := hlive old hold
      have := (hages.above id hid).1
      omega

/-! ### Nothing wrong with the findings -/

/-- A finding that may be stored, with its embedding. -/
def storableItem : NewFinding × Embedding :=
  ({ session := "s", kind := .praise, content := "a", severity := .low }, [Number.Binary.zero])

/-- Operations can give any number of ids. -/
lemma exists_run_lastId (count : Nat) (hcount : count ≤ maxId) :
    ∃ (operations : List Operation) (t : Tables), run operations {} = t.store ∧ Coherent t ∧
      t.vectors.dimension = 1 ∧ t.lastId = count := by
  induction count with
  | zero => exact ⟨[.applySchema ⟨"findings.db", 1⟩], fresh 1, rfl, coherent_fresh 1, rfl, rfl⟩
  | succ count ih =>
    obtain ⟨operations, t, hrun, ht, hdimension, hlast⟩ := ih (by omega)
    have hopen : Opened ⟨"findings.db", 1⟩ t := ⟨hdimension, Nat.one_pos⟩
    have hinsert := insert_eq ht hopen storableItem.1 none
    have hfine : refusal 1 storableItem.1 none = none := by decide
    simp only [hfine, if_neg (show ¬ maxId ≤ t.lastId by omega)] at hinsert
    refine ⟨operations ++ [.insert ⟨"findings.db", 1⟩ storableItem.1 none],
      t.added storableItem.1 none, ?_, ht.added (by omega) _ (by simp), ?_, ?_⟩
    · rw [run, List.foldl_append]
      change perform (run operations {}) _ = _
      rw [hrun, perform, action, discard_apply, hinsert]
    · rw [dimension_added, hdimension]
    · rw [lastId_added, hlast]
      rfl

/-- Nothing is wrong with the finding, and yet it is not stored: without a schema, with a table of
embeddings of another dimension than the handle, and when all ids have been given. -/
theorem replaceSession_fails_storable :
    Storable 1 "s" [storableItem] ∧
      replaceSession ⟨"findings.db", 1⟩ "s" [storableItem] (run [] {}) =
        (.error (.schemaMissing "findings.db"), {}) ∧
      (replaceSession ⟨"findings.db", 1⟩ "s" [storableItem]
        (run [.applySchema ⟨"findings.db", 2⟩] {})).1 = .error (.table (.storedLength 2 1)) ∧
      ∃ operations, (run operations {}).hasSchema = true ∧
        replaceSession ⟨"findings.db", 1⟩ "s" [storableItem] (run operations {}) =
          (.error (.table .full), run operations {}) := by
  have hfine : Storable 1 "s" [storableItem] := storable_iff.mp (by decide)
  obtain ⟨operations, t, hrun, ht, hdimension, hlast⟩ := exists_run_lastId maxId.toNat (by decide)
  have hlast : t.lastId = maxId := hlast.trans (by decide)
  refine ⟨hfine, replaceSession_empty hfine, by decide, operations, ?_, ?_⟩
  · rw [hrun]
    rfl
  · rw [hrun]
    refine replaceSession_full ht hfine (fun _ => ⟨Nat.one_pos, ?_⟩) ?_
    · rintro table ⟨⟩
      exact hdimension
    · rw [hlast]
      decide

end Findings.Store
