import Findings.Proofs.Store.Outcomes
import Findings.Proofs.Store.ReadBack
import Findings.Proofs.Store.Reading
import Findings.Proofs.Store.Runs

/-!
# Sessions do not interfere

A call that writes is about one session. What a session has in the tables, its findings in order
with their embeddings and without their ids, and its row, is changed by the calls about it alone,
and in a way that depends on nothing else. The ids do depend on the other sessions, so two runs are
compared through what the session has in each of them.
-/
namespace Findings.Store

open Findings.Record
open Tables

/-- A call that writes, about one session. -/
inductive Call where
  | upsertSession (s : Session)
  | insert (f : NewFinding) (embedding : Option Embedding)
  | replaceSession (session : String) (new : List (NewFinding × Embedding))
  | deleteSession (session : String)

/-- What a session has: the rows of its findings without their ids, each with its embedding, and
its own row. -/
structure Portion where
  rows : List (Row × Option Embedding)
  metadata : Option SessionRow

namespace Portion

/-- The portion with a finding more. -/
def add (p : Portion) (f : NewFinding) (embedding : Option Embedding) : Portion :=
  ⟨p.rows ++ [(.ofNew 0 f, embedding)], p.metadata.or (some ⟨f.session, none, none, none⟩)⟩

def addAll (p : Portion) (new : List (NewFinding × Embedding)) : Portion :=
  new.foldl (fun p item => p.add item.1 (some item.2)) p

end Portion

/-- A row of findings without its id. -/
def Row.anonymous (row : Row) : Row := { row with id := 0 }

/-- What a session has in tables. -/
def Tables.portion (t : Tables) (session : String) : Portion where
  rows := (t.findings.filter (·.session == session)).map fun row =>
    (row.anonymous, t.vectors.find? row.id)
  metadata := t.sessions.find? (·.id == session)

namespace Call

def session : Call → String
  | upsertSession s => s.id
  | insert f _ => f.session
  | replaceSession session _ => session
  | deleteSession session => session

def action (handle : Handle) : Call → Action Nat
  | upsertSession s => (fun _ => 0) <$> Store.upsertSession handle s
  | insert f embedding => (fun _ => 1) <$> Store.insert handle f embedding
  | replaceSession session new => List.length <$> Store.replaceSession handle session new
  | deleteSession session => Store.deleteSession handle session

/-- What is wrong with a call, whatever the tables hold. -/
def refusal (dimension : Nat) : Call → Option Error
  | insert f embedding => Store.refusal dimension f embedding
  | replaceSession session new => new.findSome? (refusalFor dimension session)
  | _ => none

/-- How many ids a call needs. -/
def size : Call → Nat
  | insert _ _ => 1
  | replaceSession _ new => new.length
  | _ => 0

/-- What a call makes of tables. -/
def change (t : Tables) : Call → Tables
  | upsertSession s => t.withMetadata s
  | insert f embedding => t.added f embedding
  | replaceSession session new => (t.without (·.session == session)).addedAll new
  | deleteSession session => t.without (·.session == session)

/-- What a call makes of the portion of its session. -/
def changePortion (p : Portion) : Call → Portion
  | upsertSession s =>
    { p with metadata := some ((p.metadata.getD ⟨s.id, none, none, none⟩).update s) }
  | insert f embedding => p.add f embedding
  | replaceSession _ new => { p with rows := [] : Portion }.addAll new
  | deleteSession _ => { p with rows := [] }

/-- What a call tells. -/
def told (p : Portion) : Call → Nat
  | upsertSession _ => 0
  | insert _ _ => 1
  | replaceSession _ new => new.length
  | deleteSession _ => p.rows.length

end Call

variable {t u : Tables} {handle : Handle}

/-- A call is refused, or there are not enough ids for it, or it changes the tables. -/
theorem action_store (h : Coherent t) (hopen : Opened handle t) (call : Call) :
    call.action handle t.store =
      match call.refusal handle.dimension with
      | some e => (.error e, t.store)
      | none =>
        if maxId < t.lastId + call.size then (.error (.table .full), t.store)
        else (.ok (call.told (t.portion call.session)), (call.change t).store) := by
  have hroom : ¬ maxId < t.lastId + (0 : Nat) := by
    have := h.lastId_range
    simp only [Nat.cast_zero]
    omega
  cases call with
  | upsertSession s =>
    simp only [Call.action, Call.refusal, Call.size, map_apply, upsertSession_store]
    exact (if_neg hroom).symm
  | insert f embedding =>
    have hfull : (maxId < t.lastId + (1 : Nat)) ↔ maxId ≤ t.lastId := Int.lt_add_one_iff
    simp only [Call.action, Call.refusal, Call.size, map_apply, insert_eq h hopen, hfull]
    cases Store.refusal handle.dimension f embedding with
    | some e => rfl
    | none =>
      by_cases hshort : maxId ≤ t.lastId
      · simp only [if_pos hshort]
      · simp only [if_neg hshort]
        rfl
  | replaceSession session new =>
    simp only [Call.action, Call.refusal, Call.size, map_apply, replaceSession_eq h hopen]
    cases new.findSome? (refusalFor handle.dimension session) with
    | some e => rfl
    | none =>
      by_cases hshort : maxId < t.lastId + new.length
      · simp only [if_pos hshort]
        exact (if_pos hshort).symm
      · simp only [if_neg hshort, idsAfter, List.length_map, List.length_range]
        exact (if_neg hshort).symm
  | deleteSession session =>
    simp only [Call.action, Call.refusal, Call.size, deleteSession_store, Call.told,
      Tables.portion, List.length_map]
    exact (if_neg hroom).symm

lemma session_of_refusalFor_eq_none {dimension : Nat} {session : String}
    {item : NewFinding × Embedding} (h : refusalFor dimension session item = none) :
    item.1.session = session := by
  by_contra hother
  simp [refusalFor, hother] at h

lemma opened_change (hopen : Opened handle t) (call : Call) : Opened handle (call.change t) := by
  have hsame : (call.change t).vectors.dimension = t.vectors.dimension := by
    cases call with
    | upsertSession s => rfl
    | insert f embedding => exact dimension_added t f embedding
    | replaceSession session new => exact (dimension_addedAll _ _).trans (dimension_eraseAll _ _)
    | deleteSession session => exact dimension_eraseAll _ _
  exact ⟨hsame.trans hopen.dimension, hopen.positive⟩

/-- A session is added behind the others if it is missing. -/
lemma find?_withSession (t : Tables) (id session : String) :
    (t.withSession id).sessions.find? (·.id == session) =
      if id = session then
        (t.sessions.find? (·.id == session)).or (some ⟨id, none, none, none⟩)
      else t.sessions.find? (·.id == session) := by
  unfold withSession
  by_cases hknown : t.sessions.any (·.id == id) = true
  · rw [if_pos hknown]
    split_ifs with hid
    · subst hid
      rw [← List.isSome_find?] at hknown
      obtain ⟨row, hrow⟩ := Option.isSome_iff_exists.mp hknown
      rw [hrow, Option.some_or]
    · rfl
  · rw [if_neg hknown, List.find?_append]
    split_ifs with hid
    · simp [hid]
    · simp [hid]

lemma sessions_added (t : Tables) (f : NewFinding) (embedding : Option Embedding) :
    (t.added f embedding).sessions = (t.withSession f.session).sessions := by
  cases embedding <;> rfl

/-- A finding goes to the end of the portion of its session, and no other session sees it. -/
lemma portion_added (h : Coherent t) (f : NewFinding) (embedding : Option Embedding)
    (session : String) :
    (t.added f embedding).portion session =
      if f.session = session then (t.portion session).add f embedding else t.portion session := by
  have hold : (t.findings.filter (·.session == session)).map (fun row =>
      (row.anonymous, (t.added f embedding).vectors.find? row.id)) = (t.portion session).rows := by
    refine List.map_congr_left fun row hrow => ?_
    have := (h.bounded row (List.mem_of_mem_filter hrow)).2
    rw [h.find?_added, if_neg (by omega)]
  have hnew : (t.added f embedding).vectors.find? (t.lastId + 1) = embedding := by
    rw [h.find?_added, if_pos rfl]
  rw [portion, sessions_added, find?_withSession, h.findings_added, List.filter_append, List.map_append,
    hold]
  split_ifs with hsession
  · have hchosen : ([.ofNew (t.lastId + 1) f] : List Row).filter (·.session == session) =
        [.ofNew (t.lastId + 1) f] := by simp [Row.ofNew, hsession]
    rw [hchosen, List.map_singleton]
    simp only [Row.ofNew, hnew]
    rfl
  · have hchosen : ([.ofNew (t.lastId + 1) f] : List Row).filter (·.session == session) = [] := by
      simp [Row.ofNew, hsession]
    rw [hchosen, List.map_nil, List.append_nil]
    rfl

/-- Deleting the findings of a session empties its portion and no other. -/
lemma portion_without (h : Coherent t) (gone session : String) :
    (t.without (·.session == gone)).portion session =
      if gone = session then { t.portion session with rows := [] } else t.portion session := by
  split_ifs with hsession
  · subst hsession
    have hnone : (t.without (·.session == gone)).findings.filter (·.session == gone) = [] := by
      simp [without, List.filter_filter]
    rw [portion, hnone]
    rfl
  · have hrows : (t.without (·.session == gone)).findings.filter (·.session == session) =
        t.findings.filter (·.session == session) := by
      rw [without, List.filter_filter]
      refine List.filter_congr fun row _ => ?_
      by_cases hrow : row.session = session
      · have hother : ¬ session = gone := fun heq => hsession heq.symm
        simp [hrow, hother]
      · simp [hrow]
    rw [portion, hrows, portion]
    congr 1
    refine List.map_congr_left fun row hrow => ?_
    obtain ⟨hrow, hof⟩ := List.mem_filter.mp hrow
    have hkept : (row.session == gone) = false := by
      rw [beq_iff_eq.mp hof]
      simpa using fun heq => hsession heq.symm
    rw [h.find?_without hrow, hkept]
    rfl

/-- Metadata of a session change its row and no other. -/
lemma find?_withMetadata (t : Tables) (s : Session) (session : String) :
    (t.withMetadata s).sessions.find? (·.id == session) =
      if s.id = session then
        some (((t.sessions.find? (·.id == session)).getD ⟨s.id, none, none, none⟩).update s)
      else t.sessions.find? (·.id == session) := by
  have hids : ((fun row : SessionRow => row.id == session) ∘
      fun row => if row.id = s.id then row.update s else row) = fun row => row.id == session := by
    funext row
    simp only [Function.comp_apply]
    split_ifs <;> rfl
  unfold withMetadata
  by_cases hknown : t.sessions.any (·.id == s.id) = true
  · simp only [if_pos hknown, List.find?_map, hids]
    cases hfound : t.sessions.find? (·.id == session) with
    | none =>
      split_ifs with hid
      · rw [hid, ← List.isSome_find?, hfound] at hknown
        cases hknown
      · rfl
    | some row =>
      have hrow : row.id = session := by simpa using List.find?_some hfound
      rw [Option.map_some, hrow, Option.getD_some]
      by_cases hid : s.id = session
      · rw [if_pos hid.symm, if_pos hid]
      · rw [if_neg fun heq => hid heq.symm, if_neg hid]
  · simp only [if_neg hknown, List.find?_append]
    split_ifs with hid
    · have hnone : t.sessions.find? (·.id == session) = none := by
        rw [← Option.not_isSome_iff_eq_none, List.isSome_find?, ← hid]
        exact hknown
      simp [hnone, SessionRow.update, hid]
    · simp [SessionRow.update, hid]

lemma portion_withMetadata (t : Tables) (s : Session) (session : String) :
    (t.withMetadata s).portion session =
      if s.id = session then (Call.upsertSession s).changePortion (t.portion session)
      else t.portion session := by
  rw [portion, find?_withMetadata]
  split_ifs <;> rfl

/-- New findings of a session that all fit go to the end of its portion, one after another. -/
lemma portion_addedAll (h : Coherent t) {of : String} {new : List (NewFinding × Embedding)}
    (hlast : t.lastId + new.length ≤ maxId) (hfits : ∀ item ∈ new, t.Fits item.2)
    (hof : ∀ item ∈ new, item.1.session = of) :
    Coherent (t.addedAll new) ∧ (t.addedAll new).lastId = t.lastId + new.length ∧
      ∀ session, (t.addedAll new).portion session =
        if of = session then (t.portion session).addAll new else t.portion session := by
  induction new generalizing t with
  | nil => exact ⟨h, by simp [addedAll], fun session => (ite_self _).symm⟩
  | cons item new ih =>
    rw [List.length_cons] at hlast
    have hitem : ∀ vector ∈ some item.2, t.Fits vector := by
      rintro vector ⟨⟩
      exact hfits item List.mem_cons_self
    have hlastId := lastId_added t item.1 (some item.2)
    obtain ⟨hcoherent, hids, hportion⟩ := ih (h.added (by omega) item.1 hitem) (by omega)
      (fun other hother => by
        obtain ⟨hfilled, hlength⟩ := hfits other (List.mem_cons_of_mem _ hother)
        exact ⟨hfilled, hlength.trans (dimension_added _ _ _).symm⟩)
      (fun other hother => hof other (List.mem_cons_of_mem _ hother))
    refine ⟨hcoherent, ?_, fun session => (hportion session).trans ?_⟩
    · rw [List.length_cons]
      exact hids.trans (by omega)
    · rw [portion_added h, hof item List.mem_cons_self]
      split_ifs <;> rfl

/-- A call that is not refused and has enough ids changes the portion of its session, by what the
portion was, and no other. -/
theorem portion_change (h : Coherent t) (hopen : Opened handle t) {call : Call}
    (hfine : call.refusal handle.dimension = none) (hroom : t.lastId + call.size ≤ maxId) :
    Coherent (call.change t) ∧ (call.change t).lastId = t.lastId + call.size ∧
      ∀ session, (call.change t).portion session =
        if call.session = session then call.changePortion (t.portion session)
        else t.portion session := by
  cases call with
  | upsertSession s =>
    exact ⟨h.withMetadata s, (Int.add_zero _).symm, portion_withMetadata t s⟩
  | insert f embedding =>
    have hfits : ∀ vector ∈ embedding, t.Fits vector := fun vector hvector =>
      hopen.fits (length_of_refusal_eq_none hfine vector hvector)
    exact ⟨h.added (Int.lt_of_add_one_le hroom) f hfits, lastId_added t f embedding,
      portion_added h f embedding⟩
  | replaceSession session new =>
    have hitems := List.findSome?_eq_none_iff.mp hfine
    have hwithout := h.without (·.session == session)
    have hfits : ∀ item ∈ new, (t.without (·.session == session)).Fits item.2 := fun item hitem =>
      (opened_change hopen (.deleteSession session)).fits
        (length_of_refusalFor_eq_none (hitems item hitem))
    obtain ⟨hcoherent, hids, hportion⟩ := portion_addedAll hwithout hroom hfits
      fun item hitem => session_of_refusalFor_eq_none (hitems item hitem)
    refine ⟨hcoherent, hids, fun other => (hportion other).trans ?_⟩
    rw [portion_without h]
    change _ = if session = other then _ else _
    split_ifs <;> rfl
  | deleteSession session =>
    exact ⟨h.without _, (Int.add_zero _).symm, portion_without h session⟩

/-- The outcomes of calls, one after another, each with its call. -/
def outcomes (handle : Handle) : List Call → Store → List (Call × Except Error Nat)
  | [], _ => []
  | call :: rest, s =>
    (call, (call.action handle s).1) :: outcomes handle rest (call.action handle s).2

/-- The store after calls, one after another. -/
def afterCalls (handle : Handle) : List Call → Store → Store
  | [], s => s
  | call :: rest, s => afterCalls handle rest (call.action handle s).2

/-- A session has the same in two tables, and the second have given no more ids. -/
structure Alike (handle : Handle) (session : String) (t u : Tables) : Prop where
  first : Coherent t ∧ Opened handle t
  second : Coherent u ∧ Opened handle u
  portion : t.portion session = u.portion session
  lastId_le : u.lastId ≤ t.lastId

/-- What becomes of tables in a call for which there are ids. -/
lemma action_cases (h : Coherent t) (hopen : Opened handle t) (call : Call)
    (hids : (call.action handle t.store).1 ≠ .error (.table .full)) :
    (∃ e, call.refusal handle.dimension = some e ∧
        call.action handle t.store = (.error e, t.store)) ∨
      call.refusal handle.dimension = none ∧ t.lastId + call.size ≤ maxId ∧
        call.action handle t.store =
          (.ok (call.told (t.portion call.session)), (call.change t).store) := by
  have haction := action_store h hopen call
  cases hrefusal : call.refusal handle.dimension with
  | some e =>
    rw [hrefusal] at haction
    exact .inl ⟨e, rfl, haction⟩
  | none =>
    simp only [hrefusal] at haction
    split_ifs at haction with hshort
    · rw [haction] at hids
      exact absurd rfl hids
    · exact .inr ⟨rfl, Int.not_lt.mp hshort, haction⟩

/-- A call about another session, in the first tables alone, leaves the session alike. -/
lemma Alike.other {session : String} (h : Alike handle session t u) {call : Call}
    (hother : call.session ≠ session)
    (hids : (call.action handle t.store).1 ≠ .error (.table .full)) :
    ∃ v, (call.action handle t.store).2 = v.store ∧ Alike handle session v u := by
  obtain ⟨ht, hopen⟩ := h.first
  rcases action_cases ht hopen call hids with ⟨e, -, haction⟩ | ⟨hfine, hroom, haction⟩
  · exact ⟨t, congrArg Prod.snd haction, h⟩
  · obtain ⟨hcoherent, hlast, hportion⟩ := portion_change ht hopen hfine hroom
    refine ⟨call.change t, congrArg Prod.snd haction, ⟨hcoherent, opened_change hopen call⟩,
      h.second, ?_, ?_⟩
    · rw [hportion, if_neg hother, h.portion]
    · have := h.lastId_le
      omega

/-- A call about the session has the same outcome in both tables and leaves them alike. -/
lemma Alike.own {session : String} (h : Alike handle session t u) {call : Call}
    (hown : call.session = session)
    (hids : (call.action handle t.store).1 ≠ .error (.table .full)) :
    ∃ v w, (call.action handle t.store).2 = v.store ∧ (call.action handle u.store).2 = w.store ∧
      Alike handle session v w ∧
      (call.action handle t.store).1 = (call.action handle u.store).1 := by
  obtain ⟨ht, hopen⟩ := h.first
  obtain ⟨hu, hopen'⟩ := h.second
  have hle := h.lastId_le
  have hsecond := action_store hu hopen' call
  rcases action_cases ht hopen call hids with ⟨e, hrefusal, haction⟩ | ⟨hfine, hroom, haction⟩
  · rw [hrefusal] at hsecond
    exact ⟨t, u, congrArg Prod.snd haction, congrArg Prod.snd hsecond, h, by rw [haction, hsecond]⟩
  · have hroom' : u.lastId + call.size ≤ maxId := by omega
    simp only [hfine, if_neg (Int.not_lt.mpr hroom')] at hsecond
    obtain ⟨hcoherent, hlast, hportion⟩ := portion_change ht hopen hfine hroom
    obtain ⟨hcoherent', hlast', hportion'⟩ := portion_change hu hopen' hfine hroom'
    refine ⟨call.change t, call.change u, congrArg Prod.snd haction, congrArg Prod.snd hsecond,
      ⟨⟨hcoherent, opened_change hopen call⟩, ⟨hcoherent', opened_change hopen' call⟩, ?_, ?_⟩, ?_⟩
    · rw [hportion, hportion', h.portion]
    · omega
    · rw [haction, hsecond, hown, h.portion]

/-- Two runs, one with all calls and one with those about a session, keep the session alike. -/
theorem alike_afterCalls (session : String) (h : Alike handle session t u) {calls : List Call}
    (hids : ∀ outcome ∈ outcomes handle calls t.store, outcome.2 ≠ .error (.table .full)) :
    ∃ v w, afterCalls handle calls t.store = v.store ∧
      afterCalls handle (calls.filter (·.session == session)) u.store = w.store ∧
      Alike handle session v w ∧
      (outcomes handle calls t.store).filter (·.1.session == session) =
        outcomes handle (calls.filter (·.session == session)) u.store := by
  induction calls generalizing t u with
  | nil => exact ⟨t, u, rfl, rfl, h, rfl⟩
  | cons call calls ih =>
    obtain ⟨hfirst, hrest⟩ := List.forall_mem_cons.mp hids
    by_cases hown : call.session = session
    · obtain ⟨t', u', ht, hu, halike, hsame⟩ := h.own hown hfirst
      simp only [ht] at hrest
      obtain ⟨v, w, hv, hw, hend, hlater⟩ := ih halike hrest
      have hkeep : (call.session == session) = true := beq_iff_eq.mpr hown
      have hfilter : (call :: calls).filter (·.session == session) =
          call :: calls.filter (·.session == session) := List.filter_cons_of_pos hkeep
      have houtcomes : (outcomes handle (call :: calls) t.store).filter (·.1.session == session) =
          (call, (call.action handle t.store).1) ::
            (outcomes handle calls (call.action handle t.store).2).filter
              (·.1.session == session) := List.filter_cons_of_pos hkeep
      refine ⟨v, w, ?_, ?_, hend, ?_⟩
      · rw [afterCalls, ht, hv]
      · rw [hfilter, afterCalls, hu, hw]
      · rw [hfilter, houtcomes, outcomes, ht, hu, hsame, hlater]
    · obtain ⟨t', ht, halike⟩ := h.other hown hfirst
      simp only [ht] at hrest
      obtain ⟨v, w, hv, hw, hend, hlater⟩ := ih halike hrest
      have hdrop : ¬ (call.session == session) = true := by simpa using hown
      have hfilter : (call :: calls).filter (·.session == session) =
          calls.filter (·.session == session) := List.filter_cons_of_neg hdrop
      have houtcomes : (outcomes handle (call :: calls) t.store).filter (·.1.session == session) =
          (outcomes handle calls (call.action handle t.store).2).filter
            (·.1.session == session) := List.filter_cons_of_neg hdrop
      refine ⟨v, w, ?_, ?_, hend, ?_⟩
      · rw [afterCalls, ht, hv]
      · rw [hfilter, hw]
      · rw [hfilter, houtcomes, ht, hlater]

/-- The findings of a session as they are listed, without their ids, and their embeddings. -/
def listed (handle : Handle) (session : String) (s : Store) :
    Except Error (List (NewFinding × Option Embedding)) :=
  (listSession handle session s).1.map fun found => found.map fun f =>
    (f.toNewFinding, s.vectors.bind (·.find? f.id))

/-- The project of a session and when it was started, if the session is known. -/
def sessionMetadata (session : String) (s : Store) : Option (Option String × Option String) :=
  (s.sessions.bind (·.find? (·.id == session))).map fun row => (row.project, row.startedAt)

/-- What a list of rows with embeddings spells. -/
def Portion.listed (p : Portion) : List (NewFinding × Option Embedding) :=
  p.rows.filterMap fun entry => entry.1.finding?.map fun f => (f.toNewFinding, entry.2)

/-- The list of a session is read from its portion. -/
theorem listed_store (h : Coherent t) (handle : Handle) (session : String) :
    listed handle session t.store = .ok (t.portion session).listed := by
  rw [listed, h.listSession_store, Portion.listed, portion, List.filterMap_map]
  refine congrArg Except.ok ((List.map_filterMap ..).trans ?_)
  refine List.filterMap_congr fun row hrow => ?_
  obtain ⟨f, hf⟩ := h.written row (List.mem_of_mem_filter hrow)
  have hanonymous : row.anonymous = .ofNew 0 f := by
    rw [hf]
    rfl
  have hfinding : row.finding? = some (stored row.id f) := by
    rw [hf]
    exact finding?_ofNew row.id f
  simp only [Function.comp_apply, hanonymous, hfinding, finding?_ofNew]
  rfl

/-- From a fresh schema on, as long as there are ids, what a session has after a run of calls and
what the calls about it have told is the same as if there had been no other calls. -/
theorem sessions_do_not_interfere {handle : Handle} {s : Store} (hpositive : 0 < handle.dimension)
    (hfresh : applySchema handle {} = (.ok (), s)) {calls : List Call}
    (hids : ∀ outcome ∈ outcomes handle calls s, outcome.2 ≠ .error (.table .full))
    (session : String) :
    (∃ found, listed handle session (afterCalls handle calls s) = .ok found ∧
      listed handle session
        (afterCalls handle (calls.filter (·.session == session)) s) = .ok found) ∧
    sessionMetadata session (afterCalls handle calls s) =
      sessionMetadata session (afterCalls handle (calls.filter (·.session == session)) s) ∧
    (outcomes handle calls s).filter (·.1.session == session) =
      outcomes handle (calls.filter (·.session == session)) s := by
  obtain rfl := applySchema_empty_eq_ok hfresh
  have hstart : Coherent (fresh handle.dimension) ∧ Opened handle (fresh handle.dimension) :=
    ⟨coherent_fresh handle.dimension, rfl, hpositive⟩
  obtain ⟨t, u, ht, hu, halike, houtcomes⟩ :=
    alike_afterCalls session ⟨hstart, hstart, rfl, Int.le_refl _⟩ hids
  rw [ht, hu]
  refine ⟨⟨_, listed_store halike.first.1 handle session, ?_⟩, ?_, houtcomes⟩
  · rw [listed_store halike.second.1, halike.portion]
  · exact congrArg (fun p : Portion => p.metadata.map fun row => (row.project, row.startedAt))
      halike.portion

/-- A praise of low severity in a session. -/
def praiseIn (session content : String) : NewFinding :=
  { session, kind := .praise, content, severity := .low }

/-- Two sessions in turns. The third call names a finding of the other session and fails. -/
def twoSessions : List Call := [
  .insert (praiseIn "s" "a") none,
  .insert (praiseIn "r" "b") (some [Number.Binary.zero]),
  .replaceSession "s" [(praiseIn "s" "c", [Number.Binary.zero]),
    (praiseIn "r" "d", [Number.Binary.zero])],
  .deleteSession "r",
  .insert (praiseIn "s" "e") (some [Number.Binary.zero])]

/-- What one of the two sessions has in both runs. -/
theorem sessions_do_not_interfere_two_sessions :
    0 < (Handle.mk "findings.db" 1).dimension ∧
      applySchema ⟨"findings.db", 1⟩ {} = (.ok (), (fresh 1).store) ∧
      (∀ outcome ∈ outcomes ⟨"findings.db", 1⟩ twoSessions (fresh 1).store,
        outcome.2 ≠ .error (.table .full)) ∧
      listed ⟨"findings.db", 1⟩ "s"
          (afterCalls ⟨"findings.db", 1⟩ twoSessions (fresh 1).store) =
        .ok [(praiseIn "s" "a", none), (praiseIn "s" "e", some [Number.Binary.zero])] := by
  have hpositive : 0 < (Handle.mk "findings.db" 1).dimension := by decide
  have hfresh : applySchema ⟨"findings.db", 1⟩ {} = (.ok (), (fresh 1).store) := rfl
  have hids : ∀ outcome ∈ outcomes ⟨"findings.db", 1⟩ twoSessions (fresh 1).store,
      outcome.2 ≠ .error (.table .full) := by
    decide
  obtain ⟨⟨found, hall, hown⟩, -, -⟩ := sessions_do_not_interfere hpositive hfresh hids "s"
  refine ⟨hpositive, hfresh, hids, ?_⟩
  rw [hall, ← hown]
  decide +kernel

end Findings.Store
