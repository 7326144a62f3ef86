import Findings.Proofs.Store.Representation
import Findings.Proofs.Store.Runs
import Findings.Proofs.Time.Spelled

/-!
# The store as a catalog

Each request is answered by tables as by the catalog that they represent, and afterwards they
represent the catalog that the request leaves. By induction a store that began with an empty schema
answers every run of requests as a catalog does.
-/
namespace Findings.Store

open Findings.Record
open Findings.Time
open Tables

namespace Request

def action (handle : Handle) : Request → Action Answer
  | reopen dimension => do
    checkHandle ⟨handle.path, dimension⟩
    applySchema ⟨handle.path, dimension⟩
    return .done
  | insert f embedding => .id <$> Store.insert handle f embedding
  | replaceSession session new => .ids <$> Store.replaceSession handle session new
  | setEmbedding id embedding => do
    Store.setEmbedding handle id embedding
    return .done
  | delete id => .deleted <$> Store.delete handle id
  | deleteSession session => .count <$> Store.deleteSession handle session
  | get id => .found <$> Store.get? handle id
  | getMany ids => .findings <$> Store.getMany handle ids
  | listSession session => .findings <$> Store.listSession handle session

/-- The request with timestamps as they are read back. -/
def settled : Request → Request
  | insert f embedding => insert f.settled embedding
  | replaceSession session new =>
    replaceSession session (new.map fun item => (item.1.settled, item.2))
  | request => request

end Request

variable {t : Tables} {c : Catalog} {handle : Handle}

lemma opened_of_dimension_eq {u : Tables} (hopen : Opened handle t)
    (h : u.vectors.dimension = t.vectors.dimension) : Opened handle u :=
  ⟨h.trans hopen.dimension, hopen.positive⟩

lemma findSome?_refusalFor_settled (dimension : Nat) (session : String)
    (new : List (NewFinding × Embedding)) :
    (new.map fun item => (item.1.settled, item.2)).findSome? (refusalFor dimension session) =
      new.findSome? (refusalFor dimension session) := by
  rw [List.findSome?_map]
  rfl

/-- What answers a request and stays a store that represents the catalog. -/
def Answers (handle : Handle) (outcome : Except Error Answer × Store)
    (served : Except Error Answer × Catalog) : Prop :=
  ∃ u : Tables, outcome = (served.1, u.store) ∧ Represents u served.2 ∧ Opened handle u

/-- Tables that represent a catalog answer each request as the catalog does, and represent what it
is afterwards. -/
theorem answers_request (h : Represents t c) (hopen : Opened handle t) (request : Request) :
    Answers handle (request.action handle t.store) (c.serve handle.dimension request.settled) := by
  cases request with
  | reopen dimension =>
    refine ⟨t, ?_, h, hopen⟩
    simp only [Request.settled, Catalog.serve, ← hopen.dimension]
    by_cases hsame : t.vectors.dimension = dimension <;>
      simp [Request.action, checkHandle, Tables.store, applySchema, hsame]
  | insert f embedding =>
    have hsame : refusal handle.dimension f.settled embedding =
        refusal handle.dimension f embedding := rfl
    simp only [Request.action, Request.settled, Catalog.serve, map_apply,
      insert_eq h.coherent hopen, hsame, ← h.lastId]
    cases hrefusal : refusal handle.dimension f embedding with
    | some e => exact ⟨t, rfl, h, hopen⟩
    | none =>
      by_cases hfull : maxId ≤ t.lastId
      · simp only [if_pos hfull]
        exact ⟨t, rfl, h, hopen⟩
      · have hfits : ∀ vector ∈ embedding, t.Fits vector := fun vector hvector =>
          hopen.fits (length_of_refusal_eq_none hrefusal vector hvector)
        simp only [if_neg hfull]
        exact ⟨_, rfl, h.add (by omega) f hfits,
          opened_of_dimension_eq hopen (dimension_added _ _ _)⟩
  | replaceSession session new =>
    simp only [Request.action, Request.settled, Catalog.serve, map_apply,
      replaceSession_eq h.coherent hopen, findSome?_refusalFor_settled, List.length_map, ← h.lastId]
    cases hrefusal : new.findSome? (refusalFor handle.dimension session) with
    | some e => exact ⟨t, rfl, h, hopen⟩
    | none =>
      by_cases hshort : maxId < t.lastId + new.length
      · simp only [if_pos hshort]
        exact ⟨t, rfl, h, hopen⟩
      · -- the new findings are added to what deleting the session leaves
        have hkeep : Represents (t.without (·.session == session))
            (c.keep (·.finding.session != session)) :=
          h.keep fun row item hrow => by rw [hrow.session]; rfl
        have hdimension := dimension_eraseAll (t.findings.filter (·.session == session)) t.vectors
        have hfits : ∀ item ∈ new, (t.without (·.session == session)).Fits item.2 := by
          intro item hitem
          have hfine := List.findSome?_eq_none_iff.mp hrefusal item hitem
          exact (opened_of_dimension_eq hopen hdimension).fits
            (length_of_refusalFor_eq_none hfine)
        simp only [if_neg hshort]
        exact ⟨_, rfl, hkeep.addAll (Int.not_lt.mp hshort) hfits,
          opened_of_dimension_eq hopen ((dimension_addedAll _ _).trans hdimension)⟩
  | setEmbedding id embedding =>
    simp only [Request.action, Request.settled, Catalog.serve, bind_apply,
      setEmbedding_eq hopen, h.any_findings]
    by_cases hlength : embedding.length = handle.dimension
    · by_cases hlive : (c.find? id).isSome = true
      · simp only [if_neg (not_not.mpr hlength), if_pos hlive]
        exact ⟨_, rfl, h.embed hlive (hopen.fits hlength), opened_of_dimension_eq hopen rfl⟩
      · simp only [if_neg (not_not.mpr hlength), if_neg hlive]
        exact ⟨t, rfl, h, hopen⟩
    · simp only [if_pos hlength]
      exact ⟨t, rfl, h, hopen⟩
  | delete id =>
    have hexisted : decide (0 < (t.findings.filter (·.id == id)).length) = (c.find? id).isSome := by
      rw [← h.any_findings, Bool.eq_iff_iff, decide_eq_true_iff, List.length_pos_iff_exists_mem,
        List.any_eq_true]
      simp only [List.mem_filter]
    simp only [Request.action, Request.settled, Catalog.serve, map_apply, delete_store, hexisted]
    refine ⟨_, rfl, h.keep fun row item hrow => by rw [hrow.id]; rfl, ?_⟩
    exact opened_of_dimension_eq hopen (dimension_eraseAll _ _)
  | deleteSession session =>
    have hcount : (t.findings.filter (·.session == session)).length =
        (c.ofSession session).length :=
      (filter_isRowOf h.spelled fun row item hrow => by rw [hrow.session]).length_eq
    simp only [Request.action, Request.settled, Catalog.serve, map_apply, deleteSession_store, hcount]
    refine ⟨_, rfl, h.keep fun row item hrow => by rw [hrow.session]; rfl, ?_⟩
    exact opened_of_dimension_eq hopen (dimension_eraseAll _ _)
  | get id =>
    refine ⟨t, ?_, h, hopen⟩
    simp only [Request.action, Request.settled, Catalog.serve, map_apply, h.get?_store]
  | getMany ids =>
    refine ⟨t, ?_, h, hopen⟩
    simp only [Request.action, Request.settled, Catalog.serve, map_apply, h.getMany_store]
    split_ifs <;> rfl
  | listSession session =>
    refine ⟨t, ?_, h, hopen⟩
    simp only [Request.action, Request.settled, Catalog.serve, map_apply, h.listSession_store]

/-- Requests served one after another: the answers, and what is left. -/
def serveAll {σ : Type} (serve : σ → Request → Except Error Answer × σ) :
    List Request → σ → List (Except Error Answer) × σ
  | [], s => ([], s)
  | request :: rest, s =>
    let (answer, next) := serve s request
    let (answers, last) := serveAll serve rest next
    (answer :: answers, last)

/-- The step that answers a request, on a store. -/
def serveStore (handle : Handle) (s : Store) (request : Request) : Except Error Answer × Store :=
  request.action handle s

/-- Tables that represent a catalog answer any requests as the catalog does. -/
theorem answers_requests (h : Represents t c) (hopen : Opened handle t)
    (requests : List Request) :
    ∃ u : Tables, serveAll (serveStore handle) requests t.store =
        ((serveAll (Catalog.serve handle.dimension) (requests.map Request.settled) c).1, u.store) ∧
      Represents u
        (serveAll (Catalog.serve handle.dimension) (requests.map Request.settled) c).2 ∧
      Opened handle u := by
  induction requests generalizing t c with
  | nil => exact ⟨t, rfl, h, hopen⟩
  | cons request requests ih =>
    -- the later requests start from what the first one leaves of both
    obtain ⟨u, hserved, hu, hopen'⟩ := answers_request h hopen request
    obtain ⟨last, hlater, hlast⟩ := ih hu hopen'
    refine ⟨last, ?_, hlast⟩
    have hstep : serveStore handle t.store request = _ := hserved
    simp only [serveAll, List.map_cons, hstep, hlater]

lemma concerns_settled (request : Request) (id : Int) :
    c.Concerns request.settled id ↔ c.Concerns request id := by
  cases request <;> simp [Request.settled, Catalog.Concerns]

/-- Whatever a request does not concern is as it was before: the finding, and the embedding. -/
theorem unchanged_of_not_concerns (h : Represents t c) (hopen : Opened handle t)
    (request : Request) :
    ∃ u : Tables, (request.action handle t.store).2 = u.store ∧
      ∀ id, ¬ c.Concerns request id → u.vectors.find? id = t.vectors.find? id ∧
        (get? handle id u.store).1 = (get? handle id t.store).1 := by
  obtain ⟨u, hserved, hu, -⟩ := answers_request h hopen request
  refine ⟨u, congrArg Prod.snd hserved, fun id hid => ?_⟩
  have hsame := Catalog.find?_serve (mt (concerns_settled request id).mp hid) handle.dimension
  rw [hu.embedded, h.embedded, hu.get?_store, h.get?_store, hsame]
  exact ⟨rfl, rfl⟩

namespace Request

def findings : Request → List NewFinding
  | insert f _ => [f]
  | replaceSession _ new => new.map (·.1)
  | _ => []

/-- Whether all findings to be stored have timestamps as texts spell them. -/
def IsRepresentable (request : Request) : Prop :=
  ∀ f ∈ request.findings, ∀ timestamp ∈ f.timestamp, timestamp.IsRepresentable

end Request

/-- Timestamps that texts spell are kept as they are. -/
theorem Request.settled_eq {request : Request} (h : request.IsRepresentable) :
    request.settled = request := by
  cases request with
  | insert f embedding =>
    rw [Request.settled, NewFinding.settled_eq (h f List.mem_cons_self)]
  | replaceSession session new =>
    have hnew : (new.map fun item => (item.1.settled, item.2)) = new := by
      refine (List.map_congr_left fun item hitem => ?_).trans (List.map_id new)
      rw [NewFinding.settled_eq (h item.1 (List.mem_map_of_mem hitem))]
      rfl
    rw [Request.settled, hnew]
  | _ => rfl

/-- From an empty schema on, a store answers every run of requests as a catalog does, and what it
holds is at every time what the catalog says. -/
theorem run_answers_as_catalog {handle : Handle} {s : Store} (hpositive : 0 < handle.dimension)
    (hfresh : applySchema handle {} = (.ok (), s)) (requests : List Request) :
    ∃ (answers : List (Except Error Answer)) (t : Tables) (c : Catalog),
      serveAll (serveStore handle) requests s = (answers, t.store) ∧
      serveAll (Catalog.serve handle.dimension) (requests.map Request.settled) .empty =
        (answers, c) ∧
      Represents t c ∧
      (∀ request : Request, ∃ u : Tables, (request.action handle t.store).2 = u.store ∧
        ∀ id, ¬ c.Concerns request id → u.vectors.find? id = t.vectors.find? id ∧
          (get? handle id u.store).1 = (get? handle id t.store).1) ∧
      ((∀ request ∈ requests, request.IsRepresentable) →
        requests.map Request.settled = requests) := by
  obtain rfl := applySchema_empty_eq_ok hfresh
  have hopen : Opened handle (fresh handle.dimension) := ⟨rfl, hpositive⟩
  obtain ⟨t, hserved, ht, hopen'⟩ :=
    answers_requests (represents_fresh handle.dimension) hopen requests
  refine ⟨_, t, _, hserved, rfl, ht, unchanged_of_not_concerns ht hopen', fun htimes => ?_⟩
  refine (List.map_congr_left fun request hrequest => ?_).trans (List.map_id requests)
  exact Request.settled_eq (htimes request hrequest)

/-- A praise of low severity with tags. -/
def praise (content : String) (tags : List String) : NewFinding :=
  { session := "s", kind := .praise, content, severity := .low, tags }

/-- A finding is stored and deleted, and another one is stored, read and deleted. -/
def twoFindings : List Request := [
  .insert (praise "a" []) (some [Number.Binary.zero]),
  .delete 1,
  .insert (praise "b" ["\"", ""]) none,
  .get 1,
  .listSession "s",
  .deleteSession "s"]

/-- The answers to the requests with two findings. -/
theorem run_answers_as_catalog_two_findings :
    0 < (Handle.mk "findings.db" 1).dimension ∧
      applySchema ⟨"findings.db", 1⟩ {} = (.ok (), (fresh 1).store) ∧
      ∃ (t : Tables) (c : Catalog), Represents t c ∧
        serveAll (serveStore ⟨"findings.db", 1⟩) twoFindings (fresh 1).store =
          ([.ok (.id 1), .ok (.deleted true), .ok (.id 2), .ok (.found none),
            .ok (.findings [{ praise "b" ["\"", ""] with id := 2 }]), .ok (.count 1)], t.store) := by
  have hpositive : 0 < (Handle.mk "findings.db" 1).dimension := by decide
  have hfresh : applySchema ⟨"findings.db", 1⟩ {} = (.ok (), (fresh 1).store) := rfl
  obtain ⟨answers, t, c, hserved, hcatalog, ht, -, -⟩ :=
    run_answers_as_catalog hpositive hfresh twoFindings
  have hanswers : (serveAll (Catalog.serve 1) (twoFindings.map Request.settled) .empty).1 =
      answers := congrArg Prod.fst hcatalog
  refine ⟨hpositive, hfresh, t, c, ht, hserved.trans ?_⟩
  rw [← hanswers]
  rfl

end Findings.Store
