import Findings.Proofs.Search.Legs

/-!
# Calls that read

Finding, listing, counting and searching change nothing, whatever the tables hold and whichever of
them are missing.
-/
namespace Findings.Search

open Findings.Record
open Findings.Store

/-- A call that reads, with all that is given to it. -/
inductive Reading where
  | get (id : Int)
  | getMany (ids : List Int)
  | listSession (session : String)
  | stats
  | byWords (text : String) (limit : Nat) (kind : Option Kind)
  | byVector (query : Embedding) (limit : Nat) (kind : Option Kind)
  | search (settings : Settings) (query : SearchQuery)

def Reading.action (handle : Handle) : Reading → Action Unit
  | get id => discard (Store.get? handle id)
  | getMany ids => discard (Store.getMany handle ids)
  | listSession session => discard (Store.listSession handle session)
  | stats => discard (Store.stats handle)
  | byWords text limit kind => discard (Search.byWords text limit kind)
  | byVector query limit kind => discard (Search.byVector query handle.dimension limit kind)
  | search settings query => discard (Search.search handle settings query)

lemma readOnly_readRows (rows : List Row) : ReadOnly (readRows rows) := by
  unfold readRows
  split
  · exact readOnly_pure _
  · exact readOnly_fault _

lemma readOnly_lookUp (ids : List Int) : ReadOnly (lookUp ids) := by
  have hread : ReadOnly (do
      let findings ← require "findings" (← get).findings
      readRows (findings.filter fun row => ids.contains row.id) : Action (List Finding)) :=
    readOnly_get.bind fun _ => (readOnly_require _ _).bind fun _ => readOnly_readRows _
  exact .ite (readOnly_pure _) (.ite ((readOnly_fault _).bind fun _ => hread) hread)

lemma readOnly_get? (handle : Handle) (id : Int) : ReadOnly (get? handle id) := by
  refine (readOnly_ensureSchema handle).bind fun _ => readOnly_get.bind fun _ =>
    (readOnly_require _ _).bind fun findings => ?_
  split
  · exact readOnly_pure _
  · exact (readOnly_readRows _).bind fun _ => readOnly_pure _

lemma readOnly_stats (handle : Handle) : ReadOnly (stats handle) := by
  refine (readOnly_ensureSchema handle).bind fun _ => readOnly_get.bind fun _ =>
    (readOnly_require _ _).bind fun _ => (readOnly_require _ _).bind fun _ =>
      (readOnly_require _ _).bind fun _ => (readOnly_require _ _).bind fun _ => ?_
  split
  · exact readOnly_fault _
  · exact readOnly_pure _

/-- A search by words that fails has changed nothing either. -/
lemma readOnly_wordHits (text : String) (limit : Nat) (kind : Option Kind) :
    ReadOnly (wordHits text limit kind) := by
  intro s
  rw [wordHits, tryCatch_apply]
  obtain ⟨e, hfails⟩ | ⟨hits, hgives⟩ := (readOnly_byWords text limit kind).outcome s
  · rw [hfails]
    rfl
  · rw [hgives]

lemma readOnly_fusionOf (settings : Settings) : ReadOnly (fusionOf settings) := by
  unfold fusionOf
  split
  · exact readOnly_pure _
  · exact readOnly_throw _

lemma readOnly_search (handle : Handle) (settings : Settings) (query : SearchQuery) :
    ReadOnly (search handle settings query) := by
  have hmaterialize (fused : List Fused) : ReadOnly (materialize fused) :=
    .ite (readOnly_pure _) ((readOnly_lookUp _).bind fun _ => readOnly_pure _)
  have hlegs (config : FusionConfig) : ReadOnly (do
      let lexical ← wordHits query.text settings.perSourceLimit query.kind
      let vector ← Search.byVector query.embedding handle.dimension settings.perSourceLimit query.kind
      materialize (fuse config (vector.map (·.id)) (lexical.map (·.id)) settings.resultLimit)) :=
    (readOnly_wordHits _ _ _).bind fun _ => (readOnly_byVector _ _ _ _).bind fun _ => hmaterialize _
  exact (readOnly_fusionOf settings).bind fun config => (readOnly_ensureSchema handle).bind fun _ =>
    .ite ((readOnly_throw _).bind fun _ => hlegs config) (hlegs config)

/-- Calls that read change nothing. -/
theorem Reading.readOnly (handle : Handle) (reading : Reading) :
    ReadOnly (reading.action handle) := by
  cases reading with
  | get id => exact (readOnly_get? handle id).discard
  | getMany ids =>
    exact ((readOnly_ensureSchema handle).bind fun _ => readOnly_lookUp ids).discard
  | listSession session =>
    exact ((readOnly_ensureSchema handle).bind fun _ => readOnly_get.bind fun _ =>
      (readOnly_require _ _).bind fun _ => readOnly_readRows _).discard
  | stats => exact (readOnly_stats handle).discard
  | byWords text limit kind => exact (readOnly_byWords text limit kind).discard
  | byVector query limit kind => exact (readOnly_byVector query _ limit kind).discard
  | search settings query => exact (readOnly_search handle settings query).discard

end Findings.Search
