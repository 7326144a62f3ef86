import Findings.Proofs.Config.Rules
import Findings.Proofs.Files.Prepared
import Findings.Proofs.Fusion.Scores
import Findings.Proofs.Search.Failure

/-!
# What accepted configurations are good for

The rules are checked before a store is opened, and what they guard is checked again where it is
used: by fusion, by the lookup of a model, by the handle of a store and by a search. An accepted
configuration passes these later checks too. A search with it still depends on the data, but it is
not refused for the way in which it is set up.
-/
namespace Findings.Config

open Findings.Store

variable {c : Config}

/-- Fusion takes the parameters that the rules let through. -/
lemma KeepsRules.fusion (h : KeepsRules c) :
    c.search.fusion = .ok ⟨c.search.constant, c.search.vectorWeight, c.search.lexicalWeight⟩ :=
  FusionConfig.checked_eq_ok_iff.mpr ⟨rfl, h.constant, h.vectorWeight, h.lexicalWeight⟩

/-- A search through a prepared handle gives results or fails with the data. -/
theorem KeepsRules.search (h : KeepsRules c) {path : String} {handle : Handle} {tree : Files.Tree}
    {query : Record.SearchQuery} (hprepared : Files.Prepared path c.dimension handle tree)
    (hlength : query.embedding.length = c.dimension) :
    (∃ results, (Files.onStore path (Search.search handle c.search query) tree).1 = .ok results) ∨
      ∃ f, (Files.onStore path (Search.search handle c.search query) tree).1 =
        .error (.table f) := by
  obtain ⟨rfl, site, t, hsite, hstored, hcoherent⟩ := hprepared.store
  have hpassed : Search.rejection ⟨path, c.dimension⟩ c.search query t.store = none :=
    Search.rejection_eq_none_iff.mpr ⟨⟨_, h.fusion⟩, Search.hasSchema_store t, hlength⟩
  rw [Files.onStore_eq hsite hstored]
  rcases Search.search_outcome hcoherent hpassed with ⟨⟨f, hf⟩, -⟩ | ⟨⟨results, hresults⟩, -⟩
  · exact .inr ⟨f, by rw [hf]⟩
  · exact .inl ⟨results, by rw [hresults]⟩

/-- A configuration is accepted if and only if it keeps the rules, and it is told the rules that it
violates otherwise, each once and in their order, no two of them about one field. With an accepted
configuration fusion has its parameters, the model has the dimension, and a search through a handle
that was opened with this dimension for a query of this length is not refused: it gives results, or
fails with the data. -/
theorem validation_is_exact (c : Config) :
    (validate c = .ok () ↔ KeepsRules c) ∧
      (¬KeepsRules c → validate c = .error (.invalidConfig
        ((Rule.all.filter (·.isViolated c)).map (Rule.violation c)))) ∧
      ((Rule.all.filter (·.isViolated c)).map (Rule.field)).Nodup ∧
      (KeepsRules c →
        c.search.fusion = .ok ⟨c.search.constant, c.search.vectorWeight, c.search.lexicalWeight⟩ ∧
        Model.dimension? c.model = some c.dimension ∧
        ∀ path handle tree (query : Record.SearchQuery),
          Files.Prepared path c.dimension handle tree → query.embedding.length = c.dimension →
          (∃ results,
            (Files.onStore path (Search.search handle c.search query) tree).1 = .ok results) ∨
          ∃ f, (Files.onStore path (Search.search handle c.search query) tree).1 =
            .error (.table f)) := by
  have hnone : violations c = [] ↔ KeepsRules c := violations_eq_nil_iff
  refine ⟨validate_eq_ok_iff.trans hnone, fun h => ?_, fields_nodup c, fun h => ?_⟩
  · have htold : violations c ≠ [] := fun hempty => h (hnone.mp hempty)
    rw [validate_eq_error htold, violations_eq]
    rfl
  · exact ⟨h.fusion, dimension?_eq_some_iff.mpr h.model,
      fun path handle tree query hprepared hlength => h.search hprepared hlength⟩

/-- A configuration with a limit of zero is told so, and still that there are more results. -/
example :
    let c : Config := {
      schemaVersion := "1.0.0", createdAt := "", lastModified := "", dbPath := "findings.db",
      model := "", dimension := 384, search := { perSourceLimit := 0 } }
    Rule.all.filter (·.isViolated c) = [.modelName, .perSource, .mostResults] := by
  decide +kernel

/-- A search of a new store with an accepted configuration. -/
theorem validation_is_exact_new_store :
    let c : Config := {
      schemaVersion := "1.0.0", createdAt := "", lastModified := "", dbPath := "findings.db",
      model := "BGE-base-en-v1.5", dimension := 768 }
    let applied := Files.openAndApply "findings.db" 768 (.bare [])
    let query : Record.SearchQuery := ⟨"a", List.replicate 768 Number.Binary.zero, none⟩
    KeepsRules c ∧ validate c = .ok () ∧ applied.1 = .ok ⟨"findings.db", 768⟩ ∧
      ((∃ results, (Files.onStore "findings.db"
          (Search.search ⟨"findings.db", 768⟩ c.search query) applied.2).1 = .ok results) ∨
        ∃ f, (Files.onStore "findings.db"
          (Search.search ⟨"findings.db", 768⟩ c.search query) applied.2).1 =
            .error (.table f)) := by
  intro c applied query
  have hlower : "bge-base-en-v1.5".toLower = "bge-base-en-v1.5" := by decide +kernel
  have hname : "BGE-base-en-v1.5".toLower = "bge-base-en-v1.5" := by decide +kernel
  have hrules : KeepsRules c := {
    version := rfl
    path := by decide +kernel
    model := ⟨⟨"bge-base-en-v1.5", 768, "onnx/model.onnx"⟩, by decide, hlower.trans hname.symm, rfl⟩
    constant := by decide +kernel
    vectorWeight := by decide +kernel
    lexicalWeight := by decide +kernel
    perSource := by decide +kernel
    results := by decide +kernel }
  have happlied : applied = (.ok ⟨"findings.db", 768⟩, applied.2) :=
    Prod.ext (by decide +kernel) rfl
  have hprepared : Files.Prepared "findings.db" c.dimension ⟨"findings.db", 768⟩ applied.2 :=
    Files.prepared_of_openAndApply [] Files.Tree.blank_of_bare happlied
  obtain ⟨haccepted, -, -, hguarded⟩ := validation_is_exact c
  obtain ⟨-, -, hsearch⟩ := hguarded hrules
  exact ⟨hrules, haccepted.mpr hrules, congrArg Prod.fst happlied,
    hsearch "findings.db" ⟨"findings.db", 768⟩ applied.2 query hprepared
      (List.length_replicate ..)⟩

end Findings.Config
