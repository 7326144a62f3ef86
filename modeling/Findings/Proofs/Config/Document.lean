import Findings.Config.Document
import Findings.Proofs.Toml.Document

/-!
# Configurations read back

The document of a configuration is read as the same configuration: every text comes back with each
of its characters and every float as the number it was.
-/
namespace Findings.Config

open Findings.Number
open Findings.Toml

variable {c : Config} {text : String}

/-- A configuration whose floats that are not numbers are the one of that name. -/
def settled (c : Config) : Config :=
  { c with search := { c.search with
      constant := Toml.settled c.search.constant
      vectorWeight := Toml.settled c.search.vectorWeight
      lexicalWeight := Toml.settled c.search.lexicalWeight } }

/-- Whether all sizes can be written. -/
def IsWritable (c : Config) : Prop :=
  c.dimension < signedCount ∧ c.search.perSourceLimit < signedCount ∧
    c.search.resultLimit < signedCount

/-- The tables of the document of a configuration. -/
def tables (c : Config) : List Section :=
  [⟨"_meta", [("schema_version", .string c.schemaVersion), ("created_at", .string c.createdAt),
      ("last_modified", .string c.lastModified)]⟩,
    ⟨"storage", [("db_path", .string c.dbPath)]⟩,
    ⟨"embedding", [("model", .string c.model), ("dimension", .integer c.dimension)]⟩,
    ⟨"search", [("rrf_k", .float (Toml.settled c.search.constant)),
      ("vector_weight", .float (Toml.settled c.search.vectorWeight)),
      ("lexical_weight", .float (Toml.settled c.search.lexicalWeight)),
      ("per_source_limit", .integer c.search.perSourceLimit),
      ("result_limit", .integer c.search.resultLimit)]⟩]

lemma isDocument_tables (c : Config) : IsDocument c.tables := by
  constructor
  · simp [tables]
  · simp [tables]

/-! ### The lines of the document -/

lemma reads_heading (name : String) (hname : IsBare name) {rest : List Char}
    {statements : List Statement} (h : Reads rest statements) :
    Reads (heading name ++ rest) (.openTable [] name :: statements) := by
  have hline : heading name ++ rest = ('[' :: (name.toList ++ [']'])) ++ '\n' :: rest := by
    simp [heading]
  rw [hline]
  refine h.statement (by rintro c ⟨⟩; decide) (List.cons_ne_nil _ _) ?_
  rw [List.cons_append, List.append_assoc]
  exact statement?_openTable hname _

lemma reads_line (key : String) (hkey : IsBare key) {value : List Char} {v : Value}
    (hvalue : IsWritten value v) {rest : List Char} {statements : List Statement}
    (h : Reads rest statements) :
    Reads (line key value ++ rest) (.assign [] key v :: statements) := by
  have hline : line key value ++ rest =
      (key.toList ++ ' ' :: '=' :: ' ' :: value) ++ '\n' :: rest := by
    simp [line]
  rw [hline]
  refine h.statement ?_ (by simp) ?_
  · obtain ⟨c, later, hcons⟩ := List.exists_cons_of_ne_nil hkey.ne_nil
    have hc : isKeyChar c = true := hkey.char c (hcons ▸ List.mem_cons_self)
    rw [hcons]
    rintro d ⟨⟩
    exact ⟨isSpace_of_isKeyChar hc, not_isKeyChar hc (by decide), not_isKeyChar hc (by decide),
      not_isKeyChar hc (by decide)⟩
  · rw [List.append_assoc]
    exact statement?_assign hkey hvalue _

/-- The document is read line by line. -/
lemma reads_writeSections (hsizes : c.IsWritable) {rest : List Char} (hrest : Reads rest []) :
    Reads (((writeSections c).intersperse ['\n']).flatten ++ rest)
      (c.tables.flatMap Section.statements) := by
  obtain ⟨hdimension, hperSource, hresult⟩ := hsizes
  have hsearch := reads_heading "search" (by decide) <|
    reads_line "rrf_k" (by decide) (isNumber_float c.search.constant).isWritten <|
    reads_line "vector_weight" (by decide) (isNumber_float c.search.vectorWeight).isWritten <|
    reads_line "lexical_weight" (by decide) (isNumber_float c.search.lexicalWeight).isWritten <|
    reads_line "per_source_limit" (by decide) (isNumber_natural hperSource).isWritten <|
    reads_line "result_limit" (by decide) (isNumber_natural hresult).isWritten hrest
  have hembedding := reads_heading "embedding" (by decide) <|
    reads_line "model" (by decide) (isWritten_text c.model) <|
    reads_line "dimension" (by decide) (isNumber_natural hdimension).isWritten hsearch.lineFeed
  have hstorage := reads_heading "storage" (by decide) <|
    reads_line "db_path" (by decide) (isWritten_text c.dbPath) hembedding.lineFeed
  have hmeta := reads_heading "_meta" (by decide) <|
    reads_line "schema_version" (by decide) (isWritten_text c.schemaVersion) <|
    reads_line "created_at" (by decide) (isWritten_text c.createdAt) <|
    reads_line "last_modified" (by decide) (isWritten_text c.lastModified)
      hstorage.lineFeed
  simpa [writeSections, tables, Section.statements] using hmeta

/-- The tables of a configuration spell it. -/
lemma readConfig_tables (now : String) (c : Config) :
    toml.readConfig now (sectionsTable c.tables) = some c.settled := rfl

/-! ### The whole document -/

lemma write_eq_ok (hsizes : c.IsWritable) :
    write c = .ok (String.ofList ((writeSections c).intersperse ['\n']).flatten) := by
  obtain ⟨hdimension, hperSource, hresult⟩ := hsizes
  simp [write, hdimension, hperSource, hresult]

lemma write_eq_error (hsizes : ¬ c.IsWritable) : write c = .error .configTooLarge := by
  have hlarge : ¬ [c.dimension, c.search.perSourceLimit, c.search.resultLimit].all
      (· < signedCount) = true := by
    simpa [IsWritable] using hsizes
  rw [write, if_neg hlarge]

lemma isWritable_of_write (h : write c = .ok text) : c.IsWritable := by
  by_contra hlarge
  rw [write_eq_error hlarge] at h
  cases h

lemma readToml?_flatten (hsizes : c.IsWritable) {rest : List Char} (hrest : Reads rest [])
    (now : String) :
    readToml? now (String.ofList (((writeSections c).intersperse ['\n']).flatten ++ rest)) =
      some c.settled := by
  have hmark : (((writeSections c).intersperse ['\n']).flatten ++ rest).head? ≠ some '\ufeff' := by
    simp [writeSections, heading]
  rw [readToml?, read?_eq_sectionsTable (isDocument_tables c) hmark
    (reads_writeSections hsizes hrest), Option.bind_some, readConfig_tables]

/-- The document of a configuration is read as that configuration. -/
theorem readToml?_write (hwrite : write c = .ok text) (now : String) :
    readToml? now text = some c.settled ∧ readToml? now (text ++ "\n") = some c.settled := by
  have hsizes := isWritable_of_write hwrite
  rw [write_eq_ok hsizes] at hwrite
  obtain rfl := Except.ok.inj hwrite
  constructor
  · simpa using readToml?_flatten hsizes reads_nil now
  · have hline : String.ofList ((writeSections c).intersperse ['\n']).flatten ++ "\n" =
        String.ofList (((writeSections c).intersperse ['\n']).flatten ++ ['\n']) := by
      rw [String.ofList_append]
    rw [hline]
    exact readToml?_flatten hsizes reads_nil.lineFeed now

end Findings.Config
