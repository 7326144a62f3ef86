import Findings.Proofs.Config.Validation

/-!
# The rules one by one

A configuration is told all rules that it violates, each once and in a fixed order. Some rules make
sense only once another one holds: a size of zero is told as zero and not compared with a bound, a
missing name of a model is not looked up, and a model is not asked for a dimension of zero. So no
field is told twice.
-/
namespace Findings.Config

open Findings.Number

inductive Rule where
  | version
  | path
  | modelName
  | dimension
  | supported
  | modelDimension
  | constant
  | vectorWeight
  | lexicalWeight
  | perSource
  | mostPerSource
  | results
  | mostResults
  deriving DecidableEq

namespace Rule

/-- The rules in the order in which they are told. -/
def all : List Rule :=
  [version, path, modelName, dimension, supported, modelDimension, constant, vectorWeight,
    lexicalWeight, perSource, mostPerSource, results, mostResults]

def isViolated (c : Config) : Rule → Bool
  | version => c.schemaVersion != "1.0.0"
  | path => c.dbPath == ""
  | modelName => c.model == ""
  | dimension => c.dimension == 0
  | supported => c.model != "" && c.dimension != 0 && (Model.dimension? c.model).isNone
  | modelDimension => c.dimension != 0 && (Model.dimension? c.model).any (· != c.dimension)
  | constant => !c.search.constant.isPositive
  | vectorWeight => !c.search.vectorWeight.isPositive
  | lexicalWeight => !c.search.lexicalWeight.isPositive
  | perSource => c.search.perSourceLimit == 0
  | mostPerSource => 4096 < c.search.perSourceLimit
  | results => c.search.resultLimit == 0
  | mostResults => c.search.perSourceLimit < c.search.resultLimit

def field : Rule → String
  | version => "_meta.schema_version"
  | path => "storage.db_path"
  | modelName => "embedding.model"
  | dimension => "embedding.dimension"
  | supported => "embedding.model"
  | modelDimension => "embedding.dimension"
  | constant => "search.rrf_k"
  | vectorWeight => "search.vector_weight"
  | lexicalWeight => "search.lexical_weight"
  | perSource => "search.per_source_limit"
  | mostPerSource => "search.per_source_limit"
  | results => "search.result_limit"
  | mostResults => "search.result_limit"

/-- The sentence for a configuration whose model has another dimension. -/
def ownMessage (c : Config) (own : Nat) : String :=
  s!"Model {c.model} produces {own}-dimensional embeddings, configured {c.dimension}"

def message (c : Config) : Rule → String
  | version => "Unsupported schema version: " ++ c.schemaVersion
  | path => "Database path cannot be empty"
  | modelName => "Model name cannot be empty"
  | dimension => "Embedding dimension must be greater than 0"
  | supported => "Unsupported model: " ++ c.model
  | modelDimension => ownMessage c ((Model.dimension? c.model).getD 0)
  | constant => "RRF k must be positive, got " ++ c.search.constant.plainText
  | vectorWeight => "Weight must be positive, got " ++ c.search.vectorWeight.plainText
  | lexicalWeight => "Weight must be positive, got " ++ c.search.lexicalWeight.plainText
  | perSource => "Per-source limit must be greater than 0"
  | mostPerSource => s!"Per-source limit {c.search.perSourceLimit} exceeds the maximum of {4096}"
  | results => "Result limit must be greater than 0"
  | mostResults =>
    s!"Result limit {c.search.resultLimit} exceeds per-source limit {c.search.perSourceLimit}"

def violation (c : Config) (rule : Rule) : Violation := ⟨rule.field, rule.message c⟩

lemma mem_all (rule : Rule) : rule ∈ all := by
  cases rule <;> decide

end Rule

open Rule

variable {c : Config} {rule : Rule}

/-- What is told of a configuration about some rules. -/
def told (c : Config) (rules : List Rule) : List Violation :=
  (rules.filter (·.isViolated c)).map (violation c)

lemma told_append (c : Config) (first second : List Rule) :
    told c (first ++ second) = told c first ++ told c second := by
  simp only [told, List.filter_append, List.map_append]

lemma told_cons_of_isViolated {rules : List Rule} (h : rule.isViolated c = true) :
    told c (rule :: rules) = rule.violation c :: told c rules := by
  simp [told, h]

/-- A rule that is kept is passed over. -/
lemma told_cons_of_not_isViolated {rules : List Rule} (h : rule.isViolated c = false) :
    told c (rule :: rules) = told c rules := by
  simp [told, h]

/-- A rule is told unless it holds. -/
lemma unlessHolds_eq {holds : Bool} (rule : Rule) (h : rule.isViolated c = !holds) :
    unlessHolds holds rule.field (rule.message c) = told c [rule] := by
  cases holds with
  | false =>
    rw [told_cons_of_isViolated h]
    rfl
  | true =>
    rw [told_cons_of_not_isViolated h]
    rfl

/-! ### Sections -/

lemma versionRule_eq (c : Config) : versionRule c = told c [.version] :=
  unlessHolds_eq .version rfl

lemma isEmpty_eq (text : String) : text.isEmpty = (text == "") := by
  rw [Bool.eq_iff_iff, String.isEmpty_iff, beq_iff_eq]

lemma storageRule_eq (c : Config) : storageRule c = told c [.path] := by
  apply unlessHolds_eq .path
  rw [Bool.not_not, isEmpty_eq]
  rfl

lemma dimension?_empty : Model.dimension? "" = none := by decide +kernel

/-- A model with a name is looked up, and compared with a positive dimension. -/
lemma modelRule_eq (hname : c.model ≠ "") (hdimension : c.dimension ≠ 0) :
    modelRule c = told c [.supported, .modelDimension] := by
  have hsupported : Rule.supported.isViolated c = (Model.dimension? c.model).isNone := by
    simp [isViolated, hname, hdimension]
  have hown : Rule.modelDimension.isViolated c =
      (Model.dimension? c.model).any (· != c.dimension) := by
    simp [isViolated, hdimension]
  unfold modelRule
  cases hmodel : Model.dimension? c.model with
  | none =>
    have htold : Rule.supported.isViolated c = true := by rw [hsupported, hmodel]; rfl
    have hpassed : Rule.modelDimension.isViolated c = false := by rw [hown, hmodel]; rfl
    rw [told_cons_of_isViolated htold, told_cons_of_not_isViolated hpassed]
    rfl
  | some own =>
    have hpassed : Rule.supported.isViolated c = false := by rw [hsupported, hmodel]; rfl
    have hsame : Rule.modelDimension.isViolated c = !(own == c.dimension) := by
      rw [hown, hmodel]
      rfl
    have hmessage : ownMessage c own = Rule.modelDimension.message c :=
      congrArg (ownMessage c) (show own = (Model.dimension? c.model).getD 0 by rw [hmodel]; rfl)
    rw [told_cons_of_not_isViolated hpassed, ← unlessHolds_eq .modelDimension hsame, ← hmessage]
    rfl

/-- The model is looked up if it has a name and the dimension is positive. -/
lemma lookedUp_eq (c : Config) :
    (if c.dimension = 0 || c.model.isEmpty then [] else modelRule c) =
      told c [.supported, .modelDimension] := by
  split
  next hskip =>
    have hmissing : c.dimension = 0 ∨ c.model = "" := by
      simpa only [Bool.or_eq_true, decide_eq_true_eq, String.isEmpty_iff] using hskip
    have hsupported : Rule.supported.isViolated c = false := by
      rcases hmissing with h | h <;> simp [isViolated, h]
    have hown : Rule.modelDimension.isViolated c = false := by
      rcases hmissing with h | h
      · simp [isViolated, h]
      · simp [isViolated, h, dimension?_empty]
    rw [told_cons_of_not_isViolated hsupported, told_cons_of_not_isViolated hown]
    rfl
  next hgiven =>
    have hboth : ¬(c.dimension = 0 ∨ c.model = "") := by
      simpa only [Bool.or_eq_true, decide_eq_true_eq, String.isEmpty_iff] using hgiven
    exact modelRule_eq (fun h => hboth (.inr h)) (fun h => hboth (.inl h))

lemma embeddingRules_eq (c : Config) :
    embeddingRules c = told c [.modelName, .dimension, .supported, .modelDimension] := by
  have hname : Rule.modelName.isViolated c = !!c.model.isEmpty := by
    rw [Bool.not_not, isEmpty_eq]
    rfl
  have hzero : Rule.dimension.isViolated c = !(c.dimension != 0) := (Bool.not_not _).symm
  have hlist : told c [.modelName, .dimension, .supported, .modelDimension] =
      told c [.modelName] ++ told c [.dimension] ++ told c [.supported, .modelDimension] := by
    simp only [← told_append]
    rfl
  rw [hlist, ← unlessHolds_eq .modelName hname, ← unlessHolds_eq .dimension hzero, ← lookedUp_eq]
  rfl

/-- A rule of a number that has to be positive. -/
lemma positiveRule_eq {x : Double} {name : String} (rule : Rule)
    (h : rule.isViolated c = !x.isPositive)
    (hmessage : rule.message c = name ++ " must be positive, got " ++ x.plainText) :
    positiveRule x rule.field name = told c [rule] := by
  rw [positiveRule, ← hmessage, unlessHolds_eq rule h]

/-- A limit of zero is told as zero, and every other one is compared with a bound. -/
lemma limitRule_eq {limit bound : Nat} (zero most : Rule)
    (hzero : zero.isViolated c = (limit == 0))
    (hmost : most.isViolated c = decide (bound < limit)) :
    (if limit = 0 then [zero.violation c]
      else unlessHolds (limit ≤ bound) most.field (most.message c)) = told c [zero, most] := by
  by_cases hlimit : limit = 0
  · have htold : zero.isViolated c = true := by rw [hzero, hlimit]; rfl
    have hpassed : most.isViolated c = false := by
      rw [hmost, decide_eq_false_iff_not]
      omega
    rw [if_pos hlimit, told_cons_of_isViolated htold, told_cons_of_not_isViolated hpassed]
    rfl
  · have hpassed : zero.isViolated c = false := by rw [hzero, beq_false_of_ne hlimit]
    have hbound : most.isViolated c = !decide (limit ≤ bound) := by
      rw [hmost, ← decide_not, decide_eq_decide.mpr Nat.not_le]
    rw [if_neg hlimit, told_cons_of_not_isViolated hpassed, unlessHolds_eq most hbound]

lemma perSourceRule_eq (c : Config) :
    perSourceRule c.search.perSourceLimit = told c [.perSource, .mostPerSource] :=
  limitRule_eq .perSource .mostPerSource rfl rfl

lemma resultRule_eq (c : Config) :
    resultRule c.search.resultLimit c.search.perSourceLimit = told c [.results, .mostResults] :=
  limitRule_eq .results .mostResults rfl rfl

lemma searchRules_eq (c : Config) :
    searchRules c.search =
      told c [.constant, .vectorWeight, .lexicalWeight, .perSource, .mostPerSource, .results,
        .mostResults] := by
  have hconstant : positiveRule c.search.constant "search.rrf_k" "RRF k" = told c [.constant] :=
    positiveRule_eq .constant rfl rfl
  have hvector : positiveRule c.search.vectorWeight "search.vector_weight" "Weight" =
      told c [.vectorWeight] := positiveRule_eq .vectorWeight rfl rfl
  have hlexical : positiveRule c.search.lexicalWeight "search.lexical_weight" "Weight" =
      told c [.lexicalWeight] := positiveRule_eq .lexicalWeight rfl rfl
  unfold searchRules
  rw [hconstant, hvector, hlexical, perSourceRule_eq, resultRule_eq]
  simp only [← told_append]
  rfl

theorem violations_eq (c : Config) : violations c = told c Rule.all := by
  unfold violations
  rw [versionRule_eq, storageRule_eq, embeddingRules_eq, searchRules_eq]
  simp only [← told_append]
  rfl

lemma validate_eq_error (h : violations c ≠ []) :
    validate c = .error (.invalidConfig (violations c)) := by
  unfold validate
  split
  next hempty => exact absurd hempty h
  next => rfl

/-! ### One rule for each field -/

namespace Rule

/-- The rule about the same field that comes first: another rule makes sense once it holds. -/
def first? : Rule → Option Rule
  | supported => some modelName
  | modelDimension => some dimension
  | mostPerSource => some perSource
  | mostResults => some results
  | _ => none

lemma isViolated_of_first? {first : Rule} (hfirst : rule.first? = some first)
    (h : first.isViolated c = true) : rule.isViolated c = false := by
  cases rule with
  | supported =>
    obtain rfl := Option.some.inj hfirst
    have hname : c.model = "" := by simpa [isViolated] using h
    simp [isViolated, hname]
  | modelDimension =>
    obtain rfl := Option.some.inj hfirst
    have hzero : c.dimension = 0 := by simpa [isViolated] using h
    simp [isViolated, hzero]
  | mostPerSource =>
    obtain rfl := Option.some.inj hfirst
    have hzero : c.search.perSourceLimit = 0 := by simpa [isViolated] using h
    simp [isViolated, hzero]
  | mostResults =>
    obtain rfl := Option.some.inj hfirst
    have hzero : c.search.resultLimit = 0 := by simpa [isViolated] using h
    simp [isViolated, hzero]
  | _ => cases hfirst

/-- Of two rules about one field one comes first. -/
lemma first?_of_field {other : Rule} (h : rule.field = other.field) :
    rule = other ∨ rule.first? = some other ∨ other.first? = some rule := by
  have hall : ∀ rule ∈ all, ∀ other ∈ all, rule.field = other.field →
      rule = other ∨ rule.first? = some other ∨ other.first? = some rule := by decide +kernel
  exact hall rule rule.mem_all other other.mem_all h

end Rule

/-- No field is told twice. -/
theorem fields_nodup (c : Config) :
    ((Rule.all.filter (·.isViolated c)).map Rule.field).Nodup := by
  have hall : Rule.all.Nodup := by decide
  refine (hall.filter _).map_on fun rule hrule other hother hfield => ?_
  have hviolated : rule.isViolated c = true := (List.mem_filter.mp hrule).2
  have hviolated' : other.isViolated c = true := (List.mem_filter.mp hother).2
  rcases first?_of_field hfield with heq | hfirst | hfirst
  · exact heq
  · exact absurd hviolated (by simp [isViolated_of_first? hfirst hviolated'])
  · exact absurd hviolated' (by simp [isViolated_of_first? hfirst hviolated])

/-! ### Keeping the rules -/

/-- What a configuration has to be. -/
structure KeepsRules (c : Config) : Prop where
  version : c.schemaVersion = "1.0.0"
  path : c.dbPath ≠ ""
  model : ∃ model ∈ Model.all,
    model.name.toLower = c.model.toLower ∧ model.dimension = c.dimension
  constant : c.search.constant.isPositive = true
  vectorWeight : c.search.vectorWeight.isPositive = true
  lexicalWeight : c.search.lexicalWeight.isPositive = true
  perSource : 1 ≤ c.search.perSourceLimit ∧ c.search.perSourceLimit ≤ 4096
  results : 1 ≤ c.search.resultLimit ∧ c.search.resultLimit ≤ c.search.perSourceLimit

lemma find?_name {name : String} {model : Model} (h : Model.find? name = some model) :
    model.name.toLower = name.toLower := by
  have hname := List.find?_some (p := fun m : Model => m.name.toLower == name.toLower) h
  exact beq_iff_eq.mp hname

/-- The dimension of a name is that of the one model with the name in some case. -/
lemma dimension?_eq_some_iff {name : String} {dimension : Nat} :
    Model.dimension? name = some dimension ↔
      ∃ model ∈ Model.all, model.name.toLower = name.toLower ∧ model.dimension = dimension := by
  have hdistinct : ∀ first ∈ Model.all, ∀ second ∈ Model.all,
      first.name.toLower = second.name.toLower → first = second := by decide +kernel
  constructor
  · intro h
    obtain ⟨model, hfound, hmodel⟩ := Option.map_eq_some_iff.mp h
    exact ⟨model, List.mem_of_find?_eq_some hfound, find?_name hfound, hmodel⟩
  · rintro ⟨model, hmem, hname, rfl⟩
    cases hfound : Model.find? name with
    | none =>
      have hnone := List.find?_eq_none.mp hfound model hmem
      exact absurd (beq_iff_eq.mpr hname) hnone
    | some found =>
      have hfoundName := find?_name hfound
      have hsame := hdistinct found (List.mem_of_find?_eq_some hfound) model hmem
        (hfoundName.trans hname.symm)
      rw [Model.dimension?, hfound, hsame]
      rfl

lemma violations_eq_nil_iff_rules :
    violations c = [] ↔ ∀ rule : Rule, rule.isViolated c = false := by
  rw [violations_eq, told, List.map_eq_nil_iff, List.filter_eq_nil_iff]
  exact ⟨fun h rule => Bool.eq_false_iff.mpr (h rule rule.mem_all),
    fun h rule _ => Bool.eq_false_iff.mp (h rule)⟩

/-- The rule of the model holds once the name is given and the dimension is positive. -/
lemma dimension?_of_rules (hname : c.model ≠ "") (hzero : c.dimension ≠ 0)
    (hsupported : Rule.supported.isViolated c = false)
    (hown : Rule.modelDimension.isViolated c = false) :
    Model.dimension? c.model = some c.dimension := by
  cases hmodel : Model.dimension? c.model with
  | none => simp [isViolated, hname, hzero, hmodel] at hsupported
  | some own =>
    have hsame : own = c.dimension := by simpa [isViolated, hzero, hmodel] using hown
    rw [hsame]

/-- Supported models have names and positive dimensions. -/
lemma model_ne_empty (h : Model.dimension? c.model = some c.dimension) :
    c.model ≠ "" ∧ c.dimension ≠ 0 := by
  constructor
  · intro hname
    rw [hname, dimension?_empty] at h
    cases h
  · intro hzero
    obtain ⟨model, hmem, -, hdimension⟩ := dimension?_eq_some_iff.mp h
    have hpositive : ∀ model ∈ Model.all, model.dimension ≠ 0 := by decide
    exact hpositive model hmem (hdimension.trans hzero)

theorem violations_eq_nil_iff : violations c = [] ↔ KeepsRules c := by
  rw [violations_eq_nil_iff_rules]
  constructor
  · intro h
    have hname : c.model ≠ "" := by simpa [isViolated] using h .modelName
    have hzero : c.dimension ≠ 0 := by simpa [isViolated] using h .dimension
    exact {
      version := by simpa [isViolated] using h .version
      path := by simpa [isViolated] using h .path
      model := dimension?_eq_some_iff.mp
        (dimension?_of_rules hname hzero (h .supported) (h .modelDimension))
      constant := by simpa [isViolated] using h .constant
      vectorWeight := by simpa [isViolated] using h .vectorWeight
      lexicalWeight := by simpa [isViolated] using h .lexicalWeight
      perSource := ⟨Nat.one_le_iff_ne_zero.mpr (by simpa [isViolated] using h .perSource),
        by simpa [isViolated] using h .mostPerSource⟩
      results := ⟨Nat.one_le_iff_ne_zero.mpr (by simpa [isViolated] using h .results),
        by simpa [isViolated] using h .mostResults⟩ }
  · intro h rule
    have hdimension := dimension?_eq_some_iff.mpr h.model
    obtain ⟨hname, hzero⟩ := model_ne_empty hdimension
    cases rule with
    | version => simp [isViolated, h.version]
    | path => simp [isViolated, h.path]
    | modelName => simp [isViolated, hname]
    | dimension => simp [isViolated, hzero]
    | supported => simp [isViolated, hdimension]
    | modelDimension => simp [isViolated, hdimension]
    | constant => simp [isViolated, h.constant]
    | vectorWeight => simp [isViolated, h.vectorWeight]
    | lexicalWeight => simp [isViolated, h.lexicalWeight]
    | perSource => simp [isViolated, Nat.one_le_iff_ne_zero.mp h.perSource.1]
    | mostPerSource => simp [isViolated, h.perSource.2]
    | results => simp [isViolated, Nat.one_le_iff_ne_zero.mp h.results.1]
    | mostResults => simp [isViolated, h.results.2]

end Findings.Config
