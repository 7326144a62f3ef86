import Findings.Config.Environment
import Findings.Proofs.Number.Digits

/-!
# Overrides field by field

Five fields of a configuration have a variable each. A variable that is set, and that spells a word
where its field is a size, gives its field the value; every other field stays. So the variables may
be met in any order, and meeting them twice is meeting them once.

`IsOverridden` says this without going through the variables one after another. The proof describes
what a run through them makes by the values that they have, `withValues`.
-/
namespace Findings.Config

open Findings.Number

variable {c : Config} {env other : Environment} {name name' text : String}

/-! ### Words -/

/-- A text spells an unsigned word of 64 bits: in decimal digits, behind an optional plus. -/
def SpellsWord (text : String) (n : Nat) : Prop :=
  n < 2 ^ 64 ∧ ∃ digits : List Char,
    (text.toList = digits ∨ text.toList = '+' :: digits) ∧ digits ≠ [] ∧
      (∀ digit ∈ digits, digit.isDigit = true) ∧ Nat.ofDigitChars 10 digits 0 = n

lemma wholeNumber?_eq_some_iff {digits : List Char} {n : Nat} :
    wholeNumber? digits = some n ↔
      digits ≠ [] ∧ (∀ digit ∈ digits, digit.isDigit = true) ∧
        Nat.ofDigitChars 10 digits 0 = n := by
  rw [wholeNumber?, ← digitsValue_eq]
  split_ifs with hwhole
  · simp_all
  · simp_all

/-- Exactly the spelled words are read. -/
lemma word?_eq_some_iff {n : Nat} : word? text = some n ↔ SpellsWord text n := by
  have hcount : n < wordCount ↔ n < 2 ^ 64 := Iff.rfl
  have hplus : '+'.isDigit = false := rfl
  simp only [word?, Option.filter_eq_some_iff, wholeNumber?_eq_some_iff, decide_eq_true_eq, hcount,
    SpellsWord]
  split
  case h_1 rest htext =>
    constructor
    · rintro ⟨⟨hne, hdigits, hvalue⟩, hsmall⟩
      exact ⟨hsmall, rest, .inr htext, hne, hdigits, hvalue⟩
    · rintro ⟨hsmall, digits, hspelled | hspelled, hne, hdigits, hvalue⟩
      · -- the plus itself is no digit
        obtain rfl := htext.symm.trans hspelled
        rw [hdigits '+' List.mem_cons_self] at hplus
        cases hplus
      · obtain rfl := List.tail_eq_of_cons_eq (htext.symm.trans hspelled)
        exact ⟨⟨hne, hdigits, hvalue⟩, hsmall⟩
  case h_2 hnone =>
    constructor
    · rintro ⟨⟨hne, hdigits, hvalue⟩, hsmall⟩
      exact ⟨hsmall, text.toList, .inl rfl, hne, hdigits, hvalue⟩
    · rintro ⟨hsmall, digits, hspelled | hspelled, hne, hdigits, hvalue⟩
      · exact ⟨⟨hspelled ▸ hne, hspelled ▸ hdigits, hspelled ▸ hvalue⟩, hsmall⟩
      · exact absurd hspelled (hnone digits)

/-! ### Fields -/

/-- What a field is once its variable has been met: the value that the variable spells, and the old
one if it is not set or spells none. -/
def Takes {α : Type} (env : Environment) (name : String) (Spells : String → α → Prop)
    (old new : α) : Prop :=
  (∃ text, (name, text) ∈ env ∧ Spells text new) ∨
    new = old ∧ ∀ text value, (name, text) ∈ env → ¬ Spells text value

/-- A configuration after the overrides of an environment, field by field. -/
structure IsOverridden (env : Environment) (c after : Config) : Prop where
  dbPath : Takes env "FINDEX_STORAGE__DB_PATH" Eq c.dbPath after.dbPath
  model : Takes env "FINDEX_EMBEDDING__MODEL" Eq c.model after.model
  dimension : Takes env "FINDEX_EMBEDDING__DIMENSION" SpellsWord c.dimension after.dimension
  perSourceLimit : Takes env "FINDEX_SEARCH__PER_SOURCE_LIMIT" SpellsWord c.search.perSourceLimit
    after.search.perSourceLimit
  resultLimit : Takes env "FINDEX_SEARCH__RESULT_LIMIT" SpellsWord c.search.resultLimit
    after.search.resultLimit
  /-- The other fields are the same. -/
  others : { after with
    dbPath := c.dbPath
    model := c.model
    dimension := c.dimension
    search.perSourceLimit := c.search.perSourceLimit
    search.resultLimit := c.search.resultLimit } = c

/-- The configuration behind the values that variables have. -/
def withValues (c : Config) (value? : String → Option String) : Config :=
  { c with
    dbPath := (value? "FINDEX_STORAGE__DB_PATH").getD c.dbPath
    model := (value? "FINDEX_EMBEDDING__MODEL").getD c.model
    dimension := ((value? "FINDEX_EMBEDDING__DIMENSION").bind word?).getD c.dimension
    search.perSourceLimit :=
      ((value? "FINDEX_SEARCH__PER_SOURCE_LIMIT").bind word?).getD c.search.perSourceLimit
    search.resultLimit :=
      ((value? "FINDEX_SEARCH__RESULT_LIMIT").bind word?).getD c.search.resultLimit }

def single (name value name' : String) : Option String := if name' = name then some value else none

lemma single_of_ne {value : String} (h : name' ≠ name) : single name value name' = none := if_neg h

lemma override_of_ne (hpath : name ≠ "FINDEX_STORAGE__DB_PATH")
    (hmodel : name ≠ "FINDEX_EMBEDDING__MODEL") (hdimension : name ≠ "FINDEX_EMBEDDING__DIMENSION")
    (hperSource : name ≠ "FINDEX_SEARCH__PER_SOURCE_LIMIT")
    (hresult : name ≠ "FINDEX_SEARCH__RESULT_LIMIT") (c : Config) (value : String) :
    c.override name value = c := by
  unfold override
  split
  case h_6 => rfl
  all_goals contradiction

/-- One variable changes what its single value changes. -/
lemma override_eq (c : Config) (name value : String) :
    c.override name value = c.withValues (single name value) := by
  -- at each of the five names both sides can be computed
  rcases eq_or_ne name "FINDEX_STORAGE__DB_PATH" with rfl | hpath
  · rfl
  rcases eq_or_ne name "FINDEX_EMBEDDING__MODEL" with rfl | hmodel
  · rfl
  rcases eq_or_ne name "FINDEX_EMBEDDING__DIMENSION" with rfl | hdimension
  · rfl
  rcases eq_or_ne name "FINDEX_SEARCH__PER_SOURCE_LIMIT" with rfl | hperSource
  · rfl
  rcases eq_or_ne name "FINDEX_SEARCH__RESULT_LIMIT" with rfl | hresult
  · rfl
  rw [override_of_ne hpath hmodel hdimension hperSource hresult, withValues,
    single_of_ne hpath.symm, single_of_ne hmodel.symm, single_of_ne hdimension.symm,
    single_of_ne hperSource.symm, single_of_ne hresult.symm]
  rfl

/-- Values of different variables are met in either order. -/
lemma withValues_withValues (c : Config) {first second : String → Option String}
    (h : ∀ name, first name = none ∨ second name = none) :
    (c.withValues first).withValues second =
      c.withValues fun name => (first name).or (second name) := by
  have htext (name old : String) :
      (second name).getD ((first name).getD old) = ((first name).or (second name)).getD old := by
    rcases h name with hnone | hnone <;> simp [hnone]
  have hword (name : String) (old : Nat) :
      ((second name).bind word?).getD (((first name).bind word?).getD old) =
        (((first name).or (second name)).bind word?).getD old := by
    rcases h name with hnone | hnone <;> simp [hnone]
  simp only [withValues, htext, hword]

/-- The same values a second time change nothing. -/
lemma withValues_self (c : Config) (value? : String → Option String) :
    (c.withValues value?).withValues value? = c.withValues value? := by
  have hagain {α : Type} (x : Option α) (old : α) : x.getD (x.getD old) = x.getD old := by
    cases x <;> rfl
  simp only [withValues, hagain]

/-! ### Environments -/

lemma Environment.get?_cons (value : String) (env : Environment) (other : String) :
    Environment.get? ((name, value) :: env) other =
      (single name value other).or (env.get? other) := by
  by_cases h : other = name
  · simp [Environment.get?, single, h]
  · simp [Environment.get?, single, h, Ne.symm h]

lemma Environment.get?_eq_none (h : name ∉ env.map (·.1)) : env.get? name = none := by
  rw [Environment.get?, Option.map_eq_none_iff, List.find?_eq_none]
  intro entry hentry hname
  exact h (beq_iff_eq.mp hname ▸ List.mem_map_of_mem hentry)

/-- With distinct names, the value of a variable is the one that stands beside its name. -/
lemma Environment.get?_eq_some_iff (hdistinct : (env.map (·.1)).Nodup) :
    env.get? name = some text ↔ (name, text) ∈ env := by
  induction env with
  | nil => simp [Environment.get?]
  | cons entry env ih =>
    obtain ⟨hfresh, hdistinct⟩ := List.nodup_cons.mp hdistinct
    rw [Environment.get?_cons, List.mem_cons, ← ih hdistinct, single]
    split_ifs with hname
    · subst hname
      simp [Environment.get?_eq_none hfresh, Prod.ext_iff, eq_comm]
    · simp [Prod.ext_iff, hname]

/-- One variable after another is met as all of them at once. -/
lemma overrideAll_eq (c : Config) (hdistinct : (env.map (·.1)).Nodup) :
    c.overrideAll env = c.withValues env.get? := by
  induction env generalizing c with
  | nil => rfl
  | cons entry env ih =>
    obtain ⟨hfresh, hdistinct⟩ := List.nodup_cons.mp hdistinct
    have hapart (name : String) :
        single entry.1 entry.2 name = none ∨ Environment.get? env name = none := by
      by_cases hname : name = entry.1
      · exact .inr (Environment.get?_eq_none (hname ▸ hfresh))
      · exact .inl (single_of_ne hname)
    calc c.overrideAll (entry :: env)
        = (c.override entry.1 entry.2).overrideAll env := rfl
      _ = (c.withValues (single entry.1 entry.2)).withValues (Environment.get? env) := by
          rw [override_eq, ih _ hdistinct]
      _ = c.withValues (Environment.get? (entry :: env)) := by
          rw [withValues_withValues c hapart]
          exact congrArg c.withValues
            (funext fun name => (Environment.get?_cons entry.2 env name).symm)

lemma Environment.get?_perm (hdistinct : (env.map (·.1)).Nodup) (h : other.Perm env) :
    other.get? = env.get? := by
  have hother : (other.map (·.1)).Nodup := (h.map _).nodup_iff.mpr hdistinct
  funext name
  ext text
  rw [Environment.get?_eq_some_iff hother, Environment.get?_eq_some_iff hdistinct, h.mem_iff]

/-- A field takes the value that is read from its variable. -/
lemma takes_getD {α : Type} {read? : String → Option α} {Spells : String → α → Prop}
    (hread : ∀ text value, read? text = some value ↔ Spells text value)
    (hdistinct : (env.map (·.1)).Nodup) (name : String) (old : α) :
    Takes env name Spells old (((env.get? name).bind read?).getD old) := by
  cases hvalue : (env.get? name).bind read? with
  | some value =>
    obtain ⟨text, htext, hspells⟩ := Option.bind_eq_some_iff.mp hvalue
    exact .inl ⟨text, (Environment.get?_eq_some_iff hdistinct).mp htext,
      (hread text value).mp hspells⟩
  | none =>
    refine .inr ⟨rfl, fun text value hmem hspells => ?_⟩
    rw [(Environment.get?_eq_some_iff hdistinct).mpr hmem, Option.bind_some,
      (hread text value).mpr hspells] at hvalue
    cases hvalue

lemma takes_text (hdistinct : (env.map (·.1)).Nodup) (name old : String) :
    Takes env name Eq old ((env.get? name).getD old) := by
  have h : Takes env name Eq old (((env.get? name).bind some).getD old) :=
    takes_getD (fun _ _ => Option.some_inj) hdistinct name old
  rwa [Option.bind_fun_some] at h

lemma isOverridden_withValues (c : Config) (hdistinct : (env.map (·.1)).Nodup) :
    IsOverridden env c (c.withValues env.get?) where
  dbPath := takes_text hdistinct _ _
  model := takes_text hdistinct _ _
  dimension := takes_getD (fun _ _ => word?_eq_some_iff) hdistinct _ _
  perSourceLimit := takes_getD (fun _ _ => word?_eq_some_iff) hdistinct _ _
  resultLimit := takes_getD (fun _ _ => word?_eq_some_iff) hdistinct _ _
  others := rfl

/-- Whatever variables there are, and whatever their values, each field follows its own variable
alone. The order of the variables does not matter, and a second run through them changes nothing. -/
theorem overriding_is_fieldwise (c : Config) {env : Environment}
    (hdistinct : (env.map (·.1)).Nodup) :
    IsOverridden env c (c.overrideAll env) ∧
      (∀ other : Environment, other.Perm env → c.overrideAll other = c.overrideAll env) ∧
      (c.overrideAll env).overrideAll env = c.overrideAll env := by
  refine ⟨?_, fun other hperm => ?_, ?_⟩
  · rw [overrideAll_eq c hdistinct]
    exact isOverridden_withValues c hdistinct
  · have hother : (other.map (·.1)).Nodup := (hperm.map _).nodup_iff.mpr hdistinct
    rw [overrideAll_eq c hother, overrideAll_eq c hdistinct, Environment.get?_perm hdistinct hperm]
  · rw [overrideAll_eq c hdistinct, overrideAll_eq _ hdistinct, withValues_self]

/-- A number behind a plus with zeros in front, one beyond all words, and a name that is almost that
of a variable. -/
theorem overriding_is_fieldwise_odd_values :
    let env : Environment := [("FINDEX_EMBEDDING__DIMENSION", "+0768"),
      ("FINDEX_SEARCH__RESULT_LIMIT", "18446744073709551616"),
      ("FINDEX_SEARCH__PER_SOURCE_LIMIT", "18446744073709551615"),
      ("FINDEX_SEARCH_RESULT_LIMIT", "7")]
    let c : Config := ⟨"1.0.0", "", "", "findings.db", Model.defaultName, 384, {}⟩
    (env.map (·.1)).Nodup ∧ IsOverridden env c (c.overrideAll env) ∧
      (c.overrideAll env).dimension = 768 ∧
      (c.overrideAll env.reverse).search.resultLimit = 20 ∧
      (c.overrideAll env.reverse).search.perSourceLimit = 18446744073709551615 := by
  intro env c
  have hdistinct : (env.map (·.1)).Nodup := by decide
  obtain ⟨hoverridden, horder, -⟩ := overriding_is_fieldwise c hdistinct
  have hreverse := horder env.reverse (List.reverse_perm env)
  rw [hreverse]
  exact ⟨hdistinct, hoverridden, by decide +kernel, by decide +kernel, by decide +kernel⟩

end Findings.Config
