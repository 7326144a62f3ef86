import Findings.Proofs.Lexical.Matching
import Findings.Proofs.Lexical.Reading
import Findings.Proofs.Search.Legs
import Findings.Proofs.Store.Runs

/-!
# Findings by their words

A search by words gives the findings that have every searched term of a text, in order of their
scores. Their scores do not depend on the filter by kind or on the limit: the one takes hits out,
the other cuts them off behind it, and the places are counted anew.
-/
namespace Findings.Search

open Findings.Lexical
open Findings.Record
open Findings.Store
open Findings.Text

variable {t : Tables} {text : String} {kind : Option Kind}

/-- The terms of a text that are searched for: those with a letter or number and with a token. -/
def searchedTerms (text : String) : List (List Char) :=
  (terms text.toList).filter fun term => term.any isAlphanumeric && !(tokens term).isEmpty

/-- The tokens of the term stand side by side in the content, the context or the kind. -/
def HasTerm (row : Row) (term : List Char) : Prop :=
  ∃ column ∈ [row.content, row.context.getD "", row.kind],
    tokens term <:+: tokens column.toList

/-- A finding matches a text if it has every searched term; without any, none does. -/
def Matches (text : String) (row : Row) : Prop :=
  searchedTerms text ≠ [] ∧ ∀ term ∈ searchedTerms text, HasTerm row term

/-- The phrases of a query are the tokens of its searched terms. -/
lemma phrases_searchWords (text : String) :
    phrases (searchWords text) = (searchedTerms text).map tokens := by
  rw [phrases, searchWords_eq_filter_terms, searchedTerms, List.filter_map, List.filter_filter]
  congr 1
  apply List.filter_congr
  intro term _
  exact Bool.and_comm _ _

/-- The entry of a finding contains the tokens of a term if the finding has the term. -/
lemma contains_entry_iff {row : Row} {term : List Char} (hterm : term ∈ searchedTerms text) :
    row.entry.indexed.contains (tokens term) = true ↔ HasTerm row term := by
  have hne : tokens term ≠ [] := by
    have hkept := (List.mem_filter.mp hterm).2
    simp only [Bool.and_eq_true, Bool.not_eq_true', List.isEmpty_eq_false_iff] at hkept
    exact hkept.2
  simp [contains_phrase_iff hne, Entry.indexed, Row.entry, HasTerm]

/-- The entries of the index are those of the findings as they are now. -/
lemma indexed_eq (h : Coherent t) :
    t.lexical.map Entry.indexed = t.findings.map fun row => row.entry.indexed := by
  rw [h.indexed, List.map_map]
  rfl

/-! ### Places -/

def WordHit.scored (hit : WordHit) : Int × Number.Double := (hit.id, hit.score)

/-- The hits with their places counted anew from one. -/
def renumbered (hits : List WordHit) : List WordHit :=
  hits.mapIdx fun i hit => { hit with rank := i + 1 }

lemma placed_eq_mapIdx (rank : Nat) (found : List (Int × Number.Double)) :
    placed rank found = found.mapIdx fun i scored => ⟨scored.1, rank + i, scored.2⟩ := by
  induction found generalizing rank with
  | nil => rfl
  | cons scored found ih =>
    rw [placed, ih, List.mapIdx_cons]
    simp only [Nat.add_zero, Nat.add_assoc, Nat.add_comm 1]

@[simp] lemma length_placed (rank : Nat) (found : List (Int × Number.Double)) :
    (placed rank found).length = found.length := by
  rw [placed_eq_mapIdx, List.length_mapIdx]

@[simp] lemma map_scored_placed (rank : Nat) (found : List (Int × Number.Double)) :
    (placed rank found).map WordHit.scored = found := by
  induction found generalizing rank with
  | nil => rfl
  | cons scored found ih => simp [placed, ih, WordHit.scored]

lemma map_rank_placed (rank : Nat) (found : List (Int × Number.Double)) :
    (placed rank found).map (·.rank) = List.range' rank found.length := by
  induction found generalizing rank with
  | nil => rfl
  | cons scored found ih => simp [placed, ih, List.range'_succ]

lemma renumbered_eq (hits : List WordHit) : renumbered hits = placed 1 (hits.map WordHit.scored) := by
  rw [placed_eq_mapIdx, renumbered]
  apply List.ext_getElem
  · simp
  · intro i _ _
    simp [WordHit.scored, Nat.add_comm]

lemma placed_take (rank count : Nat) (found : List (Int × Number.Double)) :
    placed rank (found.take count) = (placed rank found).take count := by
  induction found generalizing rank count with
  | nil => simp [placed]
  | cons scored found ih =>
    cases count with
    | zero => rfl
    | succ count => simp [placed, ih]

/-- Taking hits out leaves the others with their scores. -/
lemma map_scored_filter (wanted : Int → Bool) (found : List (Int × Number.Double)) :
    ((placed 1 found).filter fun hit => wanted hit.id).map WordHit.scored =
      found.filter fun scored => wanted scored.1 := by
  have hsplit := List.filter_map (p := fun scored : Int × Number.Double => wanted scored.1)
    (f := WordHit.scored) (l := placed 1 found)
  rw [map_scored_placed] at hsplit
  exact hsplit.symm

/-! ### All matching findings -/

/-- The scored findings that a text finds. -/
def foundBy (t : Tables) (text : String) : List (Int × Number.Double) :=
  ranked (t.lexical.map Entry.indexed) (phrases (searchWords text))

/-- A search by words takes the wanted ones of the scored findings and cuts them off. -/
theorem byWords_store (hreadable : IsReadable text) (limit : Nat) (kind : Option Kind) :
    byWords text limit kind t.store =
      (.ok (placed 1 (((foundBy t text).filter fun scored =>
        isWanted t.findings kind scored.1).take limit)), t.store) := by
  cases hescape : escape text with
  | none =>
    have hwords := escape_eq_none_iff.mp hescape
    have hnone : foundBy t text = [] := by
      simp [foundBy, hwords, phrases, ranked, matching]
    simp [byWords, hescape, hnone, placed]
  | some query =>
    have hwords := queryWords_of_escape hreadable hescape
    simp only [byWords, hescape, bind_apply, get_apply, require_lexical, require_findings,
      pure_apply, step_ite, hwords, liftFault_ok]
    -- a limit of zero is answered before the query is read
    by_cases hlimit : limit = 0
    · rw [if_pos hlimit, hlimit, List.take_zero]
      rfl
    · rw [if_neg hlimit]
      rfl

/-- All findings that match a text, as a search by words gives them. -/
structure AreMatches (t : Tables) (text : String) (all : List WordHit) : Prop where
  found : ∀ id, id ∈ all.map (·.id) ↔ ∃ row ∈ t.findings, row.id = id ∧ Matches text row
  once : (all.map (·.id)).Nodup
  ranks : all.map (·.rank) = List.range' 1 all.length
  /-- The score is taken over all findings as they are now. -/
  scores : ∀ hit ∈ all, ∃ row ∈ t.findings, row.id = hit.id ∧
    hit.score = bm25 (t.findings.map fun row => row.entry.indexed)
      ((searchedTerms text).map tokens) row.entry.indexed
  rising : all.Pairwise fun a b =>
    a.score.orderKey < b.score.orderKey ∨ a.score = b.score ∧ a.id < b.id

/-- A scored finding is one that matches, with its score. -/
lemma mem_foundBy (h : Coherent t) {scored : Int × Number.Double} :
    scored ∈ foundBy t text ↔ ∃ row ∈ t.findings, Matches text row ∧
      scored = (row.id, bm25 (t.findings.map fun row => row.entry.indexed)
        ((searchedTerms text).map tokens) row.entry.indexed) := by
  rw [foundBy, mem_ranked, mem_matching, phrases_searchWords, indexed_eq h]
  simp only [ne_eq, List.map_eq_nil_iff, List.forall_mem_map, Matches]
  constructor
  · intro ⟨hsome, entry, hentry, hall, hscored⟩
    obtain ⟨row, hrow, rfl⟩ := List.mem_map.mp hentry
    refine ⟨row, hrow, ⟨hsome, fun term hterm => ?_⟩, hscored⟩
    exact (contains_entry_iff hterm).mp (hall term hterm)
  · intro ⟨row, hrow, ⟨hsome, hall⟩, hscored⟩
    refine ⟨hsome, _, List.mem_map_of_mem hrow, fun term hterm => ?_, hscored⟩
    exact (contains_entry_iff hterm).mpr (hall term hterm)

/-- The scored findings with their places are all matches. -/
theorem areMatches_placed (h : Coherent t) (text : String) :
    AreMatches t text (placed 1 (foundBy t text)) := by
  have honce : ((foundBy t text).map (·.1)).Nodup := nodup_ranked (nodup_index h) _
  constructor
  case found =>
    intro id
    simp only [map_id_placed, List.mem_map, mem_foundBy h]
    constructor
    · intro ⟨scored, ⟨row, hrow, hmatches, hscored⟩, hid⟩
      rw [hscored] at hid
      exact ⟨row, hrow, hid, hmatches⟩
    · intro ⟨row, hrow, hid, hmatches⟩
      exact ⟨_, ⟨row, hrow, hmatches, rfl⟩, hid⟩
  case once => rwa [map_id_placed]
  case ranks =>
    rw [map_rank_placed, length_placed]
  case scores =>
    intro hit hhit
    have hmem := List.mem_map_of_mem (f := WordHit.scored) hhit
    rw [map_scored_placed] at hmem
    obtain ⟨row, hrow, -, hscored⟩ := (mem_foundBy h).mp hmem
    obtain ⟨hid, hscore⟩ := Prod.mk.inj hscored
    exact ⟨row, hrow, hid.symm, hscore⟩
  case rising =>
    have hsorted := pairwise_ranked (t.lexical.map Entry.indexed) (phrases (searchWords text))
    have hdistinct : (foundBy t text).Pairwise fun a b => a.1 ≠ b.1 := List.pairwise_map.mp honce
    have hrising : (foundBy t text).Pairwise fun a b =>
        a.2.orderKey < b.2.orderKey ∨ a.2 = b.2 ∧ a.1 < b.1 := by
      apply (List.Pairwise.and hsorted hdistinct).imp
      intro a b hboth
      -- the order is strict because no id comes twice
      obtain hlt | ⟨hkey, hle⟩ := scoredLE_iff.mp hboth.1
      · exact .inl hlt
      · have hne := hboth.2
        exact .inr ⟨Number.Binary.orderKey_inj hkey, by omega⟩
    rw [← map_scored_placed 1 (foundBy t text)] at hrising
    exact List.pairwise_map.mp hrising

/-- What all searches by words for one text give: all matching findings, and with a kind and a
limit the first of those of the kind. -/
structure AnswersFrom (t : Tables) (text : String) (all : List WordHit) : Prop where
  whole : ∀ limit, all.length ≤ limit → byWords text limit none t.store = (.ok all, t.store)
  /-- The filter acts before the cutoff, and neither changes a score. -/
  part : ∀ limit kind, byWords text limit kind t.store =
    (.ok (renumbered ((all.filter fun hit => isWanted t.findings kind hit.id).take limit)),
      t.store)
  /-- A larger limit only appends hits. -/
  appends : ∀ kind smaller larger, smaller ≤ larger → ∃ first more,
    byWords text smaller kind t.store = (.ok first, t.store) ∧
      byWords text larger kind t.store = (.ok more, t.store) ∧ first <+: more

theorem answersFrom_placed (h : Coherent t) (hreadable : IsReadable text) :
    AnswersFrom t text (placed 1 (foundBy t text)) := by
  constructor
  case whole =>
    intro limit hlimit
    have hall : ((foundBy t text).filter fun scored => isWanted t.findings none scored.1) =
        foundBy t text := by
      apply List.filter_eq_self.mpr
      intro scored hscored
      obtain ⟨row, hrow, -, rfl⟩ := (mem_foundBy h).mp hscored
      exact isWanted_none ⟨row, hrow, rfl⟩
    rw [length_placed] at hlimit
    rw [byWords_store hreadable, hall, List.take_of_length_le hlimit]
  case part =>
    intro limit kind
    rw [byWords_store hreadable, renumbered_eq, List.map_take, map_scored_filter]
  case appends =>
    intro kind smaller larger hle
    refine ⟨_, _, byWords_store hreadable smaller kind, byWords_store hreadable larger kind, ?_⟩
    rw [placed_take, placed_take]
    exact List.take_prefix_take_left hle

/-- In every reachable store with a schema, a search by words for a text without the character zero
gives exactly the matching findings, and with a kind and a limit the first of those of the kind. -/
theorem matching_findings_given {s : Store} (hs : Reachable s) (hschema : s.hasSchema = true) :
    ∃ t : Tables, s = t.store ∧ Coherent t ∧ ∀ text : String, '\x00' ∉ text.toList →
      ∃ all, AreMatches t text all ∧ AnswersFrom t text all := by
  obtain rfl | ⟨dimension, t, rfl, ht, -⟩ := reachable_cases hs
  · exact absurd hschema Bool.false_ne_true
  · refine ⟨t, rfl, ht, fun text hzero => ?_⟩
    exact ⟨_, areMatches_placed ht text, answersFrom_placed ht (isReadable_of_not_mem hzero)⟩

/-- A store of two findings with the same words, in different order. -/
def sameWords : Store :=
  let handle : Handle := ⟨"findings.db", 1⟩
  let finding content : NewFinding := { session := "s1", kind := .nitpick, content, severity := .low }
  run [.applySchema handle, .insert handle (finding "leak of memory") none,
    .insert handle (finding "Memory leak") none] {}

/-- Words with a hyphen between them have to stand side by side. -/
theorem matching_findings_given_hyphen :
    Reachable sameWords ∧ sameWords.hasSchema = true ∧ '\x00' ∉ "memory-leak".toList ∧
      ∃ (t : Tables) (all : List WordHit), sameWords = t.store ∧
        AreMatches t "memory-leak" all ∧ AnswersFrom t "memory-leak" all ∧
        all.map (·.id) = [2] := by
  have hreachable : Reachable sameWords := ⟨_, rfl⟩
  have hschema : sameWords.hasSchema = true := rfl
  have hzero : '\x00' ∉ "memory-leak".toList := by decide
  obtain ⟨t, ht, -, hgiven⟩ := matching_findings_given hreachable hschema
  obtain ⟨all, hmatches, hanswers⟩ := hgiven "memory-leak" hzero
  have hids : sameWords.findings.map (·.map (·.id)) = some [1, 2] := by decide +kernel
  have hlive : t.findings.map (·.id) = [1, 2] := by
    rw [ht] at hids
    exact Option.some.inj hids
  have hfew : (all.map (·.id)).length ≤ [(1 : Int), 2].length := by
    apply (List.subperm_of_subset hmatches.once _).length_le
    intro id hid
    obtain ⟨row, hrow, rfl, -⟩ := (hmatches.found id).mp hid
    exact hlive ▸ List.mem_map_of_mem hrow
  rw [List.length_map] at hfew
  have hread : ((byWords "memory-leak" 2 none sameWords).1.toOption.map fun hits =>
      hits.map (·.id)) = some [2] := by
    decide +kernel
  rw [ht, hanswers.whole 2 hfew] at hread
  exact ⟨hreachable, hschema, hzero, t, all, ht, hmatches, hanswers, Option.some.inj hread⟩

end Findings.Search
