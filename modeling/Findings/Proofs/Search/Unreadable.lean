import Findings.Proofs.Search.ByWords

/-!
# Texts that a search by words refuses

Escaping puts a word with a sign in quotes, and inside of quotes no sign has a meaning. The
character zero is the exception: the reader of queries ends there, and misses the closing quote. So
a search by words fails for a text with a searchable word that has this character, and for no other;
the hybrid search goes on without hits by words then.
-/
namespace Findings.Search

open Findings.Lexical
open Findings.Record
open Findings.Store
open Findings.Text

variable {t : Tables} {text : String}

lemma isReadable_of_escape_eq_none (h : escape text = none) : IsReadable text := by
  intro word hword
  simp [escape_eq_none_iff.mp h] at hword

/-- The query of a text is read as its searchable words, or not at all. -/
theorem queryWords_escape {query : String} (h : escape text = some query) :
    (IsReadable text ∧ queryWords query = .ok (searchWords text)) ∨
      (¬ IsReadable text ∧ queryWords query = .error .unterminatedText) := by
  by_cases hreadable : IsReadable text
  · exact .inl ⟨hreadable, queryWords_of_escape hreadable h⟩
  · exact .inr ⟨hreadable, queryWords_of_unreadable hreadable h⟩

/-- A limit of zero is answered before the query is read. -/
lemma byWords_zero (text : String) (kind : Option Kind) :
    byWords text 0 kind t.store = (.ok [], t.store) := by
  cases hescape : escape text with
  | none => simp [byWords, hescape]
  | some query => simp [byWords, hescape, require_lexical, require_findings]

/-- With any other limit, a text with the character zero in a searchable word is refused. -/
lemma byWords_unreadable (hreadable : ¬ IsReadable text) {limit : Nat} (hlimit : limit ≠ 0)
    (kind : Option Kind) :
    byWords text limit kind t.store = (.error (.table .unterminatedText), t.store) := by
  cases hescape : escape text with
  | none => exact absurd (isReadable_of_escape_eq_none hescape) hreadable
  | some query =>
    simp [byWords, hescape, require_lexical, require_findings, hlimit,
      queryWords_of_unreadable hreadable hescape]

/-- When a search by words gives an answer in a store, and what it fails with otherwise. -/
structure FailsExactly (text : String) (limit : Nat) (kind : Option Kind) (s : Store) : Prop where
  /-- A text without a searchable word finds nothing. -/
  unasked : escape text = none → byWords text limit kind s = (.ok [], s)
  read : ∀ query, escape text = some query →
    (IsReadable text ∧ queryWords query = .ok (searchWords text)) ∨
      (¬ IsReadable text ∧ queryWords query = .error .unterminatedText)
  answered : limit = 0 ∨ IsReadable text →
    ∃ hits, byWords text limit kind s = (.ok hits, s) ∧ wordHits text limit kind s = (.ok hits, s)
  refused : limit ≠ 0 ∧ ¬ IsReadable text →
    byWords text limit kind s = (.error (.table .unterminatedText), s) ∧
      wordHits text limit kind s = (.ok [], s)

/-- In every reachable store with a schema, a search by words gives an answer for every text, limit
and filter, except for a text with the character zero in a searchable word and a limit above zero.
It then fails with the unterminated text, and a hybrid search has no hits by words. -/
theorem byWords_fails_exactly {s : Store} (hs : Reachable s) (hschema : s.hasSchema = true)
    (text : String) (limit : Nat) (kind : Option Kind) : FailsExactly text limit kind s := by
  obtain rfl | ⟨dimension, t, rfl, ht, -⟩ := reachable_cases hs
  · exact absurd hschema Bool.false_ne_true
  · constructor
    case unasked =>
      intro hescape
      simp [byWords, hescape]
    case read => exact fun query hquery => queryWords_escape hquery
    case answered =>
      intro hanswered
      have hok : ∃ hits, byWords text limit kind t.store = (.ok hits, t.store) := by
        rcases hanswered with rfl | hreadable
        · exact ⟨_, byWords_zero text kind⟩
        · exact ⟨_, byWords_store hreadable limit kind⟩
      obtain ⟨hits, hok⟩ := hok
      exact ⟨hits, hok, by rw [wordHits_store, hok]; rfl⟩
    case refused =>
      rintro ⟨hlimit, hreadable⟩
      have hfails := byWords_unreadable (t := t) hreadable hlimit kind
      exact ⟨hfails, by rw [wordHits_store, hfails]; rfl⟩

def oneLeak : Store :=
  run [.applySchema ⟨"findings.db", 1⟩, .insert ⟨"findings.db", 1⟩
    { session := "s1", kind := .praise, content := "leak a b", severity := .low } none] {}

/-- A finding that has every searched term of a text is not found, because of the character zero in
one of them. -/
theorem byWords_refuses_matching :
    Reachable oneLeak ∧ oneLeak.hasSchema = true ∧
      (∃ rows, oneLeak.findings = some rows ∧ ∃ row ∈ rows, Matches "leak a\x00b" row) ∧
      (byWords "leak a\x00b" 10 none oneLeak).1 = .error (.table .unterminatedText) ∧
      (wordHits "leak a\x00b" 10 none oneLeak).1 = .ok [] := by
  refine ⟨⟨_, rfl⟩, rfl, ⟨_, rfl, _, List.mem_cons_self, ?_⟩, ?_, ?_⟩
  · exact ⟨by decide +kernel, by unfold HasTerm; decide +kernel⟩
  · decide +kernel
  · decide +kernel

/-- One store in which one text finds nothing, one is read and one is refused. -/
theorem byWords_fails_exactly_of_each_kind :
    Reachable oneLeak ∧ oneLeak.hasSchema = true ∧
      byWords "- \x00 *" 10 none oneLeak = (.ok [], oneLeak) ∧
      (∃ hits, byWords "\"leak\" \x00" 10 none oneLeak = (.ok hits, oneLeak)) ∧
      byWords "a\x00b" 10 none oneLeak = (.error (.table .unterminatedText), oneLeak) := by
  have hreachable : Reachable oneLeak := ⟨_, rfl⟩
  have hschema : oneLeak.hasSchema = true := rfl
  have hfails := byWords_fails_exactly hreachable hschema
  have hnone : escape "- \x00 *" = none := by decide +kernel
  have hread : IsReadable "\"leak\" \x00" := by unfold IsReadable; decide +kernel
  have hunread : ¬ IsReadable "a\x00b" := by unfold IsReadable; decide +kernel
  obtain ⟨hits, hok, -⟩ := (hfails _ 10 none).answered (.inr hread)
  exact ⟨hreachable, hschema, (hfails _ 10 none).unasked hnone, ⟨hits, hok⟩,
    ((hfails _ 10 none).refused ⟨by decide, hunread⟩).1⟩

end Findings.Search
