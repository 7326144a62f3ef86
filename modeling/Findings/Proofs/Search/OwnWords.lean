import Findings.Proofs.Lexical.Tokens
import Findings.Proofs.Search.ByWords

/-!
# A finding is found by its own words

A text made of words of the content of a finding, in any order and however often, finds it: the
tokens of each word stand side by side in the content, so the finding matches, and a limit that no
number of hits exceeds cuts nothing off.
-/
namespace Findings.Search

open Findings.Lexical
open Findings.Record
open Findings.Store
open Findings.Text

variable {t : Tables} {row : Row} {text : String}

/-- Words of a content without the character zero make a text that is read as its words. -/
lemma isReadable_of_words {content : String} (hzero : '\x00' ∉ content.toList)
    (hown : ∀ word ∈ words text.toList, word ∈ words content.toList) : IsReadable text := by
  intro word hword hmem
  have hterm := (mem_words_iff.mp (hown word (List.mem_filter.mp hword).1)).1
  exact hzero (subset_of_mem_terms hterm hmem)

/-- A finding matches a text of words of its content, one of which has an ASCII letter or digit. -/
lemma matches_own_words (hown : ∀ word ∈ words text.toList, word ∈ words row.content.toList)
    (hascii : ∃ word ∈ words text.toList, ∃ c ∈ word, c.isAlphanum = true) : Matches text row := by
  constructor
  · obtain ⟨word, hword, c, hc, hc'⟩ := hascii
    have hany : word.any isAlphanumeric = true :=
      List.any_eq_true.mpr ⟨c, hc, isAlphanumeric_of_ascii hc'⟩
    refine List.ne_nil_of_mem (a := word) (List.mem_filter.mpr ⟨(mem_words_iff.mp hword).1, ?_⟩)
    simp [hany, tokens_ne_nil_of_ascii hc hc']
  · intro term hterm
    obtain ⟨hmem, hkept⟩ := List.mem_filter.mp hterm
    have hne : term ≠ [] := by
      rintro rfl
      simp at hkept
    have hown := (mem_words_iff.mp (hown term (mem_words_iff.mpr ⟨hmem, hne⟩))).1
    exact ⟨row.content, List.mem_cons_self, tokens_infix_of_mem_terms hown⟩

/-- A text finds no more findings than there are. -/
lemma length_foundBy_le (h : Coherent t) (text : String) :
    (foundBy t text).length ≤ t.findings.length := by
  have honce : ((foundBy t text).map (·.1)).Nodup := nodup_ranked (nodup_index h) _
  have hsubset : (foundBy t text).map (·.1) ⊆ t.findings.map (·.id) := by
    intro id hid
    obtain ⟨scored, hscored, rfl⟩ := List.mem_map.mp hid
    obtain ⟨row, hrow, -, rfl⟩ := (mem_foundBy h).mp hscored
    exact List.mem_map_of_mem hrow
  simpa using (List.subperm_of_subset honce hsubset).length_le

/-- In every reachable store, a finding whose content has no character zero is found by any text
made of words of its content, whatever signs or operators they are: by a search with no filter or
with its own kind, and with a limit of at least the number of findings. One of the words has to have
an ASCII letter or digit. -/
theorem found_by_own_words {s : Store} (hs : Reachable s) {rows : List Row}
    (hrows : s.findings = some rows) {row : Row} (hrow : row ∈ rows)
    (hzero : '\x00' ∉ row.content.toList) {text : String}
    (hown : ∀ word ∈ words text.toList, word ∈ words row.content.toList)
    (hascii : ∃ word ∈ words text.toList, ∃ c ∈ word, c.isAlphanum = true) {limit : Nat}
    (hlimit : rows.length ≤ limit) {kind : Option Kind} (hkind : ∀ k ∈ kind, row.kind = k.name) :
    ∃ hits, byWords text limit kind s = (.ok hits, s) ∧ row.id ∈ hits.map (·.id) := by
  obtain rfl | ⟨dimension, t, rfl, ht, -⟩ := reachable_cases hs
  · cases hrows
  · obtain rfl : t.findings = rows := Option.some.inj hrows
    have hfound := (mem_foundBy ht).mpr ⟨row, hrow, matches_own_words hown hascii, rfl⟩
    refine ⟨_, byWords_store (isReadable_of_words hzero hown) limit kind, ?_⟩
    rw [map_id_placed, List.take_of_length_le]
    · have hwanted := isWanted_iff.mpr ⟨row, hrow, rfl, hkind⟩
      exact List.mem_map.mpr ⟨_, List.mem_filter.mpr ⟨hfound, hwanted⟩, rfl⟩
    · exact (List.length_filter_le _ _).trans ((length_foundBy_le ht text).trans hlimit)

/-- A store of two findings, one of which has quotes, an operator and signs in its words. -/
def signWords : Store :=
  let handle : Handle := ⟨"findings.db", 1⟩
  let finding content : NewFinding := { session := "s1", kind := .praise, content, severity := .low }
  run [.applySchema handle, .insert handle (finding "Say \"hi\" AND foo* (ünï:x)") none,
    .insert handle (finding "foo") none] {}

/-- An operator, a quoted word and a sign, each meant literally and one of them twice. -/
theorem found_by_own_words_signs :
    Reachable signWords ∧ ∃ rows row, signWords.findings = some rows ∧ row ∈ rows ∧ row.id = 1 ∧
      rows.length ≤ 2 ∧ '\x00' ∉ row.content.toList ∧
      (∀ word ∈ words "AND\tfoo* \"hi\"  foo*".toList, word ∈ words row.content.toList) ∧
      (∃ word ∈ words "AND\tfoo* \"hi\"  foo*".toList, ∃ c ∈ word, c.isAlphanum = true) ∧
      (∀ kind ∈ some Kind.praise, row.kind = kind.name) ∧
      ∃ hits, byWords "AND\tfoo* \"hi\"  foo*" 2 (some .praise) signWords =
          (.ok hits, signWords) ∧
        row.id ∈ hits.map (·.id) := by
  have hreachable : Reachable signWords := ⟨_, rfl⟩
  have hown : ∀ word ∈ words "AND\tfoo* \"hi\"  foo*".toList,
      word ∈ words "Say \"hi\" AND foo* (ünï:x)".toList := by
    decide +kernel
  have hascii : ∃ word ∈ words "AND\tfoo* \"hi\"  foo*".toList, ∃ c ∈ word, c.isAlphanum = true :=
    ⟨"AND".toList, by decide +kernel, 'A', by decide +kernel, rfl⟩
  have hzero : '\x00' ∉ "Say \"hi\" AND foo* (ünï:x)".toList := by decide +kernel
  have hkind : ∀ kind ∈ some Kind.praise, Kind.praise.name = kind.name := by
    rintro kind ⟨⟩
    rfl
  exact ⟨hreachable, _, _, rfl, List.mem_cons_self, rfl, Nat.le_refl 2, hzero, hown, hascii, hkind,
    found_by_own_words hreachable rfl List.mem_cons_self hzero hown hascii (Nat.le_refl 2) hkind⟩

end Findings.Search
