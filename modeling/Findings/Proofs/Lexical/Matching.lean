import Findings.Lexical.Ranking
import Mathlib.Data.List.Infix
import Mathlib.Data.List.Nodup
import Mathlib.Tactic.Common

/-!
# Entries that match

A phrase occurs in an entry if its tokens stand side by side in one of the texts. The entries with
all phrases are ranked by score and then by id, and their scores are taken over all entries.
-/
namespace Findings.Lexical

/-- A phrase occurs in a text where its tokens stand side by side. -/
lemma occurrences_pos_iff {phrase : Phrase} (hne : phrase ≠ []) (column : List Token) :
    0 < occurrences phrase column ↔ phrase <:+: column := by
  induction column with
  | nil => simp [occurrences, hne]
  | cons token rest ih =>
    rw [List.infix_cons_iff, ← List.isPrefixOf_iff_prefix, ← ih, occurrences]
    split_ifs with hfront
    · simp only [hfront, true_or, iff_true]
      omega
    · simp [hfront]

lemma total_pos_iff (numbers : List Nat) : 0 < total numbers ↔ ∃ n ∈ numbers, 0 < n := by
  induction numbers with
  | nil => simp [total]
  | cons n numbers ih =>
    have hsum : total (n :: numbers) = n + total numbers := rfl
    rw [hsum, List.exists_mem_cons_iff, ← ih]
    omega

/-- An entry has a phrase if one of its texts has it. -/
theorem contains_phrase_iff {phrase : Phrase} (hne : phrase ≠ []) (e : Indexed) :
    e.contains phrase = true ↔ ∃ column ∈ e.columns, phrase <:+: column := by
  simp [Indexed.contains, Indexed.frequency, total_pos_iff, occurrences_pos_iff hne]

/-- The score of an entry among the entries of an index for phrases. -/
def bm25 (index : List Indexed) (phrases : List Phrase) (e : Indexed) : Number.Double :=
  score (phrases.map fun phrase =>
      (phrase, weight index.length (index.countP (·.contains phrase))))
    ((Number.Binary.ofNat (total (index.map Indexed.size))).div
      (Number.Binary.ofNat index.length)) e

/-- Scored entries are those with all phrases. -/
lemma mem_matching {index : List Indexed} {phrases : List Phrase} {scored : Int × Number.Double} :
    scored ∈ matching index phrases ↔
      phrases ≠ [] ∧ ∃ e ∈ index, (∀ phrase ∈ phrases, e.contains phrase = true) ∧
        scored = (e.id, bm25 index phrases e) := by
  unfold matching
  by_cases hnone : phrases = []
  · simp [hnone]
  · simp only [List.isEmpty_iff, hnone, if_false, ne_eq, not_false_iff, true_and, List.mem_map,
      List.mem_filter, List.all_eq_true, and_assoc, eq_comm (b := scored)]
    rfl

lemma mem_ranked {index : List Indexed} {phrases : List Phrase} {scored : Int × Number.Double} :
    scored ∈ ranked index phrases ↔ scored ∈ matching index phrases :=
  (List.mergeSort_perm _ _).mem_iff

lemma scoredLE_iff {a b : Int × Number.Double} :
    scoredLE a b = true ↔ a.2.orderKey < b.2.orderKey ∨
      a.2.orderKey = b.2.orderKey ∧ a.1 ≤ b.1 := by
  have hkey : a.2 = b.2 ↔ a.2.orderKey = b.2.orderKey :=
    ⟨congrArg _, Number.Binary.orderKey_inj⟩
  simp [scoredLE, hkey]

lemma scoredLE_trans (a b c : Int × Number.Double) (hab : scoredLE a b = true)
    (hbc : scoredLE b c = true) : scoredLE a c = true := by
  rw [scoredLE_iff] at *
  omega

lemma scoredLE_total (a b : Int × Number.Double) : (scoredLE a b || scoredLE b a) = true := by
  simp only [Bool.or_eq_true, scoredLE_iff]
  omega

lemma pairwise_ranked (index : List Indexed) (phrases : List Phrase) :
    (ranked index phrases).Pairwise fun a b => scoredLE a b = true :=
  List.pairwise_mergeSort scoredLE_trans scoredLE_total _

end Findings.Lexical
