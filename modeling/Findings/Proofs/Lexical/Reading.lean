import Findings.Lexical.Escape
import Findings.Lexical.Query
import Mathlib.Tactic.Common

/-!
# Reading escaped queries

The reader of queries undoes escaping. A plain word is a run of bare characters that is no
operator, and the characters of any other word stand in quotes; in both cases the reader is back
between parts behind the word, at the space that separates it from the next one. So an escaped text
means each of its searchable words literally, and holds neither an operator nor a sign.
-/
namespace Findings.Lexical

open Findings.Text

/-- The terms of a text: what stands between white space, the empty terms included. -/
def terms (cs : List Char) : List (List Char) := cs.splitOnP isBlank

lemma terms_cons (c : Char) (cs : List Char) :
    terms (c :: cs) =
      if isBlank c then [] :: terms cs else (terms cs).modifyHead (c :: ·) :=
  List.splitOnP_cons_eq_if_modifyHead c cs

/-- A term has only characters of its text. -/
lemma subset_of_mem_terms {cs term : List Char} (h : term ∈ terms cs) : term ⊆ cs := by
  induction cs generalizing term with
  | nil =>
    obtain rfl : term = [] := by simpa [terms] using h
    exact List.nil_subset []
  | cons c cs ih =>
    have hne : terms cs ≠ [] := List.splitOnP_ne_nil isBlank cs
    obtain ⟨first, rest, hterms⟩ := List.exists_cons_of_ne_nil hne
    rw [terms_cons, hterms] at h
    split at h
    · rcases List.mem_cons.mp h with rfl | h
      · exact List.nil_subset _
      · exact List.Subset.trans (ih (hterms ▸ h)) (List.subset_cons_self c cs)
    · rw [List.modifyHead_cons] at h
      rcases List.mem_cons.mp h with rfl | h
      · exact List.cons_subset_cons c (ih (hterms ▸ List.mem_cons_self))
      · exact List.Subset.trans (ih (hterms ▸ List.mem_cons_of_mem _ h)) (List.subset_cons_self c cs)

/-- The first word and the later words are the first term and the later terms that are not
empty. -/
lemma exists_terms (cs : List Char) :
    ∃ rest, terms cs = (splitWords cs).1 :: rest ∧
      (splitWords cs).2 = rest.filter fun term => !term.isEmpty := by
  induction cs with
  | nil => exact ⟨[], rfl, rfl⟩
  | cons c cs ih =>
    obtain ⟨rest, hterms, hlater⟩ := ih
    cases hblank : isBlank c with
    | true =>
      refine ⟨(splitWords cs).1 :: rest, by simp [terms_cons, hblank, hterms, splitWords], ?_⟩
      cases hword : (splitWords cs).1 <;> simp [splitWords, hblank, consWord, hlater, hword]
    | false =>
      exact ⟨rest, by simp [terms_cons, hblank, hterms, splitWords],
        by simp [splitWords, hblank, hlater]⟩

/-- The words of a text are its terms that are not empty. -/
theorem words_eq_filter_terms (cs : List Char) :
    words cs = (terms cs).filter fun term => !term.isEmpty := by
  obtain ⟨rest, hterms, hlater⟩ := exists_terms cs
  rw [words, hlater, hterms]
  cases hword : (splitWords cs).1 <;> simp [consWord]

lemma mem_words_iff {cs word : List Char} : word ∈ words cs ↔ word ∈ terms cs ∧ word ≠ [] := by
  rw [words_eq_filter_terms, List.mem_filter]
  simp

/-- The searchable words of a text are its terms with a letter or number. -/
theorem searchWords_eq_filter_terms (s : String) :
    searchWords s = (terms s.toList).filter (·.any isAlphanumeric) := by
  rw [searchWords, words_eq_filter_terms, List.filter_filter]
  refine List.filter_congr fun term _ => ?_
  cases term <;> simp

/-- A searchable word has a letter or number and only characters of the text. -/
lemma mem_searchWords {s : String} {word : List Char} (h : word ∈ searchWords s) :
    word.any isAlphanumeric = true ∧ word ⊆ s.toList := by
  rw [searchWords_eq_filter_terms, List.mem_filter] at h
  exact ⟨h.2, subset_of_mem_terms h.1⟩

/-- What may stand behind a word: the end of the query, or a space and the next word. -/
def EndsWord (rest : List Char) : Prop := rest = [] ∨ ∃ later, rest = ' ' :: later

/-- What the reader makes of a word and of what stands behind it. -/
def wordThen (word rest : List Char) : Except TableFault (List QueryPart) :=
  (readParts .between rest.tail).map (.word word :: ·)

lemma readParts_bare {word rest reversed : List Char} (hbare : ∀ c ∈ word, isBareChar c = true)
    (hzero : '\x00' ∉ word) :
    readParts (.bare reversed) (word ++ rest) =
      readParts (.bare (word.reverse ++ reversed)) rest := by
  induction word generalizing reversed with
  | nil => rfl
  | cons c word ih =>
    have hc : c ≠ '\x00' := by
      rintro rfl
      exact hzero List.mem_cons_self
    have hrest : readParts (.bare (c :: reversed)) (word ++ rest) =
        readParts (.bare (word.reverse ++ c :: reversed)) rest :=
      ih (fun d hd => hbare d (by simp [hd])) (fun hmem => hzero (by simp [hmem]))
    rw [List.cons_append, readParts_bare_cons _ _ hc (hbare c List.mem_cons_self), hrest]
    simp

/-- A bare word ends at the space behind it. -/
lemma readParts_bare_end {reversed rest : List Char} (hrest : EndsWord rest)
    (hword : barePart reversed.reverse = .word reversed.reverse) :
    readParts (.bare reversed) rest = wordThen reversed.reverse rest := by
  rcases hrest with rfl | ⟨later, rfl⟩
  · rw [readParts_bare_nil, hword]
    rfl
  · have hspace : beginPart ' ' = (none, .between) := rfl
    rw [readParts_bare_other _ _ (by decide) (by decide), hspace, hword]
    rfl

/-- Inside of quotes each character but zero is one of the word, a doubled quote too. -/
lemma readParts_inQuotes_cons {c : Char} (hc : c ≠ '\x00') (word rest reversed : List Char) :
    readParts (.inQuotes reversed) (doubleQuotes (c :: word) ++ rest) =
      readParts (.inQuotes (c :: reversed)) (doubleQuotes word ++ rest) := by
  have hdouble : doubleQuotes (c :: word) =
      (if c = '"' then ['"', '"'] else [c]) ++ doubleQuotes word := rfl
  rw [hdouble]
  by_cases hquote : c = '"'
  · subst hquote
    simp only [if_true, List.cons_append, List.nil_append]
    -- the first quote may end the word, the second one says that it does not
    rw [readParts_inQuotes_quote, readParts_atQuote_quote]
  · simp only [if_neg hquote, List.cons_append, List.nil_append]
    rw [readParts_inQuotes_other _ _ hc hquote]

lemma readParts_inQuotes {word rest reversed : List Char} (hzero : '\x00' ∉ word) :
    readParts (.inQuotes reversed) (doubleQuotes word ++ rest) =
      readParts (.inQuotes (word.reverse ++ reversed)) rest := by
  induction word generalizing reversed with
  | nil => rfl
  | cons c word ih =>
    have hc : c ≠ '\x00' := by
      rintro rfl
      exact hzero List.mem_cons_self
    rw [readParts_inQuotes_cons hc, ih fun hmem => hzero (by simp [hmem])]
    simp

/-- A quoted word ends at a quote that no other quote follows. -/
lemma readParts_atQuote_end {reversed rest : List Char} (hrest : EndsWord rest) :
    readParts (.atQuote reversed) rest = wordThen reversed.reverse rest := by
  rcases hrest with rfl | ⟨later, rfl⟩
  · rfl
  · have hspace : beginPart ' ' = (none, .between) := rfl
    rw [readParts_atQuote_other _ _ (by decide) (by decide), hspace]
    rfl

/-- A quote between parts opens a quoted word. -/
lemma readParts_quote (cs : List Char) :
    readParts .between ('"' :: cs) = readParts (.inQuotes []) cs := by
  have hbegin : beginPart '"' = (none, .inQuotes []) := rfl
  rw [readParts_between_cons _ (by decide), hbegin]
  cases readParts (.inQuotes []) cs <;> rfl

lemma readParts_quoted {word rest : List Char} (hrest : EndsWord rest) (hzero : '\x00' ∉ word) :
    readParts .between ('"' :: doubleQuotes word ++ ['"'] ++ rest) = wordThen word rest := by
  rw [List.append_assoc, List.cons_append, readParts_quote, readParts_inQuotes hzero]
  simp only [List.cons_append, List.nil_append]
  rw [readParts_inQuotes_quote, readParts_atQuote_end hrest]
  simp

lemma isBareChar_of_isAlphanumeric {c : Char} (h : isAlphanumeric c = true) :
    isBareChar c = true := by
  rcases ascii_or_above_of_isAlphanumeric h with hascii | habove
  · simp [isBareChar, hascii]
  · simp [isBareChar, habove]

lemma isPlainWord_iff {word : List Char} :
    isPlainWord word = true ↔
      (∀ c ∈ word, isAlphanumeric c = true ∨ c = '_') ∧ String.ofList word ∉ operators := by
  simp [isPlainWord]

/-- A plain word is made of bare characters. -/
lemma isBareChar_of_isPlainWord {word : List Char} (h : isPlainWord word = true) :
    ∀ c ∈ word, isBareChar c = true := by
  intro c hc
  rcases (isPlainWord_iff.mp h).1 c hc with halnum | rfl
  · exact isBareChar_of_isAlphanumeric halnum
  · decide

/-- A plain word is not taken as an operator. -/
lemma barePart_of_isPlainWord {word : List Char} (h : isPlainWord word = true) :
    barePart word = .word word := by
  have hoperator := (isPlainWord_iff.mp h).2
  have hand : word ≠ ['A', 'N', 'D'] := by
    rintro rfl
    exact hoperator (by decide)
  have hor : word ≠ ['O', 'R'] := by
    rintro rfl
    exact hoperator (by decide)
  have hnot : word ≠ ['N', 'O', 'T'] := by
    rintro rfl
    exact hoperator (by decide)
  simp [barePart, hand, hor, hnot]

lemma not_separatesParts_of_isBareChar {c : Char} (h : isBareChar c = true) :
    separatesParts c = false ∧ c ≠ '"' := by
  refine ⟨?_, ?_⟩
  · by_contra hspace
    simp only [separatesParts, Bool.not_eq_false, Bool.or_eq_true, beq_iff_eq] at hspace
    rcases hspace with ((rfl | rfl) | rfl) | rfl <;> revert h <;> decide
  · rintro rfl
    revert h
    decide

lemma readParts_plain {word rest : List Char} (hrest : EndsWord rest) (hne : word ≠ [])
    (hplain : isPlainWord word = true) (hzero : '\x00' ∉ word) :
    readParts .between (word ++ rest) = wordThen word rest := by
  obtain ⟨c, later, rfl⟩ := List.exists_cons_of_ne_nil hne
  have hbare := isBareChar_of_isPlainWord hplain
  have hc : c ≠ '\x00' := by
    rintro rfl
    exact hzero List.mem_cons_self
  obtain ⟨hspace, hquote⟩ := not_separatesParts_of_isBareChar (hbare c List.mem_cons_self)
  have hbegin : beginPart c = (none, .bare [c]) := by
    simp [beginPart, hspace, hquote, hbare c List.mem_cons_self]
  have hend : barePart (later.reverse ++ [c]).reverse = .word (later.reverse ++ [c]).reverse := by
    simpa using barePart_of_isPlainWord hplain
  have hread : readParts (.bare [c]) (later ++ rest) = wordThen (c :: later) rest := by
    rw [readParts_bare (fun d hd => hbare d (by simp [hd])) (fun hmem => hzero (by simp [hmem])),
      readParts_bare_end hrest hend]
    simp
  rw [List.cons_append, readParts_between_cons _ hc, hbegin]
  simp only [hread]
  cases wordThen (c :: later) rest <;> rfl

/-- An escaped word is read as the word. -/
theorem readParts_escapeWord {word rest : List Char} (hrest : EndsWord rest)
    (hsearch : word.any isAlphanumeric = true) (hzero : '\x00' ∉ word) :
    readParts .between (escapeWord word ++ rest) = wordThen word rest := by
  unfold escapeWord
  split
  case isTrue hplain =>
    have hne : word ≠ [] := by
      rintro rfl
      simp at hsearch
    exact readParts_plain hrest hne hplain hzero
  case isFalse => exact readParts_quoted hrest hzero

/-- Escaped words with spaces between them are read as the words. -/
theorem readParts_escapeWords {found : List (List Char)}
    (hsearch : ∀ word ∈ found, word.any isAlphanumeric = true)
    (hzero : ∀ word ∈ found, '\x00' ∉ word) :
    readParts .between ((found.map escapeWord).intersperse [' ']).flatten =
      .ok (found.map .word) := by
  induction found with
  | nil => rfl
  | cons word found ih =>
    have hlater := ih (fun other hother => hsearch other (by simp [hother]))
      (fun other hother => hzero other (by simp [hother]))
    have hword := hsearch word List.mem_cons_self
    have hword' := hzero word List.mem_cons_self
    cases found with
    | nil =>
      have hread := readParts_escapeWord (.inl (rfl : [] = [])) hword hword'
      simpa [wordThen, Except.map] using hread
    | cons next found =>
      have hends : EndsWord
          (' ' :: (((next :: found).map escapeWord).intersperse [' ']).flatten) := .inr ⟨_, rfl⟩
      have hread := readParts_escapeWord hends hword hword'
      rw [wordThen, List.tail_cons, hlater] at hread
      simpa [List.intersperse, Except.map] using hread

/-- Parts that are all words give the words. -/
lemma literalWords_map_word (found : List (List Char)) :
    literalWords (found.map .word) = .ok found := by
  induction found with
  | nil => rfl
  | cons word found ih => simp [literalWords, ih, Except.map]

/-- No searchable word of a text has the character zero, at which a query ends. -/
def IsReadable (s : String) : Prop := ∀ word ∈ searchWords s, '\x00' ∉ word

lemma isReadable_of_not_mem {s : String} (hzero : '\x00' ∉ s.toList) : IsReadable s :=
  fun _ hword hmem => hzero ((mem_searchWords hword).2 hmem)

/-- A query is the escaped searchable words of its text. -/
lemma toList_of_escape {s query : String} (hquery : escape s = some query) :
    query.toList = (((searchWords s).map escapeWord).intersperse [' ']).flatten := by
  unfold escape at hquery
  split at hquery
  · cases hquery
  · obtain rfl := Option.some.inj hquery
    exact String.toList_ofList

/-- The query of a text is read as the searchable words of the text. -/
lemma queryWords_of_escape {s query : String} (hreadable : IsReadable s)
    (hquery : escape s = some query) : queryWords query = .ok (searchWords s) := by
  have hparts : queryParts query = .ok ((searchWords s).map .word) := by
    rw [queryParts, toList_of_escape hquery]
    exact readParts_escapeWords (fun word hword => (mem_searchWords hword).1) hreadable
  rw [queryWords, hparts]
  exact literalWords_map_word (searchWords s)

/-- A quoted word with the character zero is read no further than that. -/
lemma readParts_inQuotes_zero {word rest reversed : List Char} (hzero : '\x00' ∈ word) :
    readParts (.inQuotes reversed) (doubleQuotes word ++ rest) = .error .unterminatedText := by
  induction word generalizing reversed with
  | nil => simp at hzero
  | cons c word ih =>
    by_cases hc : c = '\x00'
    · subst hc
      rfl
    · rw [readParts_inQuotes_cons hc]
      exact ih ((List.mem_cons.mp hzero).resolve_left (Ne.symm hc))

/-- The character zero puts a word in quotes, and no quote is found behind it. -/
lemma readParts_escapeWord_zero {word : List Char} (rest : List Char) (hzero : '\x00' ∈ word) :
    readParts .between (escapeWord word ++ rest) = .error .unterminatedText := by
  have hplain : ¬ isPlainWord word = true := fun hplain => by
    rcases (isPlainWord_iff.mp hplain).1 _ hzero with halnum | hscore
    · exact absurd (isBareChar_of_isAlphanumeric halnum) (by decide)
    · exact absurd hscore (by decide)
  rw [escapeWord, if_neg hplain, List.append_assoc, List.cons_append, readParts_quote,
    readParts_inQuotes_zero hzero]

/-- Words in front of one with the character zero are read, and then reading fails. -/
lemma readParts_escapeWords_zero {found : List (List Char)}
    (hsearch : ∀ word ∈ found, word.any isAlphanumeric = true)
    (hzero : ∃ word ∈ found, '\x00' ∈ word) :
    readParts .between ((found.map escapeWord).intersperse [' ']).flatten =
      .error .unterminatedText := by
  induction found with
  | nil => simp at hzero
  | cons word found ih =>
    by_cases hword : '\x00' ∈ word
    · cases found with
      | nil =>
        have hread := readParts_escapeWord_zero [] hword
        simpa using hread
      | cons next found => simpa [List.intersperse] using readParts_escapeWord_zero _ hword
    · have hrest : ∃ other ∈ found, '\x00' ∈ other := by simpa [hword] using hzero
      have hlater := ih (fun other hother => hsearch other (by simp [hother])) hrest
      cases found with
      | nil => simp at hrest
      | cons next found =>
        have hends : EndsWord
            (' ' :: (((next :: found).map escapeWord).intersperse [' ']).flatten) := .inr ⟨_, rfl⟩
        have hread := readParts_escapeWord hends (hsearch word List.mem_cons_self) hword
        rw [wordThen, List.tail_cons, hlater] at hread
        simpa [List.intersperse, Except.map] using hread

/-- The query of a text is refused if a searchable word of the text has the character zero. -/
lemma queryWords_of_unreadable {s query : String} (hreadable : ¬ IsReadable s)
    (hquery : escape s = some query) : queryWords query = .error .unterminatedText := by
  have hzero : ∃ word ∈ searchWords s, '\x00' ∈ word := by simpa [IsReadable] using hreadable
  have hparts : queryParts query = .error .unterminatedText := by
    rw [queryParts, toList_of_escape hquery]
    exact readParts_escapeWords_zero (fun word hword => (mem_searchWords hword).1) hzero
  rw [queryWords, hparts]
  rfl

/-- An escaped word does not begin with the sign of a special command. -/
lemma exists_cons_escapeWord {word : List Char} (hne : word ≠ []) :
    ∃ c rest, escapeWord word = c :: rest ∧ c ≠ '*' := by
  unfold escapeWord
  split
  case isTrue hplain =>
    obtain ⟨c, rest, rfl⟩ := List.exists_cons_of_ne_nil hne
    have hbare := isBareChar_of_isPlainWord hplain c List.mem_cons_self
    refine ⟨c, rest, rfl, ?_⟩
    rintro rfl
    revert hbare
    decide
  case isFalse => exact ⟨'"', _, rfl, by decide⟩

/-- A text without the character zero has no query if none of its terms has a letter or number.
Otherwise its query is read as words alone: the terms that have one, in their order, each of them
character by character. -/
theorem reading_undoes_escaping (s : String) (hzero : '\x00' ∉ s.toList) :
    (escape s = none ↔ ∀ term ∈ terms s.toList, ∀ c ∈ term, isAlphanumeric c = false) ∧
    ∀ query, escape s = some query →
      queryParts query =
          .ok (((terms s.toList).filter (·.any isAlphanumeric)).map .word) ∧
        queryWords query = .ok ((terms s.toList).filter (·.any isAlphanumeric)) ∧
        query.toList.head? ≠ some '*' := by
  have hsearch : ∀ word ∈ searchWords s, word.any isAlphanumeric = true :=
    fun word hword => (mem_searchWords hword).1
  have hfree : ∀ word ∈ searchWords s, '\x00' ∉ word :=
    fun word hword hmem => hzero ((mem_searchWords hword).2 hmem)
  refine ⟨?_, fun query hquery => ?_⟩
  · rw [escape_eq_none_iff, searchWords_eq_filter_terms, List.filter_eq_nil_iff]
    simp
  · have hne : searchWords s ≠ [] := by
      intro hnone
      rw [escape_eq_none_iff.mpr hnone] at hquery
      cases hquery
    obtain ⟨word, later, hwords⟩ := List.exists_cons_of_ne_nil hne
    have htext : query = String.ofList
        (((searchWords s).map escapeWord).intersperse [' ']).flatten := by
      simpa [escape, hwords, eq_comm] using hquery
    have hparts : queryParts query = .ok ((searchWords s).map .word) := by
      rw [queryParts, htext, String.toList_ofList]
      exact readParts_escapeWords hsearch hfree
    rw [← searchWords_eq_filter_terms]
    refine ⟨hparts, ?_, ?_⟩
    · rw [queryWords, hparts]
      exact literalWords_map_word (searchWords s)
    · have hword : word ≠ [] := by
        rintro rfl
        have hany := hsearch [] (by simp [hwords])
        simp at hany
      obtain ⟨c, rest, hcons, hstar⟩ := exists_cons_escapeWord hword
      rw [htext, String.toList_ofList, hwords]
      cases later <;> simpa [hcons, List.intersperse] using hstar

/-- Quotes, an operator and signs are read as the words that they stand in. -/
theorem reading_undoes_escaping_signs :
    '\x00' ∉ "say \"hi\" AND foo* - (ünï:x)".toList ∧
      queryWords "say \"\"\"hi\"\"\" \"AND\" \"foo*\" \"(ünï:x)\"" =
        .ok ["say".toList, "\"hi\"".toList, "AND".toList, "foo*".toList, "(ünï:x)".toList] := by
  have hzero : '\x00' ∉ "say \"hi\" AND foo* - (ünï:x)".toList := by decide +kernel
  have hquery : escape "say \"hi\" AND foo* - (ünï:x)" =
      some "say \"\"\"hi\"\"\" \"AND\" \"foo*\" \"(ünï:x)\"" := by decide +kernel
  have hterms : (terms "say \"hi\" AND foo* - (ünï:x)".toList).filter (·.any isAlphanumeric) =
      ["say".toList, "\"hi\"".toList, "AND".toList, "foo*".toList, "(ünï:x)".toList] := by
    decide +kernel
  obtain ⟨-, hread⟩ := reading_undoes_escaping _ hzero
  obtain ⟨-, hwords, -⟩ := hread _ hquery
  exact ⟨hzero, hterms ▸ hwords⟩

end Findings.Lexical
