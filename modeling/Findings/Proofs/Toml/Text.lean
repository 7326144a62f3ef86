import Findings.Toml.Text
import Findings.Toml.Writer
import Mathlib.Data.List.TakeWhile
import Mathlib.Tactic.Common

/-!
# Reading texts of TOML back

A text is written in one of four forms, and each form is read back as the text. Between quotes
every character that is not plain has an escape of its own. Over lines the danger is in the runs
of quotes: the reader looks five characters ahead for three closing ones, so the writer lets no
three of them stand in a row before the end.
-/
namespace Findings.Toml

/-- What a text gives behind one character. -/
abbrev Read := Option (List Char × List Char)

/-- An escape of a character, as both readers of texts in quotes take it. -/
structure IsEscape (text : List Char) (c : Char) : Prop where
  read : ∀ rest, ∃ tail, text ++ rest = '\\' :: tail ∧ escape? tail = some (c, rest) ∧
    continuation? tail = none

/-- A line does not end behind a backslash that is followed by anything but white space. -/
lemma continuation?_cons {c : Char} (hspace : isSpace c = false) (hfeed : c ≠ '\n')
    (hreturn : c ≠ '\r') (rest : List Char) : continuation? (c :: rest) = none := by
  rw [continuation?, skipSpaces, List.dropWhile_cons_of_neg (by simp [hspace]), lineEnd?]
  · rfl
  · exact fun _ h => hfeed (List.cons.inj h).1
  · exact fun _ h => hreturn (List.cons.inj h).1

lemma isEscape_of_letter {letter c : Char} (hread : ∀ rest, escape? (letter :: rest) = some (c, rest))
    (hspace : isSpace letter = false) (hfeed : letter ≠ '\n') (hreturn : letter ≠ '\r') :
    IsEscape ['\\', letter] c :=
  ⟨fun rest => ⟨letter :: rest, rfl, hread rest, continuation?_cons hspace hfeed hreturn rest⟩⟩

/-- The code of a character that needs an escape is read from its last two digits. -/
lemma charOfCode?_upperHex : ∀ n < 0x80,
    charOfCode? ['0', '0', upperHex (n / 16), upperHex n] = some (Char.ofNat n) := by
  decide

lemma isEscape_of_code {c : Char} (hcode : c.toNat < 0x80) :
    IsEscape ['\\', 'u', '0', '0', upperHex (c.toNat / 16), upperHex c.toNat] c := by
  refine ⟨fun rest => ⟨_, rfl, ?_, continuation?_cons rfl (by decide) (by decide) _⟩⟩
  change escape? ('u' :: '0' :: '0' :: upperHex (c.toNat / 16) :: upperHex c.toNat :: rest) = _
  rw [escape?, charOfCode?_upperHex c.toNat hcode, Char.ofNat_toNat]
  rfl

lemma isPlainChar_of_not_needsEscape {c : Char} (h : ¬ needsEscape c = true) :
    isPlainChar c = true ∨ c = '\n' := by
  simp only [needsEscape, Bool.or_eq_true, Bool.and_eq_true, decide_eq_true_eq, beq_iff_eq,
    bne_iff_ne, not_or, not_and_or, not_not] at h
  simp only [isPlainChar, Bool.or_eq_true, Bool.and_eq_true, decide_eq_true_eq, beq_iff_eq,
    bne_iff_ne]
  obtain ⟨(hlarge | htab) | hline, hdelete⟩ := h
  · exact .inl (.inr ⟨Nat.not_lt.mp hlarge, hdelete⟩)
  · exact .inl (.inl htab)
  · exact .inr hline

/-- A character between quotes has an escape, or it stands for itself. -/
lemma escapeChar_cases (c : Char) :
    IsEscape (escapeChar c) c ∨
      escapeChar c = [c] ∧ (isPlainChar c = true ∨ c = '\n') ∧ c ≠ '\\' ∧ c ≠ '\r' := by
  unfold escapeChar
  split
  case h_6 hslash hback htab hfeed hreturn =>
    by_cases hescape : needsEscape c = true
    · rw [if_pos hescape]
      refine .inl (isEscape_of_code ?_)
      simp only [needsEscape, Bool.or_eq_true, Bool.and_eq_true, decide_eq_true_eq, beq_iff_eq]
        at hescape
      omega
    · rw [if_neg hescape]
      refine .inr ⟨rfl, ?_, hslash, hreturn⟩
      exact isPlainChar_of_not_needsEscape hescape
  all_goals exact .inl (isEscape_of_letter (fun _ => rfl) rfl (by decide) (by decide))

/-! ### Texts of one line -/

lemma readBasic_escape {text : List Char} {c : Char} (h : IsEscape text c) (fuel : Nat)
    (rest : List Char) :
    readBasic (fuel + 1) (text ++ rest) = (readBasic fuel rest).map (consChar c) := by
  obtain ⟨tail, htext, hread, -⟩ := h.read rest
  rw [htext, readBasic, hread, Option.bind_eq_bind, Option.bind_some]
  exact bind_pure_comp _ _

lemma readBasic_plain {c : Char} (hplain : isPlainChar c = true) (hquote : c ≠ '"')
    (hslash : c ≠ '\\') (fuel : Nat) (rest : List Char) :
    readBasic (fuel + 1) (c :: rest) = (readBasic fuel rest).map (consChar c) := by
  rw [readBasic, if_pos hplain]
  · exact hquote
  · exact hslash

/-- How one character is written in a text of one line in quotes. -/
def basicChar (c : Char) : List Char :=
  if c = '"' then ['\\', '"'] else if c = '\n' then ['\\', 'n'] else escapeChar c

lemma basicChars_cons (c : Char) (cs : List Char) :
    basicChars (c :: cs) = basicChar c ++ basicChars cs := rfl

lemma basicChar_cases (c : Char) :
    IsEscape (basicChar c) c ∨
      basicChar c = [c] ∧ isPlainChar c = true ∧ c ≠ '"' ∧ c ≠ '\\' := by
  unfold basicChar
  split_ifs with hquote hline
  · subst hquote
    exact .inl (isEscape_of_letter (fun _ => rfl) rfl (by decide) (by decide))
  · subst hline
    exact .inl (isEscape_of_letter (fun _ => rfl) rfl (by decide) (by decide))
  · rcases escapeChar_cases c with hescape | ⟨hself, hplain, hslash, -⟩
    · exact .inl hescape
    · exact .inr ⟨hself, hplain.resolve_right hline, hquote, hslash⟩

/-- A text of one line in quotes is read up to its closing quote. -/
theorem readBasic_basicChars {cs : List Char} {fuel : Nat} (hfuel : cs.length < fuel)
    (rest : List Char) : readBasic fuel (basicChars cs ++ '"' :: rest) = some (cs, rest) := by
  induction cs generalizing fuel with
  | nil =>
    obtain ⟨fuel, rfl⟩ := Nat.exists_eq_succ_of_ne_zero (Nat.ne_of_gt hfuel)
    rfl
  | cons c cs ih =>
    obtain ⟨fuel, rfl⟩ := Nat.exists_eq_succ_of_ne_zero (Nat.ne_of_gt (Nat.zero_lt_of_lt hfuel))
    have hrest := ih (Nat.lt_of_succ_lt_succ hfuel)
    rw [basicChars_cons, List.append_assoc]
    rcases basicChar_cases c with hescape | ⟨hself, hplain, hquote, hslash⟩
    · rw [readBasic_escape hescape, hrest]
      rfl
    · rw [hself, List.singleton_append, readBasic_plain hplain hquote hslash, hrest]
      rfl

/-- A text of one line in apostrophes is read up to its closing apostrophe. -/
theorem readLiteral_append {cs : List Char}
    (h : ∀ c ∈ cs, isPlainChar c = true ∧ c ≠ '\'') (rest : List Char) :
    readLiteral (cs ++ '\'' :: rest) = some (cs, rest) := by
  induction cs with
  | nil => rfl
  | cons c cs ih =>
    obtain ⟨⟨hplain, hquote⟩, hcs⟩ := List.forall_mem_cons.mp h
    rw [List.cons_append, readLiteral, if_pos hplain, ih hcs]
    · rfl
    · exact hquote

/-! ### Texts over lines -/

/-- No three quotes stand in a row, also not together with those that stand in front. -/
def NoThree (quote : Char) : Nat → List Char → Prop
  | _, [] => True
  | run, c :: cs => if c = quote then run < 2 ∧ NoThree quote (run + 1) cs else NoThree quote 0 cs

/-- A run of quotes in front of a text is the shorter by one behind the first of them. -/
lemma replicate_prefix_cons {quote c : Char} {run : Nat} (hrun : run ≤ 2) {text : List Char} :
    List.replicate (3 - run) quote <+: c :: text ↔
      c = quote ∧ List.replicate (3 - (run + 1)) quote <+: text := by
  have hsucc : 3 - run = (3 - (run + 1)) + 1 := by omega
  rw [hsucc, List.replicate_succ, List.cons_prefix_cons, eq_comm]

/-- A text is quotes only, or three quotes are not in front of it. -/
lemma front_cases {quote : Char} {run : Nat} {cs : List Char} (hrun : run ≤ 2)
    (h : NoThree quote run cs) (rest : List Char) :
    (∃ k ≤ 2, cs = List.replicate k quote) ∨ ¬ List.replicate (3 - run) quote <+: cs ++ rest := by
  suffices hfront : (∃ k, run + k ≤ 2 ∧ cs = List.replicate k quote) ∨
      ¬ List.replicate (3 - run) quote <+: cs ++ rest by
    rcases hfront with ⟨k, hk, hcs⟩ | hno
    · exact .inl ⟨k, by omega, hcs⟩
    · exact .inr hno
  induction cs generalizing run with
  | nil => exact .inl ⟨0, hrun, rfl⟩
  | cons c cs ih =>
    rw [NoThree] at h
    rw [List.cons_append, replicate_prefix_cons hrun]
    split_ifs at h with hquote
    · obtain ⟨hlt, hrest⟩ := h
      rcases ih hlt hrest with ⟨k, hk, hcs⟩ | hno
      · exact .inl ⟨k + 1, by omega, by rw [hquote, hcs, List.replicate_succ]⟩
      · exact .inr fun hprefix => hno hprefix.2
    · exact .inr fun hprefix => hquote hprefix.1

/-- A written text is quotes only, or three quotes are not in front of it: the third of a run has
an escape. -/
lemma longBasicChars_front {run : Nat} (hrun : run ≤ 2) (cs rest : List Char) :
    (∃ k, run + k ≤ 2 ∧ cs = List.replicate k '"' ∧ longBasicChars run cs = List.replicate k '"') ∨
      ¬ List.replicate (3 - run) '"' <+: longBasicChars run cs ++ rest := by
  induction cs generalizing run with
  | nil => exact .inl ⟨0, hrun, rfl, rfl⟩
  | cons c cs ih =>
    rw [longBasicChars]
    split_ifs with hquote hfull
    · exact .inr fun hprefix => absurd ((replicate_prefix_cons hrun).mp hprefix).1 (by decide)
    · rw [List.cons_append, replicate_prefix_cons hrun]
      rcases ih (Nat.lt_of_le_of_ne hrun hfull) with ⟨k, hk, hcs, htext⟩ | hno
      · exact .inl ⟨k + 1, by omega, by rw [hquote, hcs, List.replicate_succ],
          by rw [htext, List.replicate_succ]⟩
      · exact .inr fun hprefix => hno hprefix.2
    · refine .inr fun hprefix => ?_
      rcases escapeChar_cases c with hescape | ⟨hself, -⟩
      · obtain ⟨tail, htext, -⟩ := hescape.read (longBasicChars 0 cs ++ rest)
        rw [List.append_assoc, htext, replicate_prefix_cons hrun] at hprefix
        exact absurd hprefix.1 (by decide)
      · rw [hself, List.append_assoc, List.singleton_append, replicate_prefix_cons hrun] at hprefix
        exact hquote hprefix.1

lemma closing?_eq_none {quote : Char} {cs : List Char}
    (h : ¬ List.replicate 3 quote <+: cs) : closing? quote cs = none := by
  refine if_neg fun hlength => h ?_
  have htake : List.replicate 3 quote = ((cs.take 5).takeWhile (· == quote)).take 3 := by
    refine (List.eq_replicate_iff.mpr ⟨List.length_take_of_le hlength, fun c hc => ?_⟩).symm
    simpa using List.mem_takeWhile_imp (List.mem_of_mem_take hc)
  rw [htake]
  exact ((List.take_prefix 3 _).trans (List.takeWhile_prefix _)).trans (List.take_prefix 5 cs)

/-- Up to two quotes in front of the closing ones belong to the text. -/
lemma closing?_replicate {quote : Char} {k : Nat} (hk : k ≤ 2) {rest : List Char}
    (hrest : rest.head? ≠ some quote) :
    closing? quote (List.replicate k quote ++ (List.replicate 3 quote ++ rest)) =
      some (List.replicate k quote, rest) := by
  have hstop (n : Nat) : (rest.take n).takeWhile (· == quote) = [] := by
    cases rest with
    | nil => simp
    | cons c rest =>
      have hc : c ≠ quote := fun heq => hrest (congrArg some heq)
      cases n <;> simp [hc]
  have hrun : ((List.replicate (k + 3) quote ++ rest).take 5).takeWhile (· == quote) =
      List.replicate (k + 3) quote := by
    rw [List.take_append, List.take_of_length_le (by simpa using by omega),
      List.takeWhile_append_of_pos (by simp), hstop, List.append_nil]
  rw [← List.append_assoc, List.replicate_append_replicate, closing?, hrun]
  simp

lemma closing?_of_ne {quote c : Char} (h : c ≠ quote) (rest : List Char) :
    closing? quote (c :: rest) = none :=
  closing?_eq_none fun hprefix => h ((replicate_prefix_cons (Nat.zero_le 2)).mp hprefix).1

lemma readLongBasic_closing {cs : List Char} {closed : List Char × List Char}
    (h : closing? '"' cs = some closed) (fuel : Nat) : readLongBasic (fuel + 1) cs = some closed := by
  rw [readLongBasic.eq_def]
  simp only [h]

lemma readLongLiteral_closing {cs : List Char} {closed : List Char × List Char}
    (h : closing? '\'' cs = some closed) (fuel : Nat) :
    readLongLiteral (fuel + 1) cs = some closed := by
  rw [readLongLiteral.eq_def]
  simp only [h]

lemma readLongBasic_escape {text : List Char} {c : Char} (h : IsEscape text c) (fuel : Nat)
    (rest : List Char) :
    readLongBasic (fuel + 1) (text ++ rest) = (readLongBasic fuel rest).map (consChar c) := by
  obtain ⟨tail, htext, hread, hcontinuation⟩ := h.read rest
  rw [htext, readLongBasic, closing?_of_ne (by decide)]
  simp only [hcontinuation, hread, Option.bind_eq_bind, Option.bind_some]
  cases readLongBasic fuel rest <;> rfl

lemma readLongBasic_plain {c : Char} {rest : List Char} (hclosing : closing? '"' (c :: rest) = none)
    (hplain : isPlainChar c = true ∨ c = '\n') (hslash : c ≠ '\\') (hreturn : c ≠ '\r')
    (fuel : Nat) :
    readLongBasic (fuel + 1) (c :: rest) = (readLongBasic fuel rest).map (consChar c) := by
  rw [readLongBasic, hclosing]
  · exact if_pos (by simpa using hplain)
  · exact hslash
  · exact fun _ heq => absurd heq hreturn

lemma readLongLiteral_plain {c : Char} {rest : List Char}
    (hclosing : closing? '\'' (c :: rest) = none)
    (hplain : isPlainChar c = true ∨ c = '\n') (hreturn : c ≠ '\r') (fuel : Nat) :
    readLongLiteral (fuel + 1) (c :: rest) = (readLongLiteral fuel rest).map (consChar c) := by
  rw [readLongLiteral, hclosing]
  · exact if_pos (by simpa using hplain)
  · exact fun _ heq => absurd heq hreturn

/-- Three quotes are not in front where fewer are not. -/
lemma closing?_of_short {quote : Char} {run : Nat} {text : List Char}
    (h : ¬ List.replicate (3 - run) quote <+: text) : closing? quote text = none := by
  refine closing?_eq_none fun hprefix => h (List.IsPrefix.trans ?_ hprefix)
  exact (List.prefix_replicate_iff).mpr ⟨by simp, by simp⟩

/-- A text over lines in quotes is read up to its closing quotes. -/
theorem readLongBasic_longBasicChars {run : Nat} (hrun : run ≤ 2) {cs : List Char} {fuel : Nat}
    (hfuel : cs.length < fuel) {rest : List Char} (hrest : rest.head? ≠ some '"') :
    readLongBasic fuel (longBasicChars run cs ++ (List.replicate 3 '"' ++ rest)) =
      some (cs, rest) := by
  induction cs generalizing run fuel with
  | nil =>
    obtain ⟨fuel, rfl⟩ := Nat.exists_eq_succ_of_ne_zero (Nat.ne_of_gt hfuel)
    exact readLongBasic_closing (closing?_replicate (Nat.zero_le 2) hrest) fuel
  | cons c cs ih =>
    obtain ⟨fuel, rfl⟩ := Nat.exists_eq_succ_of_ne_zero (Nat.ne_of_gt (Nat.zero_lt_of_lt hfuel))
    have hlength : cs.length < fuel := Nat.lt_of_succ_lt_succ hfuel
    rcases longBasicChars_front hrun (c :: cs) (List.replicate 3 '"' ++ rest) with
      ⟨k, hk, hcs, htext⟩ | hno
    · -- the last quotes of the text stand in front of the closing ones
      rw [htext, readLongBasic_closing (closing?_replicate (by omega) hrest), hcs]
    · have hclosing := closing?_of_short hno
      rw [longBasicChars] at hclosing ⊢
      split_ifs at hclosing ⊢ with hquote hfull
      · have hescape : IsEscape ['\\', '"'] c := by
          subst hquote
          exact isEscape_of_letter (fun _ => rfl) rfl (by decide) (by decide)
        have hread := readLongBasic_escape hescape fuel
          (longBasicChars 0 cs ++ (List.replicate 3 '"' ++ rest))
        rw [ih (Nat.zero_le 2) hlength] at hread
        exact hread
      · subst hquote
        rw [List.cons_append] at hclosing ⊢
        rw [readLongBasic_plain hclosing (.inl rfl) (by decide) (by decide),
          ih (Nat.lt_of_le_of_ne hrun hfull) hlength]
        rfl
      · rw [List.append_assoc] at hclosing ⊢
        rcases escapeChar_cases c with hescape | ⟨hself, hplain, hslash, hreturn⟩
        · rw [readLongBasic_escape hescape, ih (Nat.zero_le 2) hlength]
          rfl
        · rw [hself, List.singleton_append] at hclosing ⊢
          rw [readLongBasic_plain hclosing hplain hslash hreturn, ih (Nat.zero_le 2) hlength]
          rfl

/-- A text over lines in apostrophes is read up to its closing apostrophes. -/
theorem readLongLiteral_append {run : Nat} (hrun : run ≤ 2) {cs : List Char} {fuel : Nat}
    (hthree : NoThree '\'' run cs)
    (hplain : ∀ c ∈ cs, (isPlainChar c = true ∨ c = '\n') ∧ c ≠ '\r')
    (hfuel : cs.length < fuel) {rest : List Char} (hrest : rest.head? ≠ some '\'') :
    readLongLiteral fuel (cs ++ (List.replicate 3 '\'' ++ rest)) = some (cs, rest) := by
  induction cs generalizing run fuel with
  | nil =>
    obtain ⟨fuel, rfl⟩ := Nat.exists_eq_succ_of_ne_zero (Nat.ne_of_gt hfuel)
    exact readLongLiteral_closing (closing?_replicate (Nat.zero_le 2) hrest) fuel
  | cons c cs ih =>
    obtain ⟨fuel, rfl⟩ := Nat.exists_eq_succ_of_ne_zero (Nat.ne_of_gt (Nat.zero_lt_of_lt hfuel))
    have hlength : cs.length < fuel := Nat.lt_of_succ_lt_succ hfuel
    obtain ⟨⟨hc, hreturn⟩, hcs⟩ := List.forall_mem_cons.mp hplain
    rcases front_cases hrun hthree (List.replicate 3 '\'' ++ rest) with ⟨k, hk, htext⟩ | hno
    · rw [htext, readLongLiteral_closing (closing?_replicate hk hrest)]
    · have hclosing := closing?_of_short hno
      rw [List.cons_append] at hclosing ⊢
      rw [readLongLiteral_plain hclosing hc hreturn]
      rw [NoThree] at hthree
      split_ifs at hthree with hquote
      · rw [ih hthree.1 hthree.2 hcs hlength]
        rfl
      · rw [ih (Nat.zero_le 2) hthree hcs hlength]
        rfl

/-! ### Any text -/

/-- The longest run bounds every run. -/
lemma noThree_of_longestRun {quote : Char} {cs : List Char} (h : longestRun quote cs ≤ 2) :
    NoThree quote 0 cs := by
  suffices hfold : ∀ run longest, (cs.foldl (fun runs c =>
      if c = quote then (runs.1 + 1, max runs.2 (runs.1 + 1)) else (0, runs.2))
      (run, longest)).2 ≤ 2 → NoThree quote run cs ∧ longest ≤ 2 from (hfold 0 0 h).1
  clear h
  induction cs with
  | nil => exact fun run longest h => ⟨trivial, h⟩
  | cons c cs ih =>
    intro run longest h
    rw [List.foldl_cons] at h
    rw [NoThree]
    by_cases hquote : c = quote
    · simp only [if_pos hquote] at h ⊢
      obtain ⟨hrest, hlongest⟩ := ih _ _ h
      exact ⟨⟨by omega, hrest⟩, by omega⟩
    · simp only [if_neg hquote] at h ⊢
      exact ih _ _ h

lemma IsEscape.length_pos {text : List Char} {c : Char} (h : IsEscape text c) : 0 < text.length := by
  obtain ⟨tail, htext, -⟩ := h.read []
  refine List.length_pos_iff.mpr ?_
  rintro rfl
  cases htext

lemma length_basicChars (cs : List Char) : cs.length ≤ (basicChars cs).length := by
  induction cs with
  | nil => exact Nat.le_refl 0
  | cons c cs ih =>
    have hc : 0 < (basicChar c).length := by
      rcases basicChar_cases c with hescape | ⟨hself, -⟩
      · exact hescape.length_pos
      · simp [hself]
    rw [basicChars_cons, List.length_append, List.length_cons]
    omega

lemma length_longBasicChars (run : Nat) (cs : List Char) :
    cs.length ≤ (longBasicChars run cs).length := by
  fun_induction longBasicChars run cs with
  | case1 => exact Nat.le_refl 0
  | case2 rest ih =>
    simp only [List.length_cons]
    omega
  | case3 run rest hfull ih =>
    simp only [List.length_cons]
    omega
  | case4 run c rest hquote ih =>
    have hc : 0 < (escapeChar c).length := by
      rcases escapeChar_cases c with hescape | ⟨hself, -⟩
      · exact hescape.length_pos
      · simp [hself]
    rw [List.length_append, List.length_cons]
    omega

/-- What is true of a text without escapes. -/
lemma plain_of_not_any {cs : List Char} (h : ¬ cs.any needsEscape = true) :
    ∀ c ∈ cs, (isPlainChar c = true ∨ c = '\n') ∧ c ≠ '\r' := by
  intro c hc
  have hplain : ¬ needsEscape c = true := fun hescape => h (List.any_eq_true.mpr ⟨c, hc, hescape⟩)
  refine ⟨isPlainChar_of_not_needsEscape hplain, ?_⟩
  rintro rfl
  exact hplain rfl

/-- A text in apostrophes is one that they can hold. -/
lemma textForm_eq_literal {cs : List Char} (h : textForm cs = .literal) :
    ∀ c ∈ cs, isPlainChar c = true ∧ c ≠ '\'' := by
  simp only [textForm] at h
  split_ifs at h with hbasic hliteral
  simp only [Bool.and_eq_true, Bool.not_eq_true', List.contains_eq_mem, decide_eq_false_iff_not]
    at hliteral
  obtain ⟨⟨hescape, hquote⟩, hline⟩ := hliteral
  intro c hc
  refine ⟨(plain_of_not_any (by simp [hescape]) c hc).1.resolve_right ?_, ?_⟩
  · rintro rfl
    exact hline hc
  · rintro rfl
    exact hquote hc

/-- A text in three apostrophes is one that they can hold. -/
lemma textForm_eq_longLiteral {cs : List Char} (h : textForm cs = .longLiteral) :
    NoThree '\'' 0 cs ∧ ∀ c ∈ cs, (isPlainChar c = true ∨ c = '\n') ∧ c ≠ '\r' := by
  simp only [textForm] at h
  split_ifs at h with hbasic hliteral hlongBasic hlongLiteral
  simp only [Bool.and_eq_true, Bool.not_eq_true', decide_eq_true_eq] at hlongLiteral
  exact ⟨noThree_of_longestRun hlongLiteral.2, plain_of_not_any (by simp [hlongLiteral.1])⟩

lemma readText?_eq_readShort? {cs : List Char} (hquotes : ¬ List.replicate 3 '"' <+: cs)
    (happostrophes : ¬ List.replicate 3 '\'' <+: cs) : readText? cs = readShort? cs := by
  unfold readText?
  split
  · exact absurd (List.prefix_append _ _) hquotes
  · exact absurd (List.prefix_append _ _) happostrophes
  · rfl

/-- The opening ones are followed by a line end if the text has one, and by none otherwise. -/
lemma skipFirstLineEnd_first {cs text : List Char}
    (htext : ¬ cs.contains '\n' = true → ∀ c ∈ text.head?, c ≠ '\n' ∧ c ≠ '\r') :
    skipFirstLineEnd ((if cs.contains '\n' then ['\n'] else []) ++ text) = text := by
  split_ifs with hline
  · rfl
  · cases text with
    | nil => rfl
    | cons c text =>
      obtain ⟨hfeed, hreturn⟩ := htext hline c rfl
      rw [List.nil_append, skipFirstLineEnd, lineEnd?]
      · rfl
      · exact fun _ heq => hfeed (List.cons.inj heq).1
      · exact fun _ heq => hreturn (List.cons.inj heq).1

lemma head?_of_replicate {quote : Char} {rest : List Char}
    (h : List.replicate (3 - 2) quote <+: rest) : rest.head? = some quote := by
  obtain ⟨later, rfl⟩ := h
  rfl

lemma readText?_basic (cs : List Char) {rest : List Char} (hrest : rest.head? ≠ some '"') :
    readText? ('"' :: (basicChars cs ++ '"' :: rest)) = some (cs, rest) := by
  have hquotes : ¬ List.replicate 3 '"' <+: '"' :: (basicChars cs ++ '"' :: rest) := by
    intro hprefix
    have hbehind := ((replicate_prefix_cons (Nat.zero_le 2)).mp hprefix).2
    cases cs with
    | nil => exact hrest (head?_of_replicate ((replicate_prefix_cons (by decide)).mp hbehind).2)
    | cons c cs =>
      rw [basicChars_cons, List.append_assoc] at hbehind
      rcases basicChar_cases c with hescape | ⟨hself, -, hquote, -⟩
      · obtain ⟨tail, htext, -⟩ := hescape.read (basicChars cs ++ '"' :: rest)
        rw [htext, replicate_prefix_cons (by decide)] at hbehind
        exact absurd hbehind.1 (by decide)
      · rw [hself, List.singleton_append, replicate_prefix_cons (by decide)] at hbehind
        exact hquote hbehind.1
  have happostrophes : ¬ List.replicate 3 '\'' <+: '"' :: (basicChars cs ++ '"' :: rest) :=
    fun hprefix => absurd ((replicate_prefix_cons (Nat.zero_le 2)).mp hprefix).1 (by decide)
  rw [readText?_eq_readShort? hquotes happostrophes, readShort?]
  refine readBasic_basicChars ?_ rest
  have := length_basicChars cs
  rw [List.length_append]
  omega

lemma readText?_literal {cs : List Char} (h : ∀ c ∈ cs, isPlainChar c = true ∧ c ≠ '\'')
    {rest : List Char} (hrest : rest.head? ≠ some '\'') :
    readText? ('\'' :: (cs ++ '\'' :: rest)) = some (cs, rest) := by
  have hquotes : ¬ List.replicate 3 '"' <+: '\'' :: (cs ++ '\'' :: rest) :=
    fun hprefix => absurd ((replicate_prefix_cons (Nat.zero_le 2)).mp hprefix).1 (by decide)
  have happostrophes : ¬ List.replicate 3 '\'' <+: '\'' :: (cs ++ '\'' :: rest) := by
    intro hprefix
    have hbehind := ((replicate_prefix_cons (Nat.zero_le 2)).mp hprefix).2
    cases cs with
    | nil => exact hrest (head?_of_replicate ((replicate_prefix_cons (by decide)).mp hbehind).2)
    | cons c cs =>
      rw [List.cons_append, replicate_prefix_cons (by decide)] at hbehind
      exact (h c List.mem_cons_self).2 hbehind.1
  rw [readText?_eq_readShort? hquotes happostrophes, readShort?]
  exact readLiteral_append h rest

/-- The body of a text over lines begins with no line end unless the text has one. -/
lemma head?_longBasicChars {cs : List Char} (hline : ¬ cs.contains '\n' = true) (rest : List Char) :
    ∀ c ∈ (longBasicChars 0 cs ++ (List.replicate 3 '"' ++ rest)).head?, c ≠ '\n' ∧ c ≠ '\r' := by
  cases cs with
  | nil =>
    rintro c ⟨⟩
    decide
  | cons first cs =>
    rw [longBasicChars]
    by_cases hquote : first = '"'
    · rw [if_pos hquote, if_neg (by decide)]
      rintro c ⟨⟩
      decide
    · rw [if_neg hquote, List.append_assoc]
      rcases escapeChar_cases first with hescape | ⟨hself, hplain, -, hreturn⟩
      · obtain ⟨tail, htext, -⟩ := hescape.read (longBasicChars 0 cs ++ (List.replicate 3 '"' ++ rest))
        rw [htext]
        rintro c ⟨⟩
        decide
      · rw [hself]
        rintro c ⟨⟩
        refine ⟨?_, hreturn⟩
        rintro rfl
        exact hline (by simp)

lemma readText?_quotes (text : List Char) :
    readText? (List.replicate 3 '"' ++ text) =
      readLongBasic (text.length + 1) (skipFirstLineEnd text) := rfl

lemma readText?_apostrophes (text : List Char) :
    readText? (List.replicate 3 '\'' ++ text) =
      readLongLiteral (text.length + 1) (skipFirstLineEnd text) := rfl

lemma readText?_longBasic (cs : List Char) {rest : List Char} (hrest : rest.head? ≠ some '"') :
    readText? (List.replicate 3 '"' ++ ((if cs.contains '\n' then ['\n'] else []) ++
      (longBasicChars 0 cs ++ (List.replicate 3 '"' ++ rest)))) = some (cs, rest) := by
  have hlength := length_longBasicChars 0 cs
  rw [readText?_quotes, skipFirstLineEnd_first fun hline => head?_longBasicChars hline rest]
  refine readLongBasic_longBasicChars (Nat.zero_le 2) ?_ hrest
  rw [List.length_append, List.length_append]
  omega

lemma readText?_longLiteral {cs : List Char} (hthree : NoThree '\'' 0 cs)
    (hplain : ∀ c ∈ cs, (isPlainChar c = true ∨ c = '\n') ∧ c ≠ '\r') {rest : List Char}
    (hrest : rest.head? ≠ some '\'') :
    readText? (List.replicate 3 '\'' ++ ((if cs.contains '\n' then ['\n'] else []) ++
      (cs ++ (List.replicate 3 '\'' ++ rest)))) = some (cs, rest) := by
  have hhead : ¬ cs.contains '\n' = true →
      ∀ c ∈ (cs ++ (List.replicate 3 '\'' ++ rest)).head?, c ≠ '\n' ∧ c ≠ '\r' := by
    intro hline
    cases cs with
    | nil =>
      rintro c ⟨⟩
      decide
    | cons first cs =>
      rintro c ⟨⟩
      refine ⟨?_, (hplain first List.mem_cons_self).2⟩
      rintro rfl
      exact hline (by simp)
  rw [readText?_apostrophes, skipFirstLineEnd_first hhead]
  refine readLongLiteral_append (Nat.zero_le 2) hthree hplain ?_ hrest
  rw [List.length_append, List.length_append]
  omega

/-- Every text is read back, whatever it stands in front of that is no quote. -/
theorem readText?_writeText (s : String) {rest : List Char} (hquote : rest.head? ≠ some '"')
    (happostrophe : rest.head? ≠ some '\'') :
    readText? (writeText s ++ rest) = some (s.toList, rest) := by
  simp only [writeText]
  cases hform : textForm s.toList with
  | basic =>
    simp only [List.cons_append, List.append_assoc, List.nil_append]
    exact readText?_basic s.toList hquote
  | literal =>
    simp only [List.cons_append, List.append_assoc, List.nil_append]
    exact readText?_literal (textForm_eq_literal hform) happostrophe
  | longBasic =>
    simp only [List.append_assoc]
    exact readText?_longBasic s.toList hquote
  | longLiteral =>
    obtain ⟨hthree, hplain⟩ := textForm_eq_longLiteral hform
    simp only [List.append_assoc]
    exact readText?_longLiteral hthree hplain happostrophe

end Findings.Toml
