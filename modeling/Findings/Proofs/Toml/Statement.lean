import Findings.Proofs.Toml.Number
import Findings.Proofs.Toml.Text
import Findings.Toml.Document

/-!
# Reading lines of TOML back

A bare key is read up to its end, and a value that was written is read up to the end of its line.
The statements of a document are read one line at a time; headers and assignments to bare keys
build a table of tables in the order in which they stand.
-/
namespace Findings.Toml

/-! ### Keys -/

/-- A key that needs no quotes. -/
structure IsBare (name : String) : Prop where
  char : ∀ c ∈ name.toList, isKeyChar c = true
  ne_nil : name.toList ≠ []

instance (name : String) : Decidable (IsBare name) :=
  decidable_of_iff ((name.toList.all isKeyChar && !name.toList.isEmpty) = true) <| by
    simp only [Bool.and_eq_true, List.all_eq_true, Bool.not_eq_true', List.isEmpty_eq_false_iff]
    exact ⟨fun h => ⟨h.1, h.2⟩, fun h => ⟨h.char, h.ne_nil⟩⟩

lemma skipSpaces_cons {c : Char} (hc : isSpace c = false) (rest : List Char) :
    skipSpaces (c :: rest) = c :: rest := List.dropWhile_cons_of_neg (by simp [hc])

lemma not_isKeyChar {c d : Char} (hc : isKeyChar c = true) (hd : isKeyChar d = false) : c ≠ d := by
  rintro rfl
  rw [hc] at hd
  cases hd

lemma isSpace_of_isKeyChar {c : Char} (hc : isKeyChar c = true) : isSpace c = false := by
  simp [isSpace, not_isKeyChar hc (d := ' ') (by decide), not_isKeyChar hc (d := '\t') (by decide)]

lemma keyPart?_bare {name : String} (h : IsBare name) {rest : List Char}
    (hend : ∀ c ∈ rest.head?, isKeyChar c = false) :
    keyPart? (name.toList ++ rest) = some (name, rest) := by
  have hshort : readShort? (name.toList ++ rest) = none := by
    obtain ⟨c, later, hcons⟩ := List.exists_cons_of_ne_nil h.ne_nil
    have hc : isKeyChar c = true := h.char c (hcons ▸ List.mem_cons_self)
    rw [hcons, List.cons_append, readShort?]
    · exact fun _ heq => not_isKeyChar hc (by decide) (List.cons.inj heq).1
    · exact fun _ heq => not_isKeyChar hc (by decide) (List.cons.inj heq).1
  have hnone : rest.takeWhile isKeyChar = [] ∧ rest.dropWhile isKeyChar = rest := by
    cases rest with
    | nil => exact ⟨rfl, rfl⟩
    | cons c rest => simp [hend c rfl]
  have htake : (name.toList ++ rest).takeWhile isKeyChar = name.toList := by
    rw [List.takeWhile_append_of_pos h.char, hnone.1, List.append_nil]
  have hdrop : (name.toList ++ rest).dropWhile isKeyChar = rest := by
    rw [List.dropWhile_append_of_pos h.char, hnone.2]
  simp only [keyPart?, hshort, htake, hdrop, List.isEmpty_iff, h.ne_nil, if_false,
    String.ofList_toList]

/-- A bare key is read with the spaces behind it, if no point follows them. -/
lemma key?_bare {name : String} (h : IsBare name) {rest : List Char}
    (hend : ∀ c ∈ rest.head?, isKeyChar c = false)
    (hpoint : ∀ later, skipSpaces rest ≠ '.' :: later) :
    key? (name.toList ++ rest) = some ([], name, skipSpaces rest) := by
  have hskip : skipSpaces (name.toList ++ rest) = name.toList ++ rest := by
    obtain ⟨c, later, hcons⟩ := List.exists_cons_of_ne_nil h.ne_nil
    rw [hcons]
    exact skipSpaces_cons (isSpace_of_isKeyChar (h.char c (hcons ▸ List.mem_cons_self))) _
  have hparts : keyParts? (nestingLimit - 1) (name.toList ++ rest) =
      some ([name], skipSpaces rest) := by
    rw [nestingLimit, keyParts?, hskip, keyPart?_bare h hend]
    simp only [Option.bind_eq_bind, Option.bind_some]
    rfl
  rw [key?, hparts]
  rfl

/-! ### Values -/

/-- A text that is read as a value at the end of a line, wherever it stands. -/
structure IsWritten (text : List Char) (value : Value) : Prop where
  head : ∀ c ∈ text.head?, isSpace c = false
  read : ∀ fuel depth rest,
    value? (fuel + 1) depth (text ++ '\n' :: rest) = some (value, '\n' :: rest)

lemma value?_text {c : Char} (hc : c = '"' ∨ c = '\'') (fuel depth : Nat) (rest : List Char) :
    value? (fuel + 1) depth (c :: rest) =
      (readText? (c :: rest)).map fun read => (.string (String.ofList read.1), read.2) := by
  rcases hc with rfl | rfl <;> rfl

/-- Every text is read back. -/
theorem isWritten_text (s : String) : IsWritten (writeText s) (.string s) := by
  obtain ⟨c, later, hcons, hc⟩ : ∃ c later, writeText s = c :: later ∧ (c = '"' ∨ c = '\'') := by
    simp only [writeText]
    split
    · exact ⟨_, _, rfl, .inl rfl⟩
    · exact ⟨_, _, rfl, .inr rfl⟩
    · exact ⟨_, _, rfl, .inl rfl⟩
    · exact ⟨_, _, rfl, .inr rfl⟩
  constructor
  · rw [hcons]
    rintro d ⟨⟩
    rcases hc with rfl | rfl <;> rfl
  · intro fuel depth rest
    have hread : readText? (writeText s ++ '\n' :: rest) = some (s.toList, '\n' :: rest) :=
      readText?_writeText s (by simp) (by simp)
    rw [hcons] at hread ⊢
    rw [List.cons_append] at hread ⊢
    rw [value?_text hc, hread, Option.map_some, String.ofList_toList]

lemma BeginsNumber.isSpace {c : Char} (h : BeginsNumber c) : isSpace c = false := by
  rcases h with h | rfl | rfl | rfl
  · simp [Toml.isSpace, ne_of_isDigit h (d := ' ') (by decide),
      ne_of_isDigit h (d := '\t') (by decide)]
  all_goals rfl

lemma value?_number {c : Char} (hc : BeginsNumber c) (fuel depth : Nat) (rest : List Char) :
    value? (fuel + 1) depth (c :: rest) = number? (c :: rest) := by
  have hne {d : Char} (hd : d.isDigit = false ∧ d ≠ '-' ∧ d ≠ 'n' ∧ d ≠ 'i') : c ≠ d := by
    rintro rfl
    rcases hc with h | h | h | h
    · exact absurd (hd.1.symm.trans h) (by decide)
    · exact hd.2.1 h
    · exact hd.2.2.1 h
    · exact hd.2.2.2 h
  rw [value?]
  all_goals
    intros
    rename_i heq
    exact absurd (List.cons.inj heq).1 (hne (by decide))

/-- Every number that is read back is a value that is read back. -/
theorem IsNumber.isWritten {text : List Char} {value : Value} (h : IsNumber text value) :
    IsWritten text value := by
  obtain ⟨c, later, rfl, hc⟩ := h.head
  constructor
  · rintro d ⟨⟩
    exact hc.isSpace
  · intro fuel depth rest
    exact (value?_number hc fuel depth _).trans (h.read rest)

/-! ### Lines -/

lemma skipSpaces_head {text : List Char} (hhead : ∀ c ∈ text.head?, isSpace c = false)
    (rest : List Char) : skipSpaces (text ++ '\n' :: rest) = text ++ '\n' :: rest := by
  cases text with
  | nil => exact skipSpaces_cons (by decide) rest
  | cons c text => exact skipSpaces_cons (hhead c rfl) _

/-- The line of an assignment to a bare key. -/
lemma statement?_assign {name : String} {text : List Char} {value : Value} (hname : IsBare name)
    (h : IsWritten text value) (rest : List Char) :
    statement? (name.toList ++ ' ' :: '=' :: ' ' :: (text ++ '\n' :: rest)) =
      some (.assign [] name value, '\n' :: rest) := by
  have hkey : key? (name.toList ++ ' ' :: '=' :: ' ' :: (text ++ '\n' :: rest)) =
      some ([], name, '=' :: ' ' :: (text ++ '\n' :: rest)) :=
    key?_bare hname (by rintro c ⟨⟩; rfl) (fun _ heq => absurd (List.cons.inj heq).1 (by decide))
  have hskip : skipSpaces (' ' :: (text ++ '\n' :: rest)) = text ++ '\n' :: rest :=
    skipSpaces_head h.head rest
  obtain ⟨c, later, hcons⟩ := List.exists_cons_of_ne_nil hname.ne_nil
  have hc : isKeyChar c = true := hname.char c (hcons ▸ List.mem_cons_self)
  rw [hcons] at hkey ⊢
  rw [List.cons_append] at hkey ⊢
  rw [statement?]
  · simp only [hkey, Option.bind_eq_bind, Option.bind_some, skipChar?, if_true, hskip, h.read]
    rfl
  · exact fun _ heq => not_isKeyChar hc (by decide) (List.cons.inj heq).1
  · exact fun _ heq => not_isKeyChar hc (by decide) (List.cons.inj heq).1

/-- The line of the header of a table. -/
lemma statement?_openTable {name : String} (hname : IsBare name) (rest : List Char) :
    statement? ('[' :: (name.toList ++ ']' :: rest)) = some (.openTable [] name, rest) := by
  have hkey : key? (name.toList ++ ']' :: rest) = some ([], name, ']' :: rest) :=
    key?_bare hname (by rintro c ⟨⟩; rfl) (fun _ heq => absurd (List.cons.inj heq).1 (by decide))
  obtain ⟨c, later, hcons⟩ := List.exists_cons_of_ne_nil hname.ne_nil
  have hc : isKeyChar c = true := hname.char c (hcons ▸ List.mem_cons_self)
  rw [hcons] at hkey ⊢
  rw [List.cons_append] at hkey ⊢
  rw [statement?]
  · simp only [hkey, Option.bind_eq_bind, Option.bind_some, skipChar?, if_true]
    rfl
  · exact fun _ heq => not_isKeyChar hc (by decide) (List.cons.inj heq).1

/-- The lines of a text are read as statements, whatever limit above its length is set. -/
def Reads (text : List Char) (statements : List Statement) : Prop :=
  ∀ fuel, text.length < fuel → readStatements fuel text = some statements

lemma reads_nil : Reads [] [] := by
  intro fuel hfuel
  obtain ⟨fuel, rfl⟩ := Nat.exists_eq_succ_of_ne_zero (Nat.ne_of_gt hfuel)
  rfl

/-- An empty line is passed over. -/
lemma Reads.lineFeed {text : List Char} {statements : List Statement} (h : Reads text statements) :
    Reads ('\n' :: text) statements := by
  intro fuel hfuel
  obtain ⟨fuel, rfl⟩ := Nat.exists_eq_succ_of_ne_zero (Nat.ne_of_gt (Nat.zero_lt_of_lt hfuel))
  exact h fuel (Nat.lt_of_succ_lt_succ hfuel)

/-- A line with a statement is read before the lines behind it. -/
lemma Reads.statement {line text : List Char} {statement : Statement}
    {statements : List Statement} (h : Reads text statements)
    (hhead : ∀ c ∈ line.head?, isSpace c = false ∧ c ≠ '#' ∧ c ≠ '\n' ∧ c ≠ '\r')
    (hne : line ≠ [])
    (hline : statement? (line ++ '\n' :: text) = some (statement, '\n' :: text)) :
    Reads (line ++ '\n' :: text) (statement :: statements) := by
  intro fuel hfuel
  obtain ⟨fuel, rfl⟩ := Nat.exists_eq_succ_of_ne_zero (Nat.ne_of_gt (Nat.zero_lt_of_lt hfuel))
  obtain ⟨c, later, rfl⟩ := List.exists_cons_of_ne_nil hne
  obtain ⟨hspace, hcomment, hfeed, hreturn⟩ := hhead c rfl
  have hend : lineEnd? (c :: later ++ '\n' :: text) = none := by
    rw [List.cons_append, lineEnd?]
    · exact fun _ heq => hfeed (List.cons.inj heq).1
    · exact fun _ heq => hreturn (List.cons.inj heq).1
  have hskip : skipSpaces (c :: later ++ '\n' :: text) = c :: later ++ '\n' :: text :=
    skipSpaces_cons hspace _
  have hlength : text.length < fuel := by
    simp only [List.length_append, List.length_cons] at hfuel
    omega
  have hempty : (c :: later ++ '\n' :: text).isEmpty = false := rfl
  have hhash : ((c :: later ++ '\n' :: text).head? == some '#') = false := by simp [hcomment]
  have hrest : lineRest? ('\n' :: text) = some text := rfl
  simp only [readStatements, hskip, hempty, hhash, hend, Option.isSome_none, Bool.or_self,
    Bool.false_eq_true, if_false, hline, Option.bind_eq_bind, Option.bind_some, hrest,
    h fuel hlength]
  rfl

end Findings.Toml
