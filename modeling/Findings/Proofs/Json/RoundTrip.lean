import Findings.Json.Reader
import Findings.Proofs.Json.Text
import Mathlib.Data.List.TakeWhile

/-!
# Reading written values back

A written value is the texts of its tokens one after another. A number is the only token whose
end is told by what follows it, and in a written value that is a comma, a closing bracket or the
end. Reading the tokens of a value makes the value again, whatever it stands in.
-/
namespace Findings.Json

/-- What may follow a number: nothing that goes on with it. -/
def EndsNumber (rest : List Char) : Prop :=
  ∀ c ∈ rest.head?, c.isDigit = false ∧ c ≠ '.' ∧ c ≠ 'e' ∧ c ≠ 'E'

/-- A number that is read back as it is written. -/
def Number.Legible (n : Number) : Prop :=
  ∀ rest, EndsNumber rest →
    readToken (writeNumber n ++ rest) = some (.number n, rest) ∧
      (∀ c ∈ (writeNumber n ++ rest).head?, isSpace c = false) ∧ writeNumber n ≠ []

mutual

/-- Whether all numbers and texts of a value are read back as they are written. -/
def Value.Legible : Value → Prop
  | .null => True
  | .bool _ => True
  | .number n => n.Legible
  | .text s => s.isSome
  | .array items => itemsLegible items
  | .object fields => fieldsLegible fields

def itemsLegible : List Value → Prop
  | [] => True
  | item :: items => item.Legible ∧ itemsLegible items

def fieldsLegible : List (Option String × Value) → Prop
  | [] => True
  | field :: fields => field.1.isSome ∧ field.2.Legible ∧ fieldsLegible fields

end

mutual

def tokensOf : Value → List Token
  | .null => [.null]
  | .bool b => [.bool b]
  | .number n => [.number n]
  | .text s => [.text s]
  | .array [] => [.openArray, .closeArray]
  | .array (item :: items) => .openArray :: tokensOf item ++ itemTokens items
  | .object [] => [.openObject, .closeObject]
  | .object (field :: fields) =>
    .openObject :: .text field.1 :: .colon :: tokensOf field.2 ++ fieldTokens fields

/-- The tokens of the items after the first one and of the end of an array. -/
def itemTokens : List Value → List Token
  | [] => [.closeArray]
  | item :: items => .comma :: tokensOf item ++ itemTokens items

/-- The tokens of the fields after the first one and of the end of an object. -/
def fieldTokens : List (Option String × Value) → List Token
  | [] => [.closeObject]
  | field :: fields =>
    .comma :: .text field.1 :: .colon :: tokensOf field.2 ++ fieldTokens fields

end

/-- Reading the tokens of a text in front of another gives them and goes on with the other, and
there are no more tokens than characters. -/
structure Spells (text : List Char) (tokens : List Token) (rest : List Char) : Prop where
  read : ∀ fuel, readTokens (fuel + tokens.length) (text ++ rest) =
    (readTokens fuel rest).map (tokens ++ ·)
  short : tokens.length ≤ text.length

lemma Spells.append {first second rest : List Char} {tokens later : List Token}
    (h : Spells first tokens (second ++ rest)) (h' : Spells second later rest) :
    Spells (first ++ second) (tokens ++ later) rest where
  read fuel := by
    have hlength : fuel + (tokens ++ later).length = fuel + later.length + tokens.length := by
      rw [List.length_append]
      omega
    rw [hlength, List.append_assoc, h.read, h'.read, Option.map_map]
    congr 1
    funext tokens'
    simp
  short := by
    have := h.short
    have := h'.short
    simp only [List.length_append]
    omega

lemma spells_token {text : List Char} {token : Token} {rest : List Char}
    (hread : readToken (text ++ rest) = some (token, rest))
    (hspace : ∀ c ∈ (text ++ rest).head?, isSpace c = false) (hne : text ≠ []) :
    Spells text [token] rest := by
  obtain ⟨c, later, rfl⟩ := List.exists_cons_of_ne_nil hne
  refine ⟨fun fuel => ?_, by simp⟩
  have hdrop : (c :: later ++ rest).dropWhile isSpace = c :: (later ++ rest) :=
    List.dropWhile_cons_of_neg (by simp [hspace c (by simp)])
  rw [List.length_singleton, readTokens, hdrop]
  rw [List.cons_append] at hread
  simp only [hread, Option.bind_eq_bind, Option.bind_some]
  cases readTokens fuel rest <;> rfl

lemma spells_openArray (rest : List Char) : Spells ['['] [.openArray] rest :=
  spells_token rfl (by simp [isSpace]) (by simp)

lemma spells_closeArray (rest : List Char) : Spells [']'] [.closeArray] rest :=
  spells_token rfl (by simp [isSpace]) (by simp)

lemma spells_openObject (rest : List Char) : Spells ['\x7b'] [.openObject] rest :=
  spells_token rfl (by simp [isSpace]) (by simp)

lemma spells_closeObject (rest : List Char) : Spells ['\x7d'] [.closeObject] rest :=
  spells_token rfl (by simp [isSpace]) (by simp)

lemma spells_comma (rest : List Char) : Spells [','] [.comma] rest :=
  spells_token rfl (by simp [isSpace]) (by simp)

lemma spells_colon (rest : List Char) : Spells [':'] [.colon] rest :=
  spells_token rfl (by simp [isSpace]) (by simp)

lemma spells_text {s : Option String} (hs : s.isSome) (rest : List Char) :
    Spells (writeText s) [.text s] rest := by
  obtain ⟨text, rfl⟩ := Option.isSome_iff_exists.mp hs
  have hread : readToken (writeText (some text) ++ rest) = some (.text (some text), rest) := by
    have h := readText_writeText text rest
    simpa [writeText, readToken] using h
  exact spells_token hread (by simp [writeText, isSpace]) (by simp [writeText])

/-- What follows a value in an array does not go on with a number. -/
lemma endsNumber_writeItems (items : List Value) (rest : List Char) :
    EndsNumber (writeItems items ++ rest) := by
  cases items <;> simp [writeItems, EndsNumber]

/-- What follows a value in an object does not go on with a number. -/
lemma endsNumber_writeFields (fields : List (Option String × Value)) (rest : List Char) :
    EndsNumber (writeFields fields ++ rest) := by
  cases fields <;> simp [writeFields, EndsNumber]

mutual

/-- A value is written as the texts of its tokens. -/
theorem spells_value : (v : Value) → v.Legible → (rest : List Char) → EndsNumber rest →
    Spells (writeValue v) (tokensOf v) rest
  | .null, _, rest, _ => spells_token rfl (by simp [writeValue, isSpace]) (by simp [writeValue])
  | .bool true, _, rest, _ =>
    spells_token rfl (by simp [writeValue, isSpace]) (by simp [writeValue])
  | .bool false, _, rest, _ =>
    spells_token rfl (by simp [writeValue, isSpace]) (by simp [writeValue])
  | .number n, h, rest, hrest => by
    obtain ⟨hread, hspace, hne⟩ := h rest hrest
    exact spells_token hread hspace hne
  | .text s, h, rest, _ => spells_text h rest
  | .array [], _, rest, _ => (spells_openArray _).append (spells_closeArray rest)
  | .array (item :: items), h, rest, _ => by
    have hitem := spells_value item h.1 (writeItems items ++ rest) (endsNumber_writeItems _ _)
    exact ((spells_openArray _).append hitem).append (spells_items items h.2 rest)
  | .object [], _, rest, _ => (spells_openObject _).append (spells_closeObject rest)
  | .object (field :: fields), h, rest, _ => by
    have hvalue := spells_value field.2 h.2.1 (writeFields fields ++ rest)
      (endsNumber_writeFields _ _)
    have hfield := ((spells_openObject _).append (spells_text h.1 _)).append
      ((spells_colon _).append hvalue)
    exact hfield.append (spells_fields fields h.2.2 rest)

theorem spells_items : (items : List Value) → itemsLegible items → (rest : List Char) →
    Spells (writeItems items) (itemTokens items) rest
  | [], _, rest => spells_closeArray rest
  | item :: items, h, rest => by
    have hitem := spells_value item h.1 (writeItems items ++ rest) (endsNumber_writeItems _ _)
    exact ((spells_comma _).append hitem).append (spells_items items h.2 rest)

theorem spells_fields : (fields : List (Option String × Value)) → fieldsLegible fields →
    (rest : List Char) → Spells (writeFields fields) (fieldTokens fields) rest
  | [], _, rest => spells_closeObject rest
  | field :: fields, h, rest => by
    have hvalue := spells_value field.2 h.2.1 (writeFields fields ++ rest)
      (endsNumber_writeFields _ _)
    have hfield := ((spells_comma _).append (spells_text h.1 _)).append
      ((spells_colon _).append hvalue)
    exact hfield.append (spells_fields fields h.2.2 rest)

end

/-- More fuel than is needed reads the same tokens. -/
lemma readTokens_mono {fuel more : Nat} {cs : List Char} {tokens : List Token}
    (h : readTokens fuel cs = some tokens) (hmore : fuel ≤ more) :
    readTokens more cs = some tokens := by
  induction fuel generalizing more cs tokens with
  | zero =>
    rw [readTokens] at h
    split at h
    case isTrue hspace =>
      cases more with
      | zero => rwa [readTokens, if_pos hspace]
      | succ more =>
        have hdrop : cs.dropWhile isSpace = [] :=
          List.dropWhile_eq_nil_iff.mpr (List.all_eq_true.mp hspace)
        rwa [readTokens, hdrop]
    case isFalse => cases h
  | succ fuel ih =>
    obtain ⟨more, rfl⟩ : ∃ n, more = n + 1 := ⟨more - 1, by omega⟩
    rw [readTokens] at h ⊢
    cases hdrop : cs.dropWhile isSpace with
    | nil => rwa [hdrop] at h
    | cons c rest =>
      simp only [hdrop, Option.bind_eq_bind, Option.bind_eq_some_iff, Option.pure_def,
        Option.some.injEq] at h ⊢
      obtain ⟨read, hread, later, hlater, hcons⟩ := h
      exact ⟨read, hread, later, ih hlater (by omega), hcons⟩

/-- An item or a key of an array or object begins with no closing bracket. -/
lemma firstItem_tokensOf (v : Value) (stack : List Frame) (rest : List Token) :
    (Progress.firstItem stack).run (tokensOf v ++ rest) =
      (Progress.value (.array [] :: stack)).run (tokensOf v ++ rest) := by
  cases v with
  | array items => cases items <;> rfl
  | object fields => cases fields <;> rfl
  | _ => rfl

mutual

/-- The tokens of a value make the value. -/
theorem run_tokensOf : (v : Value) → (stack : List Frame) → (rest : List Token) →
    (Progress.value stack).run (tokensOf v ++ rest) = (Progress.complete v stack).run rest
  | .null, _, _ => rfl
  | .bool _, _, _ => rfl
  | .number _, _, _ => rfl
  | .text _, _, _ => rfl
  | .array [], _, _ => rfl
  | .array (item :: items), stack, rest => by
    have hitem := run_tokensOf item (.array [] :: stack) (itemTokens items ++ rest)
    have hitems := run_itemTokens items item [] stack rest
    rw [tokensOf, List.append_assoc, List.cons_append]
    exact (firstItem_tokensOf item stack _).trans (hitem.trans hitems)
  | .object [], _, _ => rfl
  | .object (field :: fields), stack, rest => by
    have hvalue := run_tokensOf field.2 (.object [] field.1 :: stack) (fieldTokens fields ++ rest)
    have hfields := run_fieldTokens fields field.1 field.2 [] stack rest
    rw [tokensOf, List.append_assoc]
    exact hvalue.trans hfields

theorem run_itemTokens : (items : List Value) → (item : Value) → (before : List Value) →
    (stack : List Frame) → (rest : List Token) →
    (Progress.complete item (.array before :: stack)).run (itemTokens items ++ rest) =
      (Progress.complete (.array (before.reverse ++ item :: items)) stack).run rest
  | [], item, before, stack, rest => by
    simp [itemTokens, Progress.run, Progress.next, continueValue]
  | next :: items, item, before, stack, rest => by
    have hitem := run_tokensOf next (.array (item :: before) :: stack) (itemTokens items ++ rest)
    have hitems := run_itemTokens items next (item :: before) stack rest
    rw [itemTokens, List.append_assoc]
    refine (hitem.trans hitems).trans ?_
    simp

theorem run_fieldTokens : (fields : List (Option String × Value)) → (key : Option String) →
    (value : Value) → (before : List (Option String × Value)) → (stack : List Frame) →
    (rest : List Token) →
    (Progress.complete value (.object before key :: stack)).run (fieldTokens fields ++ rest) =
      (Progress.complete (.object (before.reverse ++ (key, value) :: fields)) stack).run rest
  | [], key, value, before, stack, rest => by
    simp [fieldTokens, Progress.run, Progress.next, continueValue]
  | next :: fields, key, value, before, stack, rest => by
    have hvalue := run_tokensOf next.2 (.object ((key, value) :: before) next.1 :: stack)
      (fieldTokens fields ++ rest)
    have hfields := run_fieldTokens fields next.1 next.2 ((key, value) :: before) stack rest
    rw [fieldTokens, List.append_assoc]
    refine (hvalue.trans hfields).trans ?_
    simp

end

/-- A written value is read back. -/
theorem read?_write {v : Value} (h : v.Legible) : read? (write v) = some v := by
  have hspells := spells_value v h [] (by simp [EndsNumber])
  have hread := hspells.read 0
  simp only [Nat.zero_add, List.append_nil, readTokens, List.all_nil, if_true,
    Option.map_some] at hread
  have htokens : tokens? (write v).toList = some (tokensOf v) := by
    rw [write, String.toList_ofList, tokens?]
    exact readTokens_mono hread hspells.short
  have hrun := run_tokensOf v [] []
  rw [List.append_nil] at hrun
  simp only [read?, htokens, Option.bind_some, valueOfTokens?, hrun, Progress.run]

end Findings.Json
