import Findings.Json.Decode
import Findings.Proofs.Json.RoundTrip
import Findings.Proofs.Number.Digits
import Mathlib.Data.List.Forall2

/-!
# Decoding written values

A value of some type is encoded as a JSON value and decoded again. Encoding goes along with
decoding if the encoded value is legible and decodes to what it should; then its document is read
as that. Texts, whole numbers, lists, missing values and records of fields are built up in this way.
-/
namespace Findings.Json

/-! ### Whole numbers -/

/-- Digits are read up to what is none. -/
lemma readDigits_append {digits rest : List Char} (hdigit : ∀ c ∈ digits, c.isDigit = true)
    (hne : digits ≠ []) (hrest : EndsNumber rest) :
    readDigits (digits ++ rest) = some (digits, rest) := by
  have htake : rest.takeWhile Char.isDigit = [] ∧ rest.dropWhile Char.isDigit = rest := by
    cases rest with
    | nil => exact ⟨rfl, rfl⟩
    | cons c later => simp [(hrest c (by simp)).1]
  simp [readDigits, List.takeWhile_append_of_pos hdigit, List.dropWhile_append_of_pos hdigit,
    htake, hne]

/-- The digits of a number are read as its whole part. -/
lemma readWhole_append {digits rest : List Char} (hdigits : Number.IsWhole digits)
    (hrest : EndsNumber rest) : readWhole (digits ++ rest) = some (digits, rest) := by
  by_cases hzero : digits.head? = some '0'
  · rw [hdigits.zero hzero]
    rfl
  · have hread := readDigits_append hdigits.digit hdigits.ne_nil hrest
    obtain ⟨c, later, rfl⟩ := List.exists_cons_of_ne_nil hdigits.ne_nil
    rw [List.cons_append] at hread ⊢
    rw [readWhole, hread]
    intro rest' heq
    exact hzero (congrArg some (List.cons.inj heq).1)

/-- What ends a number has no point and no power of ten. -/
lemma readRest_of_endsNumber {rest : List Char} (hrest : EndsNumber rest) :
    readFraction rest = some ([], rest) ∧ readPower rest = some (none, rest) := by
  cases rest with
  | nil => exact ⟨rfl, rfl⟩
  | cons c later =>
    obtain ⟨-, hpoint, hsmall, hlarge⟩ := hrest c rfl
    constructor
    · rw [readFraction]
      intro later' heq
      exact hpoint (List.cons.inj heq).1
    · simp [readPower, hsmall, hlarge]

/-- A number is told by its first character. -/
lemma readToken_of_digit {c : Char} {rest : List Char} (h : c = '-' ∨ c.isDigit = true) :
    readToken (c :: rest) = readNumber (c :: rest) := by
  unfold readToken
  split <;> first | rfl | simp_all

/-- A whole number is legible. -/
theorem legible_ofInt (n : Int) : (Number.ofInt n).Legible := by
  intro rest hrest
  have hdigits := Number.isWhole_toDigits n.natAbs
  have hwhole := readWhole_append hdigits hrest
  obtain ⟨hfraction, hpower⟩ := readRest_of_endsNumber hrest
  obtain ⟨c, later, hcons⟩ := List.exists_cons_of_ne_nil hdigits.ne_nil
  have hdigit : c.isDigit = true := hdigits.digit c (by simp [hcons])
  have hother : ∀ d : Char, d.isDigit = false → c ≠ d := by
    intro d hd heq
    rw [heq, hd] at hdigit
    cases hdigit
  have hspace : isSpace c = false := by
    simp [isSpace, hother ' ' rfl, hother '\n' rfl, hother '\r' rfl, hother '\t' rfl]
  -- a minus or the first digit tells that the token is a number
  by_cases hn : n < 0
  · have htext : writeNumber (.ofInt n) ++ rest = '-' :: (Nat.toDigits 10 n.natAbs ++ rest) := by
      simp [writeNumber, Number.ofInt, hn]
    rw [htext]
    refine ⟨?_, by simp [isSpace], by simp [writeNumber, Number.ofInt, hn]⟩
    rw [readToken_of_digit (.inl rfl)]
    simp [readNumber, hwhole, hfraction, hpower, Number.ofInt, hn]
  · have htext : writeNumber (.ofInt n) ++ rest = Nat.toDigits 10 n.natAbs ++ rest := by
      simp [writeNumber, Number.ofInt, hn]
    have hne : writeNumber (.ofInt n) ≠ [] := by simp [writeNumber, Number.ofInt]
    rw [htext, hcons, List.cons_append]
    rw [hcons, List.cons_append] at hwhole
    refine ⟨?_, by simp [hspace], hne⟩
    rw [readToken_of_digit (.inr hdigit)]
    simp [readNumber, hother '-' rfl, hwhole, hfraction, hpower, Number.ofInt, hn, hcons]

/-- A signed word has its value back. -/
theorem integer?_ofInt {n : Int} (hlow : -(Number.signedCount : Int) ≤ n)
    (hhigh : n < Number.signedCount) : (Number.ofInt n).integer? = some n := by
  have hwhole : (Number.ofInt n).whole? = some n.natAbs :=
    congrArg some (Number.digitsValue_toDigits n.natAbs)
  obtain ⟨m, hm⟩ : ∃ m, n.natAbs = m := ⟨_, rfl⟩
  rw [Number.integer?, hwhole, hm]
  simp only [Option.bind_eq_bind, Option.bind_some, Number.ofInt, Number.signedWord?]
  by_cases hn : n < 0
  · have hsome : m ≠ 0 := by omega
    have hword : m ≤ Number.signedCount := by omega
    have hvalue : -(m : Int) = n := by omega
    simp [hn, hsome, hword, hvalue]
  · have hword : m < Number.signedCount := by omega
    have hvalue : (m : Int) = n := by omega
    simp [hn, hword, hvalue]

/-- The value of a number is a signed word. -/
lemma integer?_range {value : Value} {n : Int} (h : value.integer? = some n) :
    -(Number.signedCount : Int) ≤ n ∧ n < Number.signedCount := by
  cases value with
  | number number =>
    simp only [Value.integer?, Number.integer?, Option.bind_eq_bind,
      Option.bind_eq_some_iff] at h
    obtain ⟨m, -, h⟩ := h
    have hwords : 0 < Number.signedCount := by decide
    simp only [Number.signedWord?] at h
    split_ifs at h <;> simp only [Option.some.injEq] at h <;> omega
  | _ => cases h

/-! ### Values that are decoded again -/

section Decodes

variable {α : Type} {encode : α → Value} {decode? : Value → Option α} {a b : α}

/-- The value of `a` is legible and decodes to `b`. -/
structure Decodes (encode : α → Value) (decode? : Value → Option α) (a b : α) : Prop where
  legible : (encode a).Legible
  decode : decode? (encode a) = some b

/-- The document of a value is read as what the value decodes to. -/
theorem Decodes.read (h : Decodes encode decode? a b) :
    (read? (write (encode a))).bind decode? = some b := by
  rw [read?_write h.legible, Option.bind_some, h.decode]

lemma decodes_ofString (s : String) : Decodes Value.ofString Value.string? s s := ⟨rfl, rfl⟩

/-- A list decodes item by item. -/
lemma Decodes.list {items decoded : List α}
    (h : List.Forall₂ (Decodes encode decode?) items decoded) :
    Decodes (fun items => .array (items.map encode)) (Value.list? decode?) items decoded := by
  induction h with
  | nil => exact ⟨trivial, rfl⟩
  | cons hitem _ ih =>
    obtain ⟨hlegible, hdecode⟩ := ih
    refine ⟨⟨hitem.legible, hlegible⟩, ?_⟩
    simp only [Value.list?, Value.items?, Option.bind_some] at hdecode ⊢
    rw [List.map_cons, List.mapM_cons, hitem.decode, hdecode]
    rfl

/-- A missing value decodes to none. -/
lemma Decodes.ofOption {settle : α → α} (h : ∀ a, Decodes encode decode? a (settle a))
    (hnull : ∀ a, encode a ≠ .null) (a : Option α) :
    Decodes (Value.ofOption encode) (Value.orNull? decode?) a (a.map settle) := by
  cases a with
  | none => exact ⟨trivial, rfl⟩
  | some a =>
    refine ⟨(h a).legible, ?_⟩
    show (encode a).orNull? decode? = some (some (settle a))
    unfold Value.orNull?
    split
    case h_1 heq => exact absurd heq (hnull a)
    case h_2 => rw [(h a).decode, Option.map_some]

/-- What a list decodes to are values that items decode to. -/
lemma exists_of_mem_list? {value : Value} {items : List α}
    (h : value.list? decode? = some items) (ha : a ∈ items) : ∃ item, decode? item = some a := by
  obtain ⟨values, -, hvalues⟩ := Option.bind_eq_some_iff.mp h
  clear h
  induction values generalizing items with
  | nil =>
    obtain rfl : [] = items := Option.some.inj hvalues
    cases ha
  | cons value values ih =>
    simp only [List.mapM_cons, Option.bind_eq_bind, Option.bind_eq_some_iff, Option.pure_def,
      Option.some.injEq] at hvalues
    obtain ⟨item, hitem, others, hothers, rfl⟩ := hvalues
    cases ha with
    | head => exact ⟨value, hitem⟩
    | tail _ hlater => exact ih hlater hothers

/-- What a field that may be missing decodes to is a value that it holds. -/
lemma exists_of_mem_orMissing? {value : Option Value} {found : Option α}
    (h : orMissing? decode? value = some found) (ha : a ∈ found) :
    ∃ item, decode? item = some a := by
  cases value with
  | none =>
    obtain rfl : none = found := Option.some.inj h
    cases ha
  | some value =>
    simp only [orMissing?, Value.orNull?] at h
    split at h
    case h_1 =>
      obtain rfl : none = found := Option.some.inj h
      cases ha
    case h_2 =>
      obtain ⟨b, hb, rfl⟩ := Option.map_eq_some_iff.mp h
      exact ⟨value, hb.trans (congrArg some (Option.mem_some_iff.mp ha))⟩

end Decodes

/-! ### Records -/

/-- A key that occurs once is found with its value. -/
lemma filter_key {entries : List (String × Value)} (honce : (entries.map (·.1)).Nodup)
    {entry : String × Value} (hentry : entry ∈ entries) :
    (entries.map fun entry => (some entry.1, entry.2)).filter (·.1 == some entry.1) =
      [(some entry.1, entry.2)] := by
  induction entries with
  | nil => cases hentry
  | cons first later ih =>
    rw [List.map_cons, List.nodup_cons] at honce
    rw [List.map_cons, List.filter_cons]
    cases hentry with
    | head =>
      have hnone : (later.map fun entry => (some entry.1, entry.2)).filter
          (·.1 == some entry.1) = [] := by
        simp only [List.filter_eq_nil_iff, List.forall_mem_map, beq_iff_eq, Option.some.injEq]
        intro other hother hsame
        exact honce.1 (hsame ▸ List.mem_map_of_mem hother)
      rw [if_pos (beq_self_eq_true _), hnone]
    | tail _ hlater =>
      have hdiffers : first.1 ≠ entry.1 := by
        intro hsame
        exact honce.1 (hsame ▸ List.mem_map_of_mem hlater)
      rw [if_neg (by simpa using hdiffers), ih honce.2 hlater]

/-- Declared fields take the entries of their names, whatever other entries there are. -/
lemma mapM_fieldOf {entries : List (String × Value)} (honce : (entries.map (·.1)).Nodup)
    {fields : List Field} {taken : List (String × Value)} (htaken : taken ⊆ entries)
    (hnames : taken.map (·.1) = fields.map (·.name)) :
    fields.mapM (fieldOf (entries.map fun entry => (some entry.1, entry.2))) =
      some (taken.map fun entry => some entry.2) := by
  induction fields generalizing taken with
  | nil =>
    rw [List.map_eq_nil_iff.mp hnames]
    rfl
  | cons field fields ih =>
    obtain ⟨entry, others, rfl, hname, hothers⟩ := List.map_eq_cons_iff.mp hnames
    have hfound := filter_key honce (htaken List.mem_cons_self)
    have hvalue : fieldOf (entries.map fun entry => (some entry.1, entry.2)) field =
        some (some entry.2) := by
      rw [fieldOf, show field.name = entry.1 from hname.symm, hfound]
    rw [List.mapM_cons, hvalue, ih (List.subset_of_cons_subset htaken) hothers]
    rfl

/-- The object of the declared fields gives their values. -/
theorem fields?_record {declared : List Field} {entries : List (String × Value)}
    (hnames : entries.map (·.1) = declared.map (·.name)) (honce : (declared.map (·.name)).Nodup) :
    (Value.record entries).fields? declared = some (entries.map fun entry => some entry.2) := by
  have hall : (entries.map fun entry => (some entry.1, entry.2)).all (·.1.isSome) = true := by
    simp
  rw [← hnames] at honce
  rw [Value.record, Value.fields?, if_pos hall, mapM_fieldOf honce (List.Subset.refl _) hnames]

/-- An object is legible if its values are. -/
lemma legible_record {entries : List (String × Value)}
    (h : ∀ entry ∈ entries, entry.2.Legible) : (Value.record entries).Legible := by
  show fieldsLegible (entries.map fun entry => (some entry.1, entry.2))
  induction entries with
  | nil => trivial
  | cons entry entries ih =>
    rw [List.forall_mem_cons] at h
    exact ⟨rfl, h.1, ih h.2⟩

end Findings.Json
