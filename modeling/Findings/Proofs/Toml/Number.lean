import Findings.Proofs.Number.Magnitude
import Findings.Proofs.Number.ReadBack
import Findings.Toml.Scalar
import Findings.Toml.Writer

/-!
# Reading numbers of TOML back

A number may be the beginning of a date, a time, a name or a number in another base, and all of
these are tried before it is read as a decimal number. What is written as a number is none of them.
-/
namespace Findings.Toml

open Findings.Number

/-! ### What a number does not begin with -/

lemma ne_of_isDigit {c d : Char} (hc : c.isDigit = true) (hd : d.isDigit = false) : c ≠ d := by
  rintro rfl
  rw [hc] at hd
  cases hd

lemma skipChar?_eq_none {c expected : Char} (h : c ≠ expected) (rest : List Char) :
    skipChar? expected (c :: rest) = none := if_neg h

/-- Behind a fixed number of digits stands another digit, or what follows the digits. -/
lemma skipChar?_fixed? {digits rest : List Char} {c expected : Char}
    (hdigits : ∀ d ∈ digits, d.isDigit = true) (hc : c.isDigit = false)
    (hexpected : expected.isDigit = false) (hne : c ≠ expected) {count most : Nat}
    {read : Nat × List Char} (h : fixed? count most (digits ++ c :: rest) = some read) :
    skipChar? expected read.2 = none := by
  simp only [fixed?] at h
  split_ifs at h with htaken
  obtain rfl := Option.some.inj h
  simp only [Bool.and_eq_true, List.all_eq_true] at htaken
  have hcount : count ≤ digits.length := by
    by_contra hmore
    have hmem : c ∈ (digits ++ c :: rest).take count := by
      obtain ⟨k, hk⟩ := Nat.exists_eq_add_of_lt (Nat.not_le.mp hmore)
      have hbehind : count - digits.length = k + 1 := by omega
      rw [List.take_append, hbehind]
      simp
    rw [htaken.1.2 c hmem] at hc
    cases hc
  rw [List.drop_append_of_le_length hcount]
  cases hrest : digits.drop count with
  | nil => exact skipChar?_eq_none hne rest
  | cons d later =>
    have hd : d ∈ digits := List.mem_of_mem_drop (hrest ▸ List.mem_cons_self)
    exact skipChar?_eq_none (ne_of_isDigit (hdigits d hd) hexpected) _

lemma fixed?_eq_none {c : Char} (hc : c.isDigit = false) {count : Nat} (hcount : 0 < count)
    (most : Nat) (rest : List Char) : fixed? count most (c :: rest) = none := by
  obtain ⟨count, rfl⟩ := Nat.exists_eq_succ_of_ne_zero (Nat.ne_of_gt hcount)
  simp [fixed?, hc]

/-- A date or a time goes on with a minus or a colon behind its first digits. -/
lemma moment?_eq_none {digits rest : List Char} {c : Char}
    (hdigits : ∀ d ∈ digits, d.isDigit = true) (hc : c.isDigit = false) (hminus : c ≠ '-')
    (hcolon : c ≠ ':') : moment? (digits ++ c :: rest) = none := by
  have hdate : date? (digits ++ c :: rest) = none := by
    unfold date?
    cases hyear : fixed? 4 9999 (digits ++ c :: rest) with
    | none => rfl
    | some read =>
      simp only [Option.bind_eq_bind, Option.bind_some,
        skipChar?_fixed? hdigits hc (by decide) hminus hyear, Option.bind_none]
  have htime : time? (digits ++ c :: rest) = none := by
    unfold time?
    cases hhour : fixed? 2 23 (digits ++ c :: rest) with
    | none => rfl
    | some read =>
      simp only [Option.bind_eq_bind, Option.bind_some,
        skipChar?_fixed? hdigits hc (by decide) hcolon hhour, Option.bind_none]
  rw [moment?, hdate, htime]
  rfl

/-- A date or a time begins with a digit. -/
lemma moment?_eq_none_of_head {c : Char} (hc : c.isDigit = false) (rest : List Char) :
    moment? (c :: rest) = none := by
  rw [moment?, date?, time?, fixed?_eq_none hc (by decide), fixed?_eq_none hc (by decide)]
  rfl

def signChars (negative : Bool) : List Char := if negative then ['-'] else []

lemma readSign_signChars {c : Char} (hc : c.isDigit = true) (negative : Bool) (rest : List Char) :
    readSign (signChars negative ++ c :: rest) = (negative, negative, c :: rest) := by
  cases negative with
  | true => rfl
  | false =>
    rw [signChars, if_neg (by decide), List.nil_append, readSign]
    · exact fun _ heq => ne_of_isDigit hc (by decide) (List.cons.inj heq).1
    · exact fun _ heq => ne_of_isDigit hc (by decide) (List.cons.inj heq).1

/-- A name does not begin with a digit. -/
lemma named?_eq_none {c : Char} (hc : c.isDigit = true) (negative : Bool) (rest : List Char) :
    named? (signChars negative ++ c :: rest) = none := by
  simp only [named?, readSign_signChars hc]
  split
  · exact absurd (List.cons.inj ‹_›).1 (ne_of_isDigit hc (by decide))
  · exact absurd (List.cons.inj ‹_›).1 (ne_of_isDigit hc (by decide))
  · rfl

/-- A number in another base has a letter behind its zero. -/
lemma prefixed?_eq_none {digits rest : List Char} {c : Char} (h : IsWhole digits)
    (hletter : c ≠ 'x' ∧ c ≠ 'o' ∧ c ≠ 'b') (negative : Bool) :
    prefixed? (signChars negative ++ (digits ++ c :: rest)) = none := by
  cases negative with
  | true => rfl
  | false =>
    obtain ⟨d, later, rfl⟩ := List.exists_cons_of_ne_nil h.ne_nil
    have hnot {letter : Char} {behind : List Char} (hne : c ≠ letter) :
        d :: later ++ c :: rest ≠ '0' :: letter :: behind := by
      intro heq
      obtain ⟨rfl, hlater⟩ := List.cons.inj heq
      obtain rfl : later = [] := (List.cons.inj (h.zero rfl)).2
      exact hne (List.cons.inj hlater).1
    rw [signChars, if_neg (by decide), List.nil_append, prefixed?]
    · exact fun _ => hnot hletter.1
    · exact fun _ => hnot hletter.2.1
    · exact fun _ => hnot hletter.2.2

/-- What can stand behind the whole part of a number. -/
structure EndsWhole (c : Char) : Prop where
  digit : c.isDigit = false
  group : c ≠ '_'
  moment : c ≠ '-' ∧ c ≠ ':'
  letter : c ≠ 'x' ∧ c ≠ 'o' ∧ c ≠ 'b'

lemma endsWhole_point : EndsWhole '.' := by constructor <;> decide

lemma endsWhole_lineFeed : EndsWhole '\n' := by constructor <;> decide

/-- A number that begins with the digits of a whole part is read as a decimal number. -/
theorem number?_eq_decimal? {digits rest : List Char} {c : Char} (h : IsWhole digits)
    (hc : EndsWhole c) (negative : Bool) :
    number? (signChars negative ++ (digits ++ c :: rest)) =
      decimal? (signChars negative ++ (digits ++ c :: rest)) := by
  have hmoment : moment? (signChars negative ++ (digits ++ c :: rest)) = none := by
    cases negative with
    | true => exact moment?_eq_none_of_head (by decide) _
    | false => exact moment?_eq_none h.digit hc.digit hc.moment.1 hc.moment.2
  have hnamed : named? (signChars negative ++ (digits ++ c :: rest)) = none := by
    obtain ⟨d, later, rfl⟩ := List.exists_cons_of_ne_nil h.ne_nil
    exact named?_eq_none (h.digit d List.mem_cons_self) negative _
  rw [number?, hmoment, hnamed, prefixed?_eq_none h hc.letter]

/-! ### Decimal numbers -/

lemma readGrouped_cons {c : Char} (hgroup : c ≠ '_') (rest : List Char) :
    readGrouped Char.isDigit (c :: rest) =
      if c.isDigit then
        (c :: (readGrouped Char.isDigit rest).1, (readGrouped Char.isDigit rest).2)
      else ([], c :: rest) := by
  rw [readGrouped]
  exact fun _ _ heq => absurd heq hgroup

/-- Digits are read up to the first character that goes on with none. -/
lemma readGrouped_append {digits rest : List Char} (hdigits : ∀ d ∈ digits, d.isDigit = true)
    {c : Char} (hc : c.isDigit = false) (hgroup : c ≠ '_') :
    readGrouped Char.isDigit (digits ++ c :: rest) = (digits, c :: rest) := by
  induction digits with
  | nil =>
    rw [List.nil_append, readGrouped_cons hgroup, hc]
    rfl
  | cons d digits ih =>
    obtain ⟨hd, hlater⟩ := List.forall_mem_cons.mp hdigits
    rw [List.cons_append, readGrouped_cons (ne_of_isDigit hd (by decide)), if_pos hd, ih hlater]

lemma grouped?_append {digits rest : List Char} (hdigits : ∀ d ∈ digits, d.isDigit = true)
    (hne : digits ≠ []) {c : Char} (hc : c.isDigit = false) (hgroup : c ≠ '_') :
    grouped? Char.isDigit (digits ++ c :: rest) = some (digits, c :: rest) := by
  have hread : readGrouped Char.isDigit (digits ++ c :: rest) = (digits, c :: rest) :=
    readGrouped_append hdigits hc hgroup
  obtain ⟨d, later, rfl⟩ := List.exists_cons_of_ne_nil hne
  exact (if_pos (hdigits d List.mem_cons_self)).trans (congrArg some hread)

lemma wholeDigits?_append {digits rest : List Char} {c : Char} (h : IsWhole digits)
    (hc : EndsWhole c) : wholeDigits? (digits ++ c :: rest) = some (digits, c :: rest) := by
  have hgrouped : grouped? Char.isDigit (digits ++ c :: rest) = some (digits, c :: rest) :=
    grouped?_append h.digit h.ne_nil hc.digit hc.group
  obtain ⟨d, later, hcons⟩ := List.exists_cons_of_ne_nil h.ne_nil
  by_cases hzero : d = '0'
  · rw [h.zero (by rw [hcons, hzero]; rfl)]
    rfl
  · rw [hcons] at hgrouped ⊢
    rw [wholeDigits?]
    · exact hgrouped
    · exact fun _ heq => hzero (List.cons.inj heq).1

/-- A decimal number of which the digits of the whole part have been read. -/
def behindWhole? (negative : Bool) (digits cs : List Char) : Option (Value × List Char) := do
  let (fraction, cs) ← fractionDigits? cs
  let (exponent, cs) ← exponent? cs
  match fraction, exponent with
  | none, none => return (← signed? negative digits, cs)
  | _, _ => return (← float? negative digits (fraction.getD []) (exponent.getD 0), cs)

lemma decimal?_signChars {digits rest : List Char} {c : Char} (h : IsWhole digits)
    (hc : EndsWhole c) (negative : Bool) :
    decimal? (signChars negative ++ (digits ++ c :: rest)) =
      behindWhole? negative digits (c :: rest) := by
  have hwhole : wholeDigits? (digits ++ c :: rest) = some (digits, c :: rest) :=
    wholeDigits?_append h hc
  obtain ⟨d, later, rfl⟩ := List.exists_cons_of_ne_nil h.ne_nil
  have hsign := readSign_signChars (h.digit d List.mem_cons_self) negative (later ++ c :: rest)
  rw [List.cons_append] at hwhole ⊢
  simp only [decimal?, hsign, hwhole, Option.bind_eq_bind, Option.bind_some]
  rfl

/-- A whole number at the end of a line. -/
theorem number?_whole {digits : List Char} (h : IsWhole digits) (rest : List Char) :
    number? (digits ++ '\n' :: rest) =
      (signed? false digits).map (·, '\n' :: rest) := by
  have hnumber : number? (digits ++ '\n' :: rest) =
      decimal? (signChars false ++ (digits ++ '\n' :: rest)) :=
    number?_eq_decimal? h endsWhole_lineFeed false
  rw [hnumber, decimal?_signChars h endsWhole_lineFeed, behindWhole?]
  cases signed? false digits <;> rfl

/-- A float at the end of a line. -/
theorem number?_float {whole fraction : List Char} (h : IsWhole whole)
    (hfraction : ∀ d ∈ fraction, d.isDigit = true) (hne : fraction ≠ []) (negative : Bool)
    (rest : List Char) :
    number? (signChars negative ++ (whole ++ '.' :: (fraction ++ '\n' :: rest))) =
      (float? negative whole fraction 0).map (·, '\n' :: rest) := by
  have hgrouped : grouped? Char.isDigit (fraction ++ '\n' :: rest) =
      some (fraction, '\n' :: rest) := grouped?_append hfraction hne (by decide) (by decide)
  have hexponent : exponent? ('\n' :: rest) = some (none, '\n' :: rest) := rfl
  rw [number?_eq_decimal? h endsWhole_point, decimal?_signChars h endsWhole_point]
  simp only [behindWhole?, fractionDigits?, hgrouped, hexponent, Option.map_some, Option.bind_eq_bind,
    Option.bind_some, Option.getD_some, Option.getD_none]
  cases float? negative whole fraction 0 <;> rfl

/-! ### Written numbers -/

/-- What a number begins with. -/
def BeginsNumber (c : Char) : Prop := c.isDigit = true ∨ c = '-' ∨ c = 'n' ∨ c = 'i'

/-- A text that is read as a number at the end of a line. -/
structure IsNumber (text : List Char) (value : Value) : Prop where
  head : ∃ c later, text = c :: later ∧ BeginsNumber c
  read : ∀ rest, number? (text ++ '\n' :: rest) = some (value, '\n' :: rest)

/-- A whole number that is a signed word is read back. -/
theorem isNumber_natural {n : Nat} (hn : n < signedCount) :
    IsNumber (writeNatural n) (.integer n) := by
  have hsigned : signed? false (writeNatural n) = some (.integer n) := by
    simp only [signed?, signedWord?, writeNatural, digitsValue_toDigits, Bool.false_eq_true,
      if_false, if_pos hn, Option.map_some]
  constructor
  · obtain ⟨c, later, hcons⟩ := List.exists_cons_of_ne_nil (Nat.toDigits_ne_nil (b := 10) (n := n))
    exact ⟨c, later, hcons, .inl (isDigit_toDigits n c (hcons ▸ List.mem_cons_self))⟩
  · intro rest
    rw [writeNatural, number?_whole (isWhole_toDigits n), ← writeNatural, hsigned, Option.map_some]

/-- A float as it is read back: what is not a number comes back as the one of that name. -/
def settled (x : Double) : Double := if x.isNaN then Binary.nan false else x

lemma writeFloat_of_isFinite {x : Double} (hx : x.isFinite = true) :
    ∃ whole fraction, writeFloat x = signChars x.negative ++ (whole ++ '.' :: fraction) ∧
      IsPointed whole fraction (shortest x).pointed := by
  have hnumber := Binary.isNaN_of_isFinite hx
  have hfinite := Binary.isInfinite_of_isFinite hx
  have hsign : (if x.negative then "-" else "").toList = signChars x.negative := by
    cases x.negative <;> rfl
  have hpoint : '.' ∉ signChars x.negative := by cases x.negative <;> decide
  have htext : x.plainText.toList = signChars x.negative ++ (shortest x).positional.toList := by
    simp only [Binary.plainText, hnumber, hfinite, Bool.false_eq_true, if_false,
      String.toList_append, hsign]
  simp only [writeFloat, hnumber, hfinite, htext, Bool.false_eq_true, if_false, Bool.false_or,
    List.contains_iff_mem, List.mem_append, hpoint, false_or]
  by_cases hexponent : 0 ≤ (shortest x).exponent
  · have hpointed := isPointed_of_nonneg hexponent (shortest_zero x)
    have hnone : '.' ∉ (shortest x).positional.toList := fun h =>
      absurd (hpointed.isWhole.digit _ h) (by decide)
    rw [if_neg hnone]
    exact ⟨_, _, List.append_assoc _ _ _, hpointed⟩
  · have hneg := Int.not_le.mp hexponent
    have hdigits : (shortest x).digits ≠ 0 := fun h => by
      rw [shortest_zero x h] at hneg
      omega
    obtain ⟨whole, fraction, hwritten, hpointed⟩ := isPointed_of_neg hneg hdigits
    rw [hwritten, if_pos (by simp)]
    exact ⟨_, _, rfl, hpointed⟩

lemma isNumber_finite {x : Double} (hx : x.isFinite = true) : IsNumber (writeFloat x) (.float x) := by
  obtain ⟨whole, fraction, hwritten, hpointed⟩ := writeFloat_of_isFinite hx
  constructor
  · obtain ⟨d, later, hcons⟩ := List.exists_cons_of_ne_nil hpointed.isWhole.ne_nil
    rw [hwritten, hcons]
    cases x.negative with
    | true => exact ⟨_, _, rfl, .inr (.inl rfl)⟩
    | false => exact ⟨_, _, rfl, .inl (hpointed.isWhole.digit d (hcons ▸ List.mem_cons_self))⟩
  · intro rest
    have hread := ofDecimal_shortest x hx
    rw [← hpointed.digits, ← hpointed.exponent] at hread
    have hfloat : float? x.negative whole fraction 0 = some (.float x) := by
      simp only [float?, Int.zero_sub, hread, Binary.isInfinite_of_isFinite hx, Bool.false_and,
        Bool.false_eq_true, if_false]
    rw [hwritten, List.append_assoc, List.append_assoc, List.cons_append,
      number?_float hpointed.isWhole hpointed.digit hpointed.ne_nil, hfloat, Option.map_some]

/-- Every float is read back. -/
theorem isNumber_float (x : Double) : IsNumber (writeFloat x) (.float (settled x)) := by
  rcases Nat.lt_trichotomy x.code Format.double.infinity with hfinite | hinfinite | hnan
  · have hx : x.isFinite = true := decide_eq_true hfinite
    have hnumber : settled x = x := by
      rw [settled, Binary.isNaN_of_isFinite hx, if_neg (by decide)]
    rw [hnumber]
    exact isNumber_finite hx
  · obtain ⟨negative, code⟩ := x
    cases hinfinite
    cases negative with
    | true => exact ⟨⟨_, _, rfl, .inr (.inl rfl)⟩, fun _ => rfl⟩
    | false => exact ⟨⟨_, _, rfl, .inr (.inr (.inr rfl))⟩, fun _ => rfl⟩
  · have hx : x.isNaN = true := decide_eq_true hnan
    rw [writeFloat, settled, if_pos hx, if_pos hx]
    exact ⟨⟨_, _, rfl, .inr (.inr (.inl rfl))⟩, fun _ => rfl⟩

end Findings.Toml
