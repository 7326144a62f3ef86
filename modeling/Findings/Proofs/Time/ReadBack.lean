import Findings.Proofs.Time.Calendar
import Findings.Proofs.Time.Digits

/-!
# Reading timestamps back

What a timestamp is written as is read back as its reading of calendar and clock, and the reading
has a timestamp: the same one, unless a leap second is not at the end of a minute.
-/
namespace Findings.Time

open Findings.Text

/-- Without a sign a year has at most four digits. -/
lemma year?_of_isDigit {c : Char} {rest : List Char} (h : c.isDigit = true) :
    year? (c :: rest) = (digits? 4 (c :: rest)).map fun (n, rest) => ((n : Int), rest) := by
  rw [year?, skipBlank_cons (isBlank_of_isDigit h)]
  split
  · simp_all
  · simp_all
  · rfl

/-- The year of a date is read up to the hyphen behind it. -/
lemma year?_yearText (year : Int) (rest : List Char) :
    year? (yearText year ++ '-' :: rest) = some (year, '-' :: rest) := by
  have hends : EndsDigits ('-' :: rest) := by simp [EndsDigits]
  unfold yearText
  split
  case isTrue hplain =>
    obtain ⟨hlow, hhigh⟩ : 0 ≤ year ∧ year ≤ 9999 := by simpa using hplain
    have hread : digits? 4 (padded 4 year.toNat ++ '-' :: rest) = some (year.toNat, '-' :: rest) :=
      digits?_padded (by decide) (by omega) _
    obtain ⟨c, later, hcons, hdigit⟩ := exists_digit_padded 4 year.toNat
    rw [hcons, List.cons_append] at hread ⊢
    simp only [year?_of_isDigit hdigit, hread, Option.map_some, Int.toNat_of_nonneg hlow]
  case isFalse hsigned =>
    by_cases hnegative : year < 0
    · rw [if_pos hnegative, List.cons_append, year?, skipBlank_cons (by decide)]
      simp only [digits?_padded_all hends, Option.map_some, Option.some.injEq, Prod.mk.injEq,
        and_true]
      omega
    · rw [if_neg hnegative, List.cons_append, year?, skipBlank_cons (by decide)]
      simp only [digits?_padded_all hends, Option.map_some, Option.some.injEq, Prod.mk.injEq,
        and_true]
      omega

/-- What the parts of a date or a time may be separated by: nothing but white space. -/
def PassesBlank (gap : List Char → List Char) : Prop :=
  ∀ c rest, isBlank c = false → gap (c :: rest) = c :: rest

lemma passesBlank_id : PassesBlank id := fun _ _ _ => rfl

lemma passesBlank_skipBlank : PassesBlank skipBlank := fun _ _ => skipBlank_cons

section Parts

variable {gap : List Char → List Char} (hgap : PassesBlank gap)

include hgap

lemma expect?_gap {c : Char} (hc : isBlank c = false) (rest : List Char) :
    expect? c (gap (c :: rest)) = some rest := by
  rw [hgap c rest hc, expect?, if_pos rfl]

lemma date?_dateText {d : Date} (hmonth : d.month < 100) (hday : d.day < 100) (rest : List Char) :
    date? gap (dateText d ++ rest) = some (d, rest) := by
  have hhyphen := expect?_gap hgap (c := '-') (by decide)
  simp only [date?, dateText, List.append_assoc, List.cons_append, year?_yearText,
    Option.bind_eq_bind, Option.bind_some, hhyphen, pair?_padded hmonth, pair?_padded hday,
    Option.pure_def]

end Parts

/-- A fraction of some digits is read back if it is a whole number of its units. -/
lemma fraction?_padded (width nanos : Nat) {rest : List Char} (hwidth : 0 < width)
    (hmost : width ≤ 9) (hn : nanos / 10 ^ (9 - width) < 10 ^ width)
    (hwhole : nanos % 10 ^ (9 - width) = 0) (hrest : EndsDigits rest) :
    fraction? ('.' :: (padded width (nanos / 10 ^ (9 - width)) ++ rest)) = some (nanos, rest) := by
  have hlength := length_padded hwidth hn
  have hread : digits? 9 (padded width (nanos / 10 ^ (9 - width)) ++ rest) = some (_, rest) :=
    digits?_append (padded_ne_nil width _) (fun c => isDigit_of_mem_padded) (by omega) (.inr hrest)
  have hdrop : rest.dropWhile Char.isDigit = rest := by
    cases rest with
    | nil => rfl
    | cons c later => rw [List.dropWhile_cons_of_neg (by simp [hrest c (by simp)])]
  have hcount : (padded width (nanos / 10 ^ (9 - width)) ++ rest).length - rest.length = width := by
    rw [List.length_append, hlength]
    omega
  have hvalue : nanos / 10 ^ (9 - width) * Nat.pow 10 (9 - width) = nanos :=
    Nat.div_mul_cancel (Nat.dvd_of_mod_eq_zero hwhole)
  simp only [fraction?, hread, Option.map_some, ofDigitChars_padded, hcount, hvalue, hdrop]

lemma fraction?_fractionText {nanos : Nat} {rest : List Char} (hn : nanos < 1000000000)
    (hrest : EndsDigits rest) (hpoint : rest.head? ≠ some '.') :
    fraction? (fractionText nanos ++ rest) = some (nanos, rest) := by
  unfold fractionText
  split
  case isTrue hzero =>
    subst hzero
    cases rest with
    | nil => rfl
    | cons c later =>
      rw [List.nil_append, fraction?]
      intro later' hcons
      exact hpoint (by rw [hcons]; rfl)
  case isFalse hsome =>
    split
    case isTrue hmillis =>
      exact fraction?_padded 3 nanos (by decide) (by decide) (by omega) hmillis hrest
    case isFalse hrest' =>
      split
      case isTrue hmicros =>
        exact fraction?_padded 6 nanos (by decide) (by decide) (by omega) hmicros hrest
      case isFalse =>
        simpa using fraction?_padded 9 nanos (by decide) (by decide) (by omega) (by omega) hrest

lemma clock?_clockText {gap : List Char → List Char} (hgap : PassesBlank gap) {r : ClockReading}
    (rest : List Char) (hhour : r.hour < 100) (hminute : r.minute < 100) (hsecond : r.second < 100)
    (hnanos : r.nanos < 1000000000) (hrest : EndsDigits rest) (hpoint : rest.head? ≠ some '.') :
    clock? gap r.date (clockText r ++ rest) = some (r, rest) := by
  have hcolon := expect?_gap hgap (c := ':') (by decide)
  simp only [clock?, clockText, List.append_assoc, List.cons_append, Option.bind_eq_bind,
    Option.bind_some, hcolon, pair?_padded hhour, pair?_padded hminute, pair?_padded hsecond,
    fraction?_fractionText hnanos hrest hpoint, Option.pure_def]

lemma skipBlank_space (rest : List Char) : skipBlank (' ' :: rest) = skipBlank rest :=
  List.dropWhile_cons_of_pos (by decide)

lemma skipBlank_clockText (r : ClockReading) (rest : List Char) :
    skipBlank (clockText r ++ rest) = clockText r ++ rest := by
  simp only [clockText, List.append_assoc, List.cons_append, skipBlank_padded]

lemma daysInMonth_le (year : Int) (month : Nat) : daysInMonth year month ≤ 31 := by
  unfold daysInMonth
  split_ifs <;> omega

/-- Whether a character is below the letter that may stand between date and time. -/
def isBelowT (c : Char) : Bool := c.toNat < 'T'.toNat

/-- Characters below the letter have no byte of it. -/
lemma utf8EncodeChar_ne {c : Char} (h : isBelowT c = true) :
    ∀ byte ∈ String.utf8EncodeChar c, byte ≠ 'T'.toUInt8 := by
  have hlt : c.toNat < 84 := of_decide_eq_true h
  have hsize : c.utf8Size = 1 := by
    rw [Char.utf8Size_eq_one_iff]
    exact UInt32.le_iff_toNat_le.mpr (by change c.toNat ≤ 127; omega)
  rw [String.utf8EncodeChar_eq_singleton hsize]
  intro byte hbyte heq
  rw [List.mem_singleton] at hbyte
  subst hbyte
  have hcode := congrArg UInt8.toNat heq
  rw [UInt32.toNat_toUInt8] at hcode
  change c.toNat % 256 = 84 at hcode
  omega

lemma toUTF8_ne {cs : List Char} (h : cs.all isBelowT = true) (i : Nat) :
    (String.ofList cs).toUTF8[i]? ≠ some 'T'.toUInt8 := by
  intro hget
  obtain ⟨hlt, hget⟩ := getElem?_eq_some_iff.mp hget
  have hmem : 'T'.toUInt8 ∈ cs.flatMap String.utf8EncodeChar := by
    rw [← hget, ByteArray.getElem_eq_getElem_data]
    simp only [String.toUTF8, String.toByteArray_ofList, List.utf8Encode, List.data_toByteArray]
    exact List.getElem_mem _
  obtain ⟨c, hc, hbyte⟩ := List.mem_flatMap.mp hmem
  exact utf8EncodeChar_ne (List.all_eq_true.mp h c hc) _ hbyte rfl

@[simp] lemma all_isBelowT_padded (width n : Nat) : (padded width n).all isBelowT = true := by
  refine List.all_eq_true.mpr fun c hc => ?_
  have hdigit := isDigit_of_mem_padded hc
  have hrange : 48 ≤ c.toNat ∧ c.toNat ≤ 57 := by
    simpa [Char.isDigit, UInt32.le_iff_toNat_le] using hdigit
  have hT : 'T'.toNat = 84 := rfl
  simp only [isBelowT, decide_eq_true_eq]
  omega

@[simp] lemma all_isBelowT_dateText (d : Date) : (dateText d).all isBelowT = true := by
  have hhyphen : isBelowT '-' = true := by decide
  have hplus : isBelowT '+' = true := by decide
  simp only [dateText, yearText, List.all_append, List.all_cons, hhyphen, all_isBelowT_padded]
  split_ifs <;> simp [hhyphen, hplus]

@[simp] lemma all_isBelowT_clockText (r : ClockReading) : (clockText r).all isBelowT = true := by
  have hcolon : isBelowT ':' = true := by decide
  have hpoint : isBelowT '.' = true := by decide
  simp only [clockText, fractionText, List.all_append, List.all_cons, hcolon, all_isBelowT_padded]
  split_ifs <;> simp [hpoint]

namespace Timestamp

variable (t : Timestamp)

/-- The calendar and the clock have the reading of every timestamp. -/
lemma isValid_reading : t.reading.isValid = true := by
  obtain ⟨hfirst, hend⟩ := t.seconds_range
  have hday := Int.emod_nonneg t.seconds (by decide : (86400 : Int) ≠ 0)
  have hday' := Int.emod_lt_of_pos t.seconds (by decide : (0 : Int) < 86400)
  have hlow : firstYear ≤ t.reading.date.year := by
    have h := (year_ofDayNumber_lt_iff (t.seconds / 86400) firstYear).not
    rw [firstSecond] at hfirst
    exact Int.not_lt.mp (h.mpr (by omega))
  have hhigh : t.reading.date.year ≤ lastYear := by
    have h := year_ofDayNumber_lt_iff (t.seconds / 86400) (lastYear + 1)
    rw [endSecond] at hend
    exact Int.lt_add_one_iff.mp (h.mpr (by omega))
  have hclock : t.reading.hour ≤ 23 ∧ t.reading.minute ≤ 59 ∧ t.reading.second ≤ 60 := by
    simp only [reading]
    refine ⟨by omega, by omega, ?_⟩
    split <;> omega
  have hdate : t.reading.date.isValid = true := isValid_ofDayNumber (t.seconds / 86400)
  simp [ClockReading.isValid, hlow, hhigh, hdate, hclock]

lemma nanos_reading : t.reading.nanos < 1000000000 := by
  have hnanos := t.nanos_lt
  simp only [reading]
  split
  case isTrue hleap => omega
  case isFalse hleap => simpa using hleap

/-- The numbers of a reading have two digits. -/
lemma reading_lt : t.reading.date.month < 100 ∧ t.reading.date.day < 100 ∧ t.reading.hour < 100 ∧
    t.reading.minute < 100 ∧ t.reading.second < 100 := by
  have hvalid := t.isValid_reading
  simp only [ClockReading.isValid, Date.isValid, Bool.and_eq_true, decide_eq_true_eq] at hvalid
  have hdays := daysInMonth_le t.reading.date.year t.reading.date.month
  omega

/-- The date and the clock of a timestamp are read back. -/
lemma columnReading?_columnText :
    columnReading? t.columnText = some (t.reading, ['+', '0', '0', ':', '0', '0']) := by
  obtain ⟨hmonth, hday, hhour, hminute, hsecond⟩ := t.reading_lt
  have hdate := date?_dateText passesBlank_id hmonth hday
    (' ' :: (clockText t.reading ++ ['+', '0', '0', ':', '0', '0']))
  have hclock := clock?_clockText passesBlank_id ['+', '0', '0', ':', '0', '0'] hhour
    hminute hsecond t.nanos_reading (by simp [EndsDigits]) (by decide)
  have hall : (dateText t.reading.date ++
      ' ' :: clockText t.reading ++ ['+', '0', '0', ':', '0', '0']).all isBelowT = true := by
    simp only [List.all_append, List.all_cons, all_isBelowT_dateText, all_isBelowT_clockText]
    decide
  have hT : (t.columnText.toUTF8[10]? == some 'T'.toUInt8) = false := by
    rw [beq_eq_false_iff_ne]
    exact toUTF8_ne hall 10
  have hblank : skipBlank (' ' :: (clockText t.reading ++ ['+', '0', '0', ':', '0', '0'])) =
      clockText t.reading ++ ['+', '0', '0', ':', '0', '0'] :=
    (skipBlank_space _).trans (skipBlank_clockText _ _)
  have hchars : t.columnText.toList =
      dateText t.reading.date ++ ' ' :: (clockText t.reading ++ ['+', '0', '0', ':', '0', '0']) := by
    simp [columnText]
  simp only [columnReading?, hT, hchars, hdate, columnSeparator?, hblank, Option.bind_eq_bind,
    Option.bind_some, Bool.false_eq_true, if_false, hclock]

/-- The timestamp with a fraction above one only at the end of a minute. -/
def settled : Timestamp :=
  if h : 1000000000 ≤ t.nanos ∧ t.seconds % 60 ≠ 59 then
    { seconds := t.seconds + 1
      nanos := t.nanos - 1000000000
      seconds_range := by
        have hrange := t.seconds_range
        have hend : endSecond = 8210266876800 := by decide
        omega
      nanos_lt := by
        have hnanos := t.nanos_lt
        omega }
  else t

lemma seconds_settled : t.settled.seconds =
    if 1000000000 ≤ t.nanos ∧ t.seconds % 60 ≠ 59 then t.seconds + 1 else t.seconds := by
  unfold settled
  split <;> rfl

lemma nanos_settled : t.settled.nanos =
    if 1000000000 ≤ t.nanos ∧ t.seconds % 60 ≠ 59 then t.nanos - 1000000000 else t.nanos := by
  unfold settled
  split <;> rfl

/-- The reading of a timestamp has a timestamp. -/
theorem timestamp?_reading : t.reading.timestamp? 0 = some t.settled := by
  have hnumber := dayNumber_ofDayNumber (t.seconds / 86400)
  have hday := Int.emod_nonneg t.seconds (by decide : (86400 : Int) ≠ 0)
  have hday' := Int.emod_lt_of_pos t.seconds (by decide : (0 : Int) < 86400)
  have hof : ∀ u : Timestamp, Timestamp.of? u.seconds u.nanos = some u := by
    intro u
    rw [Timestamp.of?, dif_pos ⟨u.seconds_range, u.nanos_lt⟩]
  rw [← hof, ClockReading.timestamp?, t.isValid_reading]
  simp only [Bool.not_true, Bool.false_eq_true, if_false]
  have hseconds : t.reading.date.dayNumber * 86400 + ((t.reading.hour * 3600 +
      t.reading.minute * 60 + min t.reading.second 59 : Nat) : Int) - 0 = t.settled.seconds := by
    simp only [reading, seconds_settled, hnumber]
    split_ifs <;> omega
  have hnanos : (if t.reading.second = 60 then t.reading.nanos + 1000000000 else t.reading.nanos) =
      t.settled.nanos := by
    simp only [reading, nanos_settled]
    split_ifs <;> omega
  rw [hseconds, hnanos]

/-- A timestamp is read back from its column. -/
theorem ofColumn?_columnText : ofColumn? t.columnText = some t.settled := by
  have hzone : zone? true (skipBlank ['+', '0', '0', ':', '0', '0']) = some (0, []) := by decide
  have hzoned : zonedColumn? t.columnText = some t.settled := by
    simp only [zonedColumn?, columnReading?_columnText, hzone, Option.bind_eq_bind,
      Option.bind_some, List.isEmpty_nil, if_true, timestamp?_reading]
  rw [ofColumn?, hzoned]
  rfl

/-- A timestamp is read back from a document. -/
theorem read?_text : read? t.text = some t.settled := by
  obtain ⟨hmonth, hday, hhour, hminute, hsecond⟩ := t.reading_lt
  have hdate := date?_dateText passesBlank_skipBlank hmonth hday
    ('T' :: (clockText t.reading ++ ['Z']))
  have hclock := clock?_clockText passesBlank_skipBlank ['Z'] hhour hminute hsecond
    t.nanos_reading (by simp [EndsDigits]) (by decide)
  have hseparator : ∀ rest, separator? ('T' :: rest) = some rest := fun _ => rfl
  have hzone : namedZone? (skipBlank ['Z']) = some (0, []) := by decide
  have hchars : t.text.toList =
      dateText t.reading.date ++ 'T' :: (clockText t.reading ++ ['Z']) := by
    simp [text]
  simp only [read?, hchars, hdate, hseparator, hclock, hzone, Option.bind_eq_bind,
    Option.bind_some, List.all_nil, if_true, timestamp?_reading]

/-- A fraction above one at the end of a minute, or none, stays. -/
lemma settled_of_leap (h : 1000000000 ≤ t.nanos → t.seconds % 60 = 59) : t.settled = t := by
  rw [settled, dif_neg]
  exact fun hleap => hleap.2 (h hleap.1)

end Timestamp

end Findings.Time
