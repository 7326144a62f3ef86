import Findings.Proofs.Time.ReadBack

/-!
# Timestamps that texts spell

A fraction above one marks a leap second. A text spells one by a second of 60, and the zone is a
number of minutes, so that the universal time is in the last second of a minute as well. Such
timestamps are read back from a column as they were.
-/
namespace Findings.Time

/-- Whether a fraction above one comes in the last second of a minute only. -/
def Timestamp.IsRepresentable (t : Timestamp) : Prop :=
  1000000000 ≤ t.nanos → t.seconds % 60 = 59

/-- A timestamp that may be missing stays if it is representable. -/
lemma map_settled {timestamp : Option Timestamp} (h : ∀ t ∈ timestamp, t.IsRepresentable) :
    timestamp.map Timestamp.settled = timestamp := by
  cases timestamp with
  | none => rfl
  | some t => rw [Option.map_some, t.settled_of_leap (h t rfl)]

/-- The number that digits spell is below the power of ten for how many they are. -/
lemma ofDigitChars_lt {cs : List Char} (h : ∀ c ∈ cs, c.isDigit = true) (n : Nat) :
    Nat.ofDigitChars 10 cs n < (n + 1) * 10 ^ cs.length := by
  induction cs generalizing n with
  | nil => simp
  | cons c cs ih =>
    have hdigit : c.toNat - '0'.toNat ≤ 9 := by
      have hc := h c List.mem_cons_self
      simp only [Char.isDigit, Bool.and_eq_true, decide_eq_true_eq] at hc
      have hupper : c.toNat ≤ 57 := hc.2
      have hzero : '0'.toNat = 48 := rfl
      omega
    have hrest := ih (fun d hd => h d (List.mem_cons_of_mem _ hd)) (10 * n + (c.toNat - '0'.toNat))
    rw [Nat.ofDigitChars_cons, List.length_cons, Nat.pow_succ']
    calc _ < (10 * n + (c.toNat - '0'.toNat) + 1) * 10 ^ cs.length := hrest
      _ ≤ ((n + 1) * 10) * 10 ^ cs.length := Nat.mul_le_mul_right _ (by omega)
      _ = (n + 1) * (10 * 10 ^ cs.length) := Nat.mul_assoc _ _ _

lemma digits?_lt {most n : Nat} {cs rest : List Char} (h : digits? most cs = some (n, rest)) :
    ∃ count ≤ most, n < 10 ^ count ∧ count ≤ cs.length ∧ rest = cs.drop count := by
  simp only [digits?] at h
  split_ifs at h
  simp only [Option.some.injEq, Prod.mk.injEq] at h
  obtain ⟨rfl, rfl⟩ := h
  have hlength : ((cs.take most).takeWhile Char.isDigit).length ≤ (cs.take most).length :=
    (List.takeWhile_sublist _).length_le
  rw [List.length_take] at hlength
  refine ⟨_, by omega, ?_, by omega, rfl⟩
  have hdigits : ∀ c ∈ (cs.take most).takeWhile Char.isDigit, c.isDigit = true :=
    List.all_eq_true.mp List.all_takeWhile
  have hlt := ofDigitChars_lt hdigits 0
  rwa [Nat.zero_add, Nat.one_mul] at hlt

lemma fraction?_lt {cs rest : List Char} {nanos : Nat} (h : fraction? cs = some (nanos, rest)) :
    nanos < 1000000000 := by
  unfold fraction? at h
  split at h
  case h_1 digits =>
    obtain ⟨⟨n, after⟩, hdigits, hread⟩ := Option.map_eq_some_iff.mp h
    obtain ⟨count, hcount, hlt, hlength, rfl⟩ := digits?_lt hdigits
    simp only [Prod.mk.injEq, List.length_drop] at hread
    have hplaces : digits.length - (digits.length - count) = count := by omega
    rw [hplaces] at hread
    calc nanos = n * 10 ^ (9 - count) := hread.1.symm
      _ < 10 ^ count * 10 ^ (9 - count) :=
        Nat.mul_lt_mul_of_pos_right hlt (Nat.pow_pos (by decide))
      _ = 1000000000 := by rw [← Nat.pow_add, Nat.add_sub_cancel' hcount]
  case h_2 =>
    simp only [Option.some.injEq, Prod.mk.injEq] at h
    omega

lemma clock?_nanos_lt {gap : List Char → List Char} {date : Date} {cs rest : List Char}
    {reading : ClockReading} (h : clock? gap date cs = some (reading, rest)) :
    reading.nanos < 1000000000 := by
  simp only [clock?, Option.bind_eq_bind, Option.bind_eq_some_iff, Option.pure_def,
    Option.some.injEq, Prod.mk.injEq] at h
  obtain ⟨_, -, _, -, _, -, _, -, _, -, ⟨nanos, after⟩, hfraction, rfl, -⟩ := h
  exact fraction?_lt hfraction

lemma signedZone?_minutes {mayMiss negative : Bool} {cs rest : List Char} {offset : Int}
    (h : signedZone? mayMiss negative cs = some (offset, rest)) : offset % 60 = 0 := by
  simp only [signedZone?, Option.bind_eq_bind, Option.bind_eq_some_iff] at h
  obtain ⟨⟨hours, _⟩, -, ⟨minutes, _⟩, -, h⟩ := h
  split_ifs at h <;> simp only [Option.pure_def, Option.some.injEq, Prod.mk.injEq] at h <;> omega

/-- A zone is a number of minutes. -/
lemma zone?_minutes {mayMiss : Bool} {cs rest : List Char} {offset : Int}
    (h : zone? mayMiss cs = some (offset, rest)) : offset % 60 = 0 := by
  unfold zone? at h
  split at h
  · split_ifs at h
    · simp only [Option.some.injEq, Prod.mk.injEq] at h
      omega
    · exact signedZone?_minutes h
    · exact signedZone?_minutes h
  · cases h

lemma namedZone?_minutes {cs rest : List Char} {offset : Int}
    (h : namedZone? cs = some (offset, rest)) : offset % 60 = 0 := by
  unfold namedZone? at h
  split at h
  · split_ifs at h
    · simp only [Option.some.injEq, Prod.mk.injEq] at h
      omega
    · exact zone?_minutes h
  · exact zone?_minutes h

/-- A reading of a clock in a zone of minutes has a leap second at the end of a minute. -/
lemma isRepresentable_timestamp? {reading : ClockReading} {offset : Int} {t : Timestamp}
    (hnanos : reading.nanos < 1000000000) (hoffset : offset % 60 = 0)
    (h : reading.timestamp? offset = some t) : t.IsRepresentable := by
  simp only [ClockReading.timestamp?, Timestamp.of?] at h
  split_ifs at h with hvalid hleap hrange
  · simp only [Option.some.injEq] at h
    subst h
    intro _
    simp only [hleap]
    omega
  · simp only [Option.some.injEq] at h
    subst h
    intro hover
    exact absurd hover (by simp only; omega)

/-- The timestamp of a document text is representable. -/
theorem Timestamp.isRepresentable_of_read? {s : String} {t : Timestamp}
    (h : Timestamp.read? s = some t) : t.IsRepresentable := by
  simp only [Timestamp.read?, Option.bind_eq_bind, Option.bind_eq_some_iff] at h
  obtain ⟨⟨date, _⟩, -, _, -, ⟨reading, _⟩, hclock, ⟨offset, _⟩, hzone, h⟩ := h
  split_ifs at h
  exact isRepresentable_timestamp? (clock?_nanos_lt hclock) (namedZone?_minutes hzone) h

end Findings.Time
