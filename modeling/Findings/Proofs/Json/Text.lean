import Findings.Json.Token
import Findings.Json.Writer
import Mathlib.Tactic.Common

/-!
# Reading quoted texts back

Each character of a text is written so that it is read back as one code unit, its own code, and
no character is a surrogate.
-/
namespace Findings.Json

/-- The code of a control character is read from its last two digits. -/
lemma hexUnit?_hexChar : ∀ n < 0x20, hexUnit? '0' '0' (hexChar (n / 16)) (hexChar n) = some n := by
  decide

/-- What has been read behind a code unit. -/
def withUnit (unit : Nat) (read : Option (List Nat × List Char)) : Option (List Nat × List Char) :=
  read.map fun (units, rest) => (unit :: units, rest)

lemma readUnits_short {c : Char} {unit : Nat} {rest : List Char} (hc : c ≠ 'u')
    (hunit : shortEscape? c = some unit) :
    readUnits ('\\' :: c :: rest) = withUnit unit (readUnits rest) := by
  rw [readUnits]
  · rw [hunit]
    cases readUnits rest <;> rfl
  · exact fun _ _ _ _ _ hu => absurd hu hc

lemma readUnits_hex {a b c d : Char} {unit : Nat} {rest : List Char}
    (hunit : hexUnit? a b c d = some unit) :
    readUnits ('\\' :: 'u' :: a :: b :: c :: d :: rest) = withUnit unit (readUnits rest) := by
  rw [readUnits, hunit]
  cases readUnits rest <;> rfl

lemma readUnits_plain {c : Char} {rest : List Char} (hcontrol : ¬c.toNat < 0x20) (hquote : c ≠ '"')
    (hslash : c ≠ '\\') : readUnits (c :: rest) = withUnit c.toNat (readUnits rest) := by
  rw [readUnits]
  · simp [hcontrol, hslash, withUnit]
  · exact hquote
  · exact fun _ _ _ _ _ hc => absurd hc hslash
  · exact fun _ _ hc => absurd hc hslash

lemma readUnits_escapeChar (c : Char) (rest : List Char) :
    readUnits (escapeChar c ++ rest) = withUnit c.toNat (readUnits rest) := by
  unfold escapeChar
  split
  case h_8 hquote hslash _ _ _ _ _ =>
    split
    case isTrue hcontrol => exact readUnits_hex (hexUnit?_hexChar c.toNat hcontrol)
    case isFalse hcontrol => exact readUnits_plain hcontrol hquote hslash
  all_goals exact readUnits_short (by decide) rfl

/-- A text is read up to its closing quote as the codes of its characters. -/
lemma readUnits_escaped (cs rest : List Char) :
    readUnits (cs.flatMap escapeChar ++ '"' :: rest) = some (cs.map Char.toNat, rest) := by
  induction cs with
  | nil => simp [readUnits]
  | cons c cs ih =>
    rw [List.flatMap_cons, List.append_assoc, readUnits_escapeChar, ih]
    rfl

lemma not_surrogate (c : Char) :
    isHighSurrogate c.toNat = false ∧ isLowSurrogate c.toNat = false := by
  have hvalid := c.valid
  have hcode : c.toNat < 0xD800 ∨ 0xDFFF < c.toNat := by
    rcases hvalid with h | h
    · exact .inl h
    · exact .inr h.1
  simp only [isHighSurrogate, isLowSurrogate, Bool.and_eq_false_iff, decide_eq_false_iff_not]
  omega

/-- The codes of characters are the code units of the characters. -/
lemma pairUnits_codes (cs : List Char) : pairUnits (cs.map Char.toNat) = some cs := by
  induction cs with
  | nil => rfl
  | cons c cs ih =>
    obtain ⟨hhigh, hlow⟩ := not_surrogate c
    rw [List.map_cons, pairUnits.eq_def]
    simp [hhigh, hlow, ih]

/-- A quoted text is read back. -/
theorem readText_writeText (s : String) (rest : List Char) :
    readText (s.toList.flatMap escapeChar ++ '"' :: rest) = some (.text (some s), rest) := by
  simp [readText, readUnits_escaped, pairUnits_codes]

end Findings.Json
