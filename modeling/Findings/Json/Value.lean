/-!
# JSON values

A value keeps everything its text says: the digits of a number as they are written, the fields
of an object in order and with repetitions. A text with an unpaired surrogate has no characters
and is `none`.
-/
namespace Findings.Json

/-- A number as it is written: the digits before and after the point and the power of ten. -/
structure Number where
  negative : Bool
  whole : List Char
  fraction : List Char
  power : Option Int
  deriving DecidableEq, Repr, Inhabited

inductive Value where
  | null
  | bool (value : Bool)
  | number (value : Number)
  | text (value : Option String)
  | array (items : List Value)
  | object (fields : List (Option String × Value))
  deriving Repr, Inhabited

namespace Number

def ofInt (n : Int) : Number :=
  ⟨n < 0, Nat.toDigits 10 n.natAbs, [], none⟩

/-- Whether the number is written without a point and without a power of ten. -/
def isWhole (n : Number) : Bool :=
  n.fraction.isEmpty && n.power.isNone

end Number

namespace Value

def ofString (s : String) : Value := .text (some s)

def ofInt (n : Int) : Value := .number (.ofInt n)

def ofNat (n : Nat) : Value := ofInt n

/-- An object with the given fields. -/
def record (fields : List (String × Value)) : Value :=
  .object (fields.map fun field => (some field.1, field.2))

/-- A value that may be missing; null stands for none. -/
def ofOption {α : Type} (encode : α → Value) : Option α → Value
  | none => .null
  | some a => encode a

/-- The first field of an object with the given key. -/
def field? (key : String) : Value → Option Value
  | .object fields => (fields.find? (·.1 == some key)).map (·.2)
  | _ => none

end Value

end Findings.Json
