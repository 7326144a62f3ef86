import Findings.Json.Amount

/-!
# Records in JSON

A record is an object of its fields or an array of them in their declared order. In an object
unknown keys are passed over and a known key may occur once; some fields may be missing. In an
array only fields with a default may be missing, at its end, and there may be no further items.
-/
namespace Findings.Json

/-- What a missing field means. -/
inductive Presence where
  /-- The field has to be there. -/
  | required
  /-- The field may be missing in an object. -/
  | optional
  /-- The field may be missing in an object and at the end of an array. -/
  | defaulted
  deriving DecidableEq, Repr

structure Field where
  name : String
  presence : Presence := .required
  deriving Repr

/-- The one value of a field of an object. -/
def fieldOf (fields : List (Option String × Value)) (field : Field) : Option (Option Value) :=
  match fields.filter (·.1 == some field.name) with
  | [] => if field.presence = .required then none else some none
  | [entry] => some (some entry.2)
  | _ => none

/-- The items of an array taken by the declared fields. -/
def itemsOf : List Field → List Value → Option (List (Option Value))
  | [], [] => some []
  | [], _ => none
  | _ :: fields, item :: items => (itemsOf fields items).map (some item :: ·)
  | field :: fields, [] =>
    if field.presence = .defaulted then (itemsOf fields []).map (none :: ·) else none

namespace Value

/-- The values of the declared fields of a record. -/
def fields? (declared : List Field) : Value → Option (List (Option Value))
  | .object entries =>
    if entries.all (·.1.isSome) then declared.mapM (fieldOf entries) else none
  | .array items => itemsOf declared items
  | _ => none

def string? : Value → Option String
  | .text s => s
  | _ => none

def items? : Value → Option (List Value)
  | .array items => some items
  | _ => none

def list? {α : Type} (decode : Value → Option α) (value : Value) : Option (List α) :=
  value.items?.bind (·.mapM decode)

def integer? : Value → Option Int
  | .number n => n.integer?
  | _ => none

def natural? : Value → Option Nat
  | .number n => n.natural?
  | _ => none

def double? : Value → Option Number.Double
  | .number n => n.double?
  | _ => none

/-- A component of an embedding. -/
def single? : Value → Option Number.Single
  | .number n => n.single?
  | _ => none

def orNull? {α : Type} (decode : Value → Option α) : Value → Option (Option α)
  | .null => some none
  | value => (decode value).map some

/-- One of a few names: the name itself, or an object with the name as its one key and null. -/
def name? : Value → Option String
  | .text s => s
  | .object [(key, .null)] => key
  | _ => none

end Value

def orMissing? {α : Type} (decode : Value → Option α) : Option Value → Option (Option α)
  | none => some none
  | some value => value.orNull? decode

end Findings.Json
