import Findings.Number.Binary

/-!
# TOML values

The values of a TOML document. Dates and times are checked when they are read, but nothing here
needs what they say.
-/
namespace Findings.Toml

open Findings.Number

/-- A TOML value; the keys of a table are distinct. -/
inductive Value where
  | string (text : String)
  | integer (n : Int)
  | float (x : Double)
  | boolean (b : Bool)
  | moment
  | array (items : List Value)
  | table (entries : List (String × Value))
  deriving Repr, Inhabited

namespace Value

def get? (key : String) : Value → Option Value
  | .table entries => (entries.find? (·.1 == key)).map (·.2)
  | _ => none

end Value

end Findings.Toml
