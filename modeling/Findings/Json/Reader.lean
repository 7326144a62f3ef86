import Findings.Json.Token

/-!
# Reading JSON

The reader goes once over the tokens. It holds the arrays and objects that are still open, the
innermost first, so the depth of nesting is not limited. Nothing may follow the value.
-/
namespace Findings.Json

/-- An array or object that is still open; what it holds is in reverse order. -/
inductive Frame where
  | array (items : List Value)
  | object (fields : List (Option String × Value)) (key : Option String)

/-- What the reader has read so far and what may come next. -/
inductive Progress where
  /-- A value has to follow. -/
  | value (stack : List Frame)
  /-- The first item of an array or its end has to follow. -/
  | firstItem (stack : List Frame)
  /-- The first key of an object or its end has to follow. -/
  | firstKey (stack : List Frame)
  /-- A key of an object has to follow. -/
  | key (fields : List (Option String × Value)) (stack : List Frame)
  /-- A colon has to follow. -/
  | colon (fields : List (Option String × Value)) (key : Option String) (stack : List Frame)
  /-- A value is complete. -/
  | complete (value : Value) (stack : List Frame)

def beginValue (stack : List Frame) : Token → Option Progress
  | .openArray => some (.firstItem stack)
  | .openObject => some (.firstKey stack)
  | .null => some (.complete .null stack)
  | .bool b => some (.complete (.bool b) stack)
  | .number n => some (.complete (.number n) stack)
  | .text s => some (.complete (.text s) stack)
  | _ => none

/-- Goes on after a complete value. -/
def continueValue (value : Value) : List Frame → Token → Option Progress
  | .array items :: stack, .comma => some (.value (.array (value :: items) :: stack))
  | .array items :: stack, .closeArray =>
    some (.complete (.array (value :: items).reverse) stack)
  | .object fields key :: stack, .comma => some (.key ((key, value) :: fields) stack)
  | .object fields key :: stack, .closeObject =>
    some (.complete (.object ((key, value) :: fields).reverse) stack)
  | _, _ => none

def Progress.next : Progress → Token → Option Progress
  | .value stack, token => beginValue stack token
  | .firstItem stack, .closeArray => some (.complete (.array []) stack)
  | .firstItem stack, token => beginValue (.array [] :: stack) token
  | .firstKey stack, .closeObject => some (.complete (.object []) stack)
  | .firstKey stack, .text name => some (.colon [] name stack)
  | .firstKey _, _ => none
  | .key fields stack, .text name => some (.colon fields name stack)
  | .key _ _, _ => none
  | .colon fields name stack, .colon => some (.value (.object fields name :: stack))
  | .colon _ _ _, _ => none
  | .complete done stack, token => continueValue done stack token

def Progress.run : Progress → List Token → Option Progress
  | progress, [] => some progress
  | progress, token :: tokens => (progress.next token).bind (·.run tokens)

def valueOfTokens? (tokens : List Token) : Option Value :=
  match (Progress.value []).run tokens with
  | some (.complete value []) => some value
  | _ => none

def read? (s : String) : Option Value :=
  (tokens? s.toList).bind valueOfTokens?

end Findings.Json
