import Findings.Text.Alphanumeric

/-!
# Queries from free text

A free text becomes a query that means each of its words literally. A word without a letter or
number is left out. A word of letters, numbers and underscores stands as it is, unless it is an
operator of the query language; any other word is quoted.
-/
namespace Findings.Lexical

open Findings.Text

/-- The words that the query language takes as operators. -/
def operators : List String := ["AND", "OR", "NOT", "NEAR"]

/-- Whether a word may stand in a query without quotes. -/
def isPlainWord (word : List Char) : Bool :=
  word.all (fun c => isAlphanumeric c || c == '_') && !operators.contains (String.ofList word)

/-- A text with each quote written twice. -/
def doubleQuotes (cs : List Char) : List Char :=
  cs.flatMap fun c => if c = '"' then ['"', '"'] else [c]

/-- A word as it stands in a query. -/
def escapeWord (word : List Char) : List Char :=
  if isPlainWord word then word else '"' :: doubleQuotes word ++ ['"']

/-- The words of a text that a search can use. -/
def searchWords (s : String) : List (List Char) :=
  (words s.toList).filter (·.any isAlphanumeric)

/-- The query for a free text, none if no word of it can be used. -/
def escape (s : String) : Option String :=
  match searchWords s with
  | [] => none
  | found => some (String.ofList ((found.map escapeWord).intersperse [' ']).flatten)

theorem escape_eq_none_iff {s : String} : escape s = none ↔ searchWords s = [] := by
  unfold escape
  split <;> simp_all

end Findings.Lexical
