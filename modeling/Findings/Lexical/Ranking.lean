import Findings.Lexical.Token
import Findings.Number.Arithmetic

/-!
# Ranking by words

The index holds an entry of three texts for each finding. An entry matches when each phrase
occurs in it, its tokens side by side in one text. It scores by how often each phrase occurs, how
few entries have the phrase, and how short the entry is; the best score is the lowest.
-/
namespace Findings.Lexical

open Findings.Number

/-- What the index holds of a finding. -/
structure Entry where
  id : Int
  content : String
  context : Option String
  kind : String
  deriving DecidableEq, Repr, Inhabited

/-- Tokens that have to stand side by side. -/
abbrev Phrase := List Token

/-- An entry by the tokens of its texts. -/
structure Indexed where
  id : Int
  columns : List (List Token)
  deriving DecidableEq, Repr

namespace Entry

/-- The entry by its tokens; a missing text has none. -/
def indexed (e : Entry) : Indexed :=
  { id := e.id
    columns :=
      [tokens e.content.toList, tokens (e.context.getD "").toList, tokens e.kind.toList] }

end Entry

/-- How often a phrase occurs in a text, at every place where it begins. -/
def occurrences (phrase : Phrase) : List Token → Nat
  | [] => 0
  | token :: rest =>
    (if phrase.isPrefixOf (token :: rest) then 1 else 0) + occurrences phrase rest

def total (numbers : List Nat) : Nat := numbers.foldr (· + ·) 0

namespace Indexed

/-- How often a phrase occurs in an entry. -/
def frequency (e : Indexed) (phrase : Phrase) : Nat :=
  total (e.columns.map (occurrences phrase))

def contains (e : Indexed) (phrase : Phrase) : Bool := 0 < e.frequency phrase

/-- The number of tokens of an entry. -/
def size (e : Indexed) : Nat := total (e.columns.map List.length)

end Indexed

def half : Double := Binary.ofDecimal false 5 (-1)

/-- How much an occurrence of a phrase tells when `count` of `total` entries have it. -/
def weight (total count : Nat) : Double :=
  let ratio :=
    ((Binary.ofInt ((total : Int) - count)).add half).div ((Binary.ofNat count).add half)
  let idf := ratio.log
  if idf.isPositive then idf else Binary.ofDecimal false 1 (-6)

/-- What a phrase adds to a score: it grows with its occurrences, the faster the shorter the
entry is against the average. -/
def phraseScore (weight averageSize : Double) (size frequency : Nat) : Double :=
  let frequency : Double := Binary.ofNat frequency
  let k : Double := Binary.ofDecimal false 12 (-1)
  let b : Double := Binary.ofDecimal false 75 (-2)
  let one : Double := Binary.ofNat 1
  let length := (one.sub b).add ((b.mul (Binary.ofNat size)).div averageSize)
  weight.mul ((frequency.mul (k.add one)).div (frequency.add (k.mul length)))

/-- The score of an entry for weighted phrases. -/
def score (phrases : List (Phrase × Double)) (averageSize : Double) (e : Indexed) : Double :=
  let sum := phrases.foldl
    (fun sum phrase =>
      sum.add (phraseScore phrase.2 averageSize e.size (e.frequency phrase.1)))
    Binary.zero
  sum.mul (Binary.ofInt (-1))

/-- The entries in which every phrase occurs, with their scores. -/
def matching (index : List Indexed) (phrases : List Phrase) : List (Int × Double) :=
  if phrases.isEmpty then []
  else
    let count := index.length
    let averageSize :=
      (Binary.ofNat (total (index.map Indexed.size)) : Double).div (Binary.ofNat count)
    let weighted := phrases.map fun phrase =>
      (phrase, weight count (index.countP (·.contains phrase)))
    (index.filter fun e => phrases.all e.contains).map fun e =>
      (e.id, score weighted averageSize e)

/-- Order of two scored ids: the lower score first, then the lower id. -/
def scoredLE (a b : Int × Double) : Bool :=
  decide (a.2.orderKey < b.2.orderKey) || (a.2 == b.2 && decide (a.1 ≤ b.1))

def ranked (index : List Indexed) (phrases : List Phrase) : List (Int × Double) :=
  (matching index phrases).mergeSort scoredLE

end Findings.Lexical
