import Findings.Error

/-!
# Reading queries

A query is made of words and signs. A word stands in quotes, with each quote inside of it
written twice, or it is a run of letters, digits, underscores and characters above ASCII that is
no operator. Spaces separate the parts, the character zero ends the query, and words side by
side all have to occur.
-/
namespace Findings.Lexical

inductive QueryPart where
  /-- A text meant literally. -/
  | word (text : List Char)
  /-- An operator that is written as a word. -/
  | operator (name : List Char)
  /-- Any other character, as an operator or an error. -/
  | sign (c : Char)
  deriving DecidableEq, Repr

/-- Whether a character separates the parts of a query. -/
def separatesParts (c : Char) : Bool :=
  c == ' ' || c == '\t' || c == '\n' || c == '\r'

/-- Whether a character may stand in a word without quotes. -/
def isBareChar (c : Char) : Bool :=
  c.isAlphanum || c == '_' || c == '\x1a' || 128 ≤ c.toNat

/-- The part that a run of bare characters is. -/
def barePart (text : List Char) : QueryPart :=
  if text = ['A', 'N', 'D'] || text = ['O', 'R'] || text = ['N', 'O', 'T'] then .operator text
  else .word text

/-- Where a reader of a query stands: between parts, in a bare word, in a quoted word, or at a
quote in a quoted word that either ends it or is doubled. What the word holds is in reverse. -/
inductive QueryState where
  | between
  | bare (reversed : List Char)
  | inQuotes (reversed : List Char)
  | atQuote (reversed : List Char)

/-- The part that a character begins, or the state behind it. -/
def beginPart (c : Char) : Option QueryPart × QueryState :=
  if separatesParts c then (none, .between)
  else if c = '"' then (none, .inQuotes [])
  else if isBareChar c then (none, .bare [c])
  else (some (.sign c), .between)

/-- A part, if there is one, in front of others. -/
def consPart : Option QueryPart → List QueryPart → List QueryPart
  | none, parts => parts
  | some part, parts => part :: parts

/-- The parts of a query from a state on. -/
def readParts : QueryState → List Char → Except TableFault (List QueryPart)
  | .between, [] => .ok []
  | .bare reversed, [] => .ok [barePart reversed.reverse]
  | .atQuote reversed, [] => .ok [.word reversed.reverse]
  | .inQuotes _, [] => .error .unterminatedText
  | .inQuotes reversed, c :: rest =>
    if c = '\x00' then .error .unterminatedText
    else if c = '"' then readParts (.atQuote reversed) rest
    else readParts (.inQuotes (c :: reversed)) rest
  | .between, c :: rest =>
    if c = '\x00' then .ok []
    else (readParts (beginPart c).2 rest).map (consPart (beginPart c).1)
  | .bare reversed, c :: rest =>
    if c = '\x00' then .ok [barePart reversed.reverse]
    else if isBareChar c then readParts (.bare (c :: reversed)) rest
    else
      (readParts (beginPart c).2 rest).map fun parts =>
        barePart reversed.reverse :: consPart (beginPart c).1 parts
  | .atQuote reversed, c :: rest =>
    if c = '\x00' then .ok [.word reversed.reverse]
    else if c = '"' then readParts (.inQuotes ('"' :: reversed)) rest
    else
      (readParts (beginPart c).2 rest).map fun parts =>
        .word reversed.reverse :: consPart (beginPart c).1 parts

@[simp] theorem readParts_between_nil : readParts .between [] = .ok [] := rfl

theorem readParts_bare_nil (reversed : List Char) :
    readParts (.bare reversed) [] = .ok [barePart reversed.reverse] := rfl

section Step

variable {c : Char} (reversed rest : List Char)

theorem readParts_between_cons (hc : c ≠ '\x00') :
    readParts .between (c :: rest) =
      (readParts (beginPart c).2 rest).map (consPart (beginPart c).1) :=
  if_neg hc

theorem readParts_bare_cons (hc : c ≠ '\x00') (hbare : isBareChar c = true) :
    readParts (.bare reversed) (c :: rest) = readParts (.bare (c :: reversed)) rest :=
  (if_neg hc).trans (if_pos hbare)

/-- Any other character ends a bare word. -/
theorem readParts_bare_other (hc : c ≠ '\x00') (hbare : isBareChar c ≠ true) :
    readParts (.bare reversed) (c :: rest) =
      (readParts (beginPart c).2 rest).map fun parts =>
        barePart reversed.reverse :: consPart (beginPart c).1 parts :=
  (if_neg hc).trans (if_neg hbare)

theorem readParts_inQuotes_other (hc : c ≠ '\x00') (hquote : c ≠ '"') :
    readParts (.inQuotes reversed) (c :: rest) = readParts (.inQuotes (c :: reversed)) rest :=
  (if_neg hc).trans (if_neg hquote)

theorem readParts_inQuotes_quote :
    readParts (.inQuotes reversed) ('"' :: rest) = readParts (.atQuote reversed) rest :=
  (if_neg (by decide)).trans (if_pos rfl)

theorem readParts_atQuote_quote :
    readParts (.atQuote reversed) ('"' :: rest) = readParts (.inQuotes ('"' :: reversed)) rest :=
  (if_neg (by decide)).trans (if_pos rfl)

/-- A single quote ends a quoted word. -/
theorem readParts_atQuote_other (hc : c ≠ '\x00') (hquote : c ≠ '"') :
    readParts (.atQuote reversed) (c :: rest) =
      (readParts (beginPart c).2 rest).map fun parts =>
        .word reversed.reverse :: consPart (beginPart c).1 parts :=
  (if_neg hc).trans (if_neg hquote)

end Step

def queryParts (query : String) : Except TableFault (List QueryPart) :=
  readParts .between query.toList

/-- The words of parts that are all words. -/
def literalWords : List QueryPart → Except TableFault (List (List Char))
  | [] => .ok []
  | .word text :: parts => (literalWords parts).map (text :: ·)
  | _ :: _ => .error .querySyntax

/-- The words that all have to occur for a query made of words alone. -/
def queryWords (query : String) : Except TableFault (List (List Char)) :=
  (queryParts query).bind literalWords

end Findings.Lexical
