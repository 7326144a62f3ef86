import Findings.Toml.Scalar

/-!
# Statements of TOML

A document is a sequence of lines. A line may give a value to a key, open a table or a new item
of a list of tables, and end in a comment. Keys may be dotted. Tables in braces are a single
line; arrays may run over lines and hold comments. Nesting is limited.
-/
namespace Findings.Toml

inductive Statement where
  /-- A value for the last key of a dotted one. -/
  | assign (path : List String) (key : String) (value : Value)
  /-- Opens a table. -/
  | openTable (path : List String) (key : String)
  /-- Opens a new table at the end of a list. -/
  | openItem (path : List String) (key : String)
  deriving Repr

/-- How deep values may be nested, and how many parts a dotted key may have. -/
def nestingLimit : Nat := 80

/-- Whether a character may stand in a key without quotes. -/
def isKeyChar (c : Char) : Bool := c.isAlphanum || c == '_' || c == '-'

def keyPart? (cs : List Char) : Option (String × List Char) :=
  match readShort? cs with
  | some (text, rest) => some (String.ofList text, rest)
  | none =>
    let text := cs.takeWhile isKeyChar
    if text.isEmpty then none else some (String.ofList text, cs.dropWhile isKeyChar)

/-- The parts of a dotted key with spaces around them, at most `fuel`. -/
def keyParts? : Nat → List Char → Option (List String × List Char)
  | 0, _ => none
  | fuel + 1, cs => do
    let (part, cs) ← keyPart? (skipSpaces cs)
    let cs := skipSpaces cs
    match cs with
    | '.' :: rest => do
      let (parts, rest) ← keyParts? fuel rest
      return (part :: parts, rest)
    | _ => return ([part], cs)

/-- A dotted key: the path of its table and its last part. -/
def key? (cs : List Char) : Option (List String × String × List Char) := do
  let (parts, cs) ← keyParts? (nestingLimit - 1) cs
  let last ← parts.getLast?
  return (parts.dropLast, last, cs)

/-- The rest of a line behind a comment, if there is one. -/
def skipComment : List Char → List Char
  | '#' :: rest => rest.dropWhile isPlainChar
  | cs => cs

/-- The rest of a document behind spaces, line ends and comments, at most `fuel` lines of them. -/
def skipBetween : Nat → List Char → List Char
  | 0, cs => cs
  | fuel + 1, cs =>
    let cs := skipSpaces cs
    match lineEnd? (skipComment cs) with
    | some rest => skipBetween fuel rest
    | none => cs

/-- The entries of a table in braces by assignments in order, none if one repeats a key or
extends a value. -/
abbrev Assignment := List String × String × Value

/-- What an array or a table in braces still needs: its first part or its end, the next part, or a
separator or its end. -/
inductive Expecting where
  | first
  | next
  | separator
  deriving DecidableEq

/-- What is under construction at a key: a finished value, or a table that dotted keys made. -/
inductive Slot where
  | done (value : Value)
  | dotted (entries : List (String × Slot))

/-- The entries with a value at a dotted key. -/
def Slot.assign (value : Value) (key : String) :
    List String → List (String × Slot) → Option (List (String × Slot))
  | [], entries =>
    if entries.any (·.1 == key) then none else some (entries ++ [(key, .done value)])
  | part :: path, entries =>
    match entries.find? (·.1 == part) with
    | none => do
      let inner ← Slot.assign value key path []
      return entries ++ [(part, .dotted inner)]
    | some (_, .dotted inner) => do
      let inner ← Slot.assign value key path inner
      return entries.map fun entry => if entry.1 == part then (part, .dotted inner) else entry
    | some (_, .done _) => none

mutual

def Slot.value : Slot → Value
  | .done value => value
  | .dotted entries => .table (Slot.values entries)

def Slot.values : List (String × Slot) → List (String × Value)
  | [] => []
  | entry :: rest => (entry.1, entry.2.value) :: Slot.values rest

end

/-- The table of the assignments in braces. -/
def inlineTable? (assignments : List Assignment) : Option Value := do
  let entries ← assignments.foldlM
    (fun entries (path, key, value) => Slot.assign value key path entries) []
  return .table (Slot.values entries)

mutual

/-- A value at the front of a document, inside of `depth` others. -/
def value? : Nat → Nat → List Char → Option (Value × List Char)
  | 0, _, _ => none
  | fuel + 1, depth, cs =>
    match cs with
    | '[' :: rest =>
      if nestingLimit ≤ depth + 1 then none
      else do
        let (items, rest) ← items? fuel (depth + 1) .first rest
        return (.array items, rest)
    | '\x7b' :: rest =>
      if nestingLimit ≤ depth + 1 then none
      else do
        let (assignments, rest) ← assignments? fuel (depth + 1) .first rest
        return (← inlineTable? assignments, rest)
    | 't' :: 'r' :: 'u' :: 'e' :: rest => some (.boolean true, rest)
    | 'f' :: 'a' :: 'l' :: 's' :: 'e' :: rest => some (.boolean false, rest)
    | '"' :: _ => (readText? cs).map fun (text, rest) => (.string (String.ofList text), rest)
    | '\'' :: _ => (readText? cs).map fun (text, rest) => (.string (String.ofList text), rest)
    | _ => number? cs

/-- The items of an array up to its end. -/
def items? : Nat → Nat → Expecting → List Char → Option (List Value × List Char)
  | 0, _, _, _ => none
  | fuel + 1, depth, expecting, cs =>
    match skipBetween cs.length cs with
    | ']' :: rest => some ([], rest)
    | ',' :: rest => if expecting = .separator then items? fuel depth .next rest else none
    | cs =>
      if expecting = .separator then none
      else do
        let (item, rest) ← value? fuel depth cs
        let (items, rest) ← items? fuel depth .separator rest
        return (item :: items, rest)

/-- The assignments of a table in braces up to its end. -/
def assignments? : Nat → Nat → Expecting → List Char → Option (List Assignment × List Char)
  | 0, _, _, _ => none
  | fuel + 1, depth, expecting, cs =>
    match skipSpaces cs with
    | '\x7d' :: rest => if expecting = .next then none else some ([], rest)
    | ',' :: rest => if expecting = .separator then assignments? fuel depth .next rest else none
    | cs =>
      if expecting = .separator then none
      else do
        let (path, key, rest) ← key? cs
        let rest ← skipChar? '=' rest
        let (value, rest) ← value? fuel depth (skipSpaces rest)
        let (assignments, rest) ← assignments? fuel depth .separator rest
        return ((path, key, value) :: assignments, rest)

end

/-- The statement at the front of a line, and the rest of the line. -/
def statement? (cs : List Char) : Option (Statement × List Char) :=
  match cs with
  | '[' :: '[' :: rest => do
    let (path, key, rest) ← key? rest
    let rest ← skipChar? ']' rest
    let rest ← skipChar? ']' rest
    return (.openItem path key, rest)
  | '[' :: rest => do
    let (path, key, rest) ← key? rest
    let rest ← skipChar? ']' rest
    return (.openTable path key, rest)
  | cs => do
    let (path, key, rest) ← key? cs
    let rest ← skipChar? '=' rest
    let rest := skipSpaces rest
    let (value, rest) ← value? (2 * rest.length + 2) 0 rest
    return (.assign path key value, rest)

/-- The rest of a document behind what may end a line. -/
def lineRest? (cs : List Char) : Option (List Char) :=
  match skipComment (skipSpaces cs) with
  | [] => some []
  | cs => lineEnd? cs

/-- The statements of a document, at most `fuel` lines. -/
def readStatements : Nat → List Char → Option (List Statement)
  | 0, cs => if cs.isEmpty then some [] else none
  | fuel + 1, cs =>
    let cs := skipSpaces cs
    if cs.isEmpty then some []
    else if cs.head? == some '#' || (lineEnd? cs).isSome then
      (lineRest? cs).bind (readStatements fuel)
    else do
      let (statement, rest) ← statement? cs
      let rest ← lineRest? rest
      let statements ← readStatements fuel rest
      return statement :: statements

/-- The statements of a document, which may begin with a byte order mark. -/
def statements? (text : String) : Option (List Statement) :=
  let cs := match text.toList with
    | '\ufeff' :: rest => rest
    | cs => cs
  readStatements (cs.length + 1) cs

end Findings.Toml
