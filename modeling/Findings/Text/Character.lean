/-!
# Characters and words

A property of characters is kept as the list of the code ranges that have it, both ends included.
White space separates words. A text without a word is blank.
-/
namespace Findings.Text

/-- Code ranges, both ends included, in ascending order. -/
abbrev Ranges := Array (Nat × Nat)

namespace Ranges

def contains (ranges : Ranges) (code : Nat) : Bool :=
  ranges.any fun range => range.1 ≤ code && code ≤ range.2

theorem contains_iff {ranges : Ranges} {code : Nat} :
    ranges.contains code = true ↔ ∃ range ∈ ranges, range.1 ≤ code ∧ code ≤ range.2 := by
  rw [contains, Array.any_eq_true']
  simp

end Ranges

def isBlank (c : Char) : Bool :=
  let n := c.toNat
  (0x9 ≤ n && n ≤ 0xD) || n == 0x20 || n == 0x85 || n == 0xA0 || n == 0x1680 ||
    (0x2000 ≤ n && n ≤ 0x200A) || n == 0x2028 || n == 0x2029 || n == 0x202F || n == 0x205F ||
    n == 0x3000

/-- Whether a text has no other characters than white space. -/
def isBlankText (s : String) : Bool :=
  s.toList.all isBlank

/-- A word in front of the words that follow it; an empty one is left out. -/
def consWord (word : List Char) (words : List (List Char)) : List (List Char) :=
  if word.isEmpty then words else word :: words

/-- The word a text begins with, empty if it begins with white space, and the words after it. -/
def splitWords : List Char → List Char × List (List Char)
  | [] => ([], [])
  | c :: rest =>
    let (word, later) := splitWords rest
    if isBlank c then ([], consWord word later) else (c :: word, later)

def words (cs : List Char) : List (List Char) :=
  consWord (splitWords cs).1 (splitWords cs).2

@[simp] theorem words_nil : words [] = [] := rfl

end Findings.Text
