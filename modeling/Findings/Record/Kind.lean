/-!
# Kinds and severities

A finding is of one of four kinds and has one of three severities. Both have a name in lower
case; where a person or a table gives the name, either case is accepted.
-/
namespace Findings.Record

/-- What a finding is. -/
inductive Kind where
  | praise
  | blocker
  | suggestion
  | nitpick
  deriving DecidableEq, Repr, Inhabited

namespace Kind

def all : List Kind := [.praise, .blocker, .suggestion, .nitpick]

def name : Kind → String
  | .praise => "praise"
  | .blocker => "blocker"
  | .suggestion => "suggestion"
  | .nitpick => "nitpick"

/-- The kind with exactly this name. -/
def ofName? (s : String) : Option Kind := all.find? (·.name == s)

/-- The kind with this name in either case. -/
def ofText? (s : String) : Option Kind := ofName? s.toLower

/-- The place of a kind in the order. -/
def index (k : Kind) : Nat := all.idxOf k

@[simp] theorem ofName?_name (k : Kind) : ofName? k.name = some k := by
  cases k <;> decide

@[simp] theorem toLower_name (k : Kind) : k.name.toLower = k.name := by
  cases k <;> exact String.toList_inj.mp (String.toList_map.trans (by decide))

@[simp] theorem ofText?_name (k : Kind) : ofText? k.name = some k := by
  rw [ofText?, toLower_name, ofName?_name]

end Kind

/-- How much a finding matters. -/
inductive Severity where
  | low
  | medium
  | high
  deriving DecidableEq, Repr, Inhabited

namespace Severity

def all : List Severity := [.low, .medium, .high]

def name : Severity → String
  | .low => "low"
  | .medium => "medium"
  | .high => "high"

/-- The severity with exactly this name. -/
def ofName? (s : String) : Option Severity := all.find? (·.name == s)

/-- The severity with this name in either case. -/
def ofText? (s : String) : Option Severity := ofName? s.toLower

/-- The place of a severity in the order. -/
def index (s : Severity) : Nat := all.idxOf s

@[simp] theorem ofName?_name (s : Severity) : ofName? s.name = some s := by
  cases s <;> decide

@[simp] theorem toLower_name (s : Severity) : s.name.toLower = s.name := by
  cases s <;> exact String.toList_inj.mp (String.toList_map.trans (by decide))

@[simp] theorem ofText?_name (s : Severity) : ofText? s.name = some s := by
  rw [ofText?, toLower_name, ofName?_name]

end Severity

end Findings.Record
