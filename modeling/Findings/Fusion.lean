import Findings.Error
import Findings.Number.Arithmetic

/-!
# Rank fusion

Two ranked lists of ids become one. An id scores by its first place in each list: the weight of
the list over the place plus a constant. The merged list is in descending order of score; equal
scores keep the order in which the ids first appear, those of the first list before the rest.
-/
namespace Findings

open Findings.Number

structure FusionConfig where
  constant : Double
  vectorWeight : Double
  lexicalWeight : Double
  deriving DecidableEq, Repr

namespace FusionConfig

/-- The parameters as they are, if the weights and the constant are above zero. -/
def checked (constant vectorWeight lexicalWeight : Double) : Except FusionFault FusionConfig :=
  if !(vectorWeight.isPositive && lexicalWeight.isPositive) then .error .weights
  else if !constant.isPositive then .error .constant
  else .ok ⟨constant, vectorWeight, lexicalWeight⟩

/-- What a rank in one list adds to a score. -/
def contribution (config : FusionConfig) (weight : Double) : Option Nat → Double
  | some rank => weight.div (config.constant.add (Binary.ofNat rank))
  | none => Binary.zero

end FusionConfig

/-- An id with its places in the two lists, counted from one. -/
structure Ranked where
  id : Int
  vectorRank : Option Nat
  lexicalRank : Option Nat
  deriving DecidableEq, Repr

/-- A ranked id with its score. -/
structure Fused extends Ranked where
  score : Double
  deriving DecidableEq, Repr

/-- One of the two lists. -/
inductive Leg where
  | vector
  | lexical
  deriving DecidableEq, Repr

namespace Ranked

/-- An id first met at a place of one list. -/
def first (leg : Leg) (id : Int) (rank : Nat) : Ranked :=
  match leg with
  | .vector => ⟨id, some rank, none⟩
  | .lexical => ⟨id, none, some rank⟩

/-- The same id met again: an earlier place in the same list stays. -/
def meet (leg : Leg) (rank : Nat) (r : Ranked) : Ranked :=
  match leg with
  | .vector => { r with vectorRank := r.vectorRank.or (some rank) }
  | .lexical => { r with lexicalRank := r.lexicalRank.or (some rank) }

def score (config : FusionConfig) (r : Ranked) : Double :=
  (config.contribution config.vectorWeight r.vectorRank).add
    (config.contribution config.lexicalWeight r.lexicalRank)

def fused (config : FusionConfig) (r : Ranked) : Fused := ⟨r, r.score config⟩

end Ranked

/-- Notes an id at a place of one list: a new id goes to the end. -/
def noteId (leg : Leg) (id : Int) (rank : Nat) : List Ranked → List Ranked
  | [] => [.first leg id rank]
  | r :: rest => if r.id = id then r.meet leg rank :: rest else r :: noteId leg id rank rest

/-- Notes the ids of one list, the first of them at the place `rank`. -/
def noteAll (leg : Leg) : Nat → List Int → List Ranked → List Ranked
  | _, [], ranked => ranked
  | rank, id :: ids, ranked => noteAll leg (rank + 1) ids (noteId leg id rank ranked)

/-- The ids of both lists in order of first appearance with their places. -/
def rank (vector lexical : List Int) : List Ranked :=
  noteAll .lexical 1 lexical (noteAll .vector 1 vector [])

/-- All ids of both lists by falling score. -/
def fuseRanks (config : FusionConfig) (vector lexical : List Int) : List Fused :=
  ((rank vector lexical).map (·.fused config)).mergeSort fun a b => b.score.totalLE a.score

/-- The first `limit` ids of both lists by falling score. -/
def fuse (config : FusionConfig) (vector lexical : List Int) (limit : Nat) : List Fused :=
  (fuseRanks config vector lexical).take limit

end Findings
