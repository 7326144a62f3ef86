import Findings.Number.Arithmetic
import Findings.Vector.Table

/-!
# Nearest embeddings

The distance of two embeddings is the root of the sum of squared differences, each step rounded. A
bounded search takes the nearest embeddings block by block and merges them; a full scan ranks
all embeddings of given ids. Both give the hits in order of distance and then id. A distance that
is not a number is an error as soon as it is among the hits.
-/
namespace Findings.Vector

open Findings.Number
open Findings.Record

/-- The sum of the squared differences of two vectors on top of a sum so far. -/
def squares (sum : Single) : List Single → List Single → Single
  | a :: as, b :: bs =>
    let difference := a.sub b
    squares (sum.add (difference.mul difference)) as bs
  | _, _ => sum

def distance (a b : List Single) : Double :=
  (squares Binary.zero a b).sqrt.convert .double

/-- The largest number of hits of a bounded search. -/
def maxNearest : Nat := 4096

/-- An embedding by its distance from a query. -/
structure Hit where
  id : Int
  distance : Double
  deriving DecidableEq, Repr

def atMost (a b : Double) : Bool :=
  !a.isNaN && !b.isNaN && decide (a.place ≤ b.place)

/-- The nearer one of a chosen hit and the hits of later slots, the last of equally near ones. -/
def nearestOf (chosen : Hit) (hits : List Hit) : Hit :=
  hits.foldl (fun best hit => if atMost hit.distance best.distance then hit else best) chosen

/-- The nearest hits of a block, at most `count`, nearest first. -/
def nearestInBlock : Nat → List Hit → List Hit
  | 0, _ => []
  | _ + 1, [] => []
  | count + 1, hit :: hits =>
    let best := nearestOf hit (hit :: hits)
    best :: nearestInBlock count ((hit :: hits).filter (·.id != best.id))

/-- Two sorted lists of hits as one; of equally near hits those of the first list come first. -/
def mergeHits : List Hit → List Hit → List Hit
  | [], second => second
  | first, [] => first
  | a :: first, b :: second =>
    if atMost a.distance b.distance then a :: mergeHits first (b :: second)
    else b :: mergeHits (a :: first) second
termination_by first second => first.length + second.length

def Block.hits (query : Embedding) (block : Block) : List Hit :=
  block.rows.map fun row => ⟨row.1, distance row.2 query⟩

/-- The nearest hits of a table, at most `count`. -/
def Table.nearest (t : Table) (query : Embedding) (count : Nat) : List Hit :=
  t.blocks.foldr
    (fun block merged =>
      (mergeHits merged (nearestInBlock count (block.hits query))).take count)
    []

/-- Order of hits: the nearer first, then the lower id. -/
def hitLE (a b : Hit) : Bool :=
  decide (a.distance.orderKey < b.distance.orderKey) ||
    (a.distance == b.distance && decide (a.id ≤ b.id))

/-- Hits in order, if all of their distances are numbers. -/
def sortHits (hits : List Hit) : Except TableFault (List Hit) :=
  if hits.any (·.distance.isNaN) then .error .noDistance
  else .ok (hits.mergeSort hitLE)

/-- At most `count` nearest hits of a table that holds embeddings. -/
def boundedSearch (t : Table) (query : Embedding) (count : Nat) : Except TableFault (List Hit) :=
  if query.isEmpty then .error .emptyQuery
  else if query.length ≠ t.dimension then .error (.queryLength t.dimension query.length)
  else sortHits (t.nearest query count)

/-- Whether a hit comes before another in a full scan, where a missing distance is the lowest. -/
def scanLE (a b : Hit) : Bool :=
  if a.distance.isNaN then !b.distance.isNaN || decide (a.id ≤ b.id)
  else !b.distance.isNaN && hitLE a b

/-- At most `count` nearest hits of all embeddings whose id is wanted. -/
def fullScan (t : Table) (query : Embedding) (wanted : Int → Bool) (count : Nat) :
    Except TableFault (List Hit) :=
  let candidates := t.rows.filter fun row => wanted row.1
  if candidates.isEmpty then .ok []
  else if query.isEmpty then .error .emptyDistance
  else if query.length ≠ t.dimension then .error (.distanceLength t.dimension query.length)
  else
    let hits := candidates.map fun row => (⟨row.1, distance row.2 query⟩ : Hit)
    sortHits ((hits.mergeSort scanLE).take count)

end Findings.Vector
