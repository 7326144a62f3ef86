import Findings.Error
import Findings.Record.Basic

/-!
# Table of embeddings

The embeddings of one length are kept in blocks of a fixed number of slots. A new embedding
takes the first free slot of the newest block; when there is none, a new block begins. The order
of slots decides which of several equally near embeddings a bounded search keeps.
-/
namespace Findings.Vector

open Findings.Record

abbrev Stored := Int × Embedding

/-- The slots of a block; the slots after the last one are free. -/
abbrev Block := List (Option Stored)

/-- How many slots a block has. -/
def blockSize : Nat := 1024

/-- A table of embeddings of one length, its newest block first. -/
structure Table where
  dimension : Nat
  blocks : List Block
  deriving DecidableEq, Repr

namespace Block

/-- The embeddings of a block in slot order. -/
def rows (block : Block) : List Stored := block.filterMap id

/-- The block with an embedding in its first free slot, none if it is full. -/
def put? (row : Stored) : Nat → Block → Option Block
  | 0, _ => none
  | _ + 1, [] => some [some row]
  | _ + 1, none :: slots => some (some row :: slots)
  | free + 1, some other :: slots => (put? row free slots).map (some other :: ·)

/-- The block with the slot of an id free. -/
def clear (id : Int) (block : Block) : Block :=
  block.map fun slot => slot.filter fun row => row.1 != id

end Block

namespace Table

def empty (dimension : Nat) : Table := ⟨dimension, []⟩

/-- All embeddings, those of older blocks first. -/
def rows (t : Table) : List Stored := t.blocks.reverse.flatMap Block.rows

def find? (t : Table) (id : Int) : Option Embedding :=
  (t.rows.find? (·.1 == id)).map (·.2)

def size (t : Table) : Nat := t.rows.length

/-- The blocks with an embedding in the first free slot of the newest. -/
def putRow (row : Stored) : List Block → List Block
  | [] => [[some row]]
  | block :: older =>
    match block.put? row blockSize with
    | some filled => filled :: older
    | none => [some row] :: block :: older

def insert (t : Table) (id : Int) (embedding : Embedding) : Except TableFault Table :=
  if embedding.isEmpty then .error .emptyStored
  else if embedding.length ≠ t.dimension then
    .error (.storedLength t.dimension embedding.length)
  else if (t.find? id).isSome then .error .duplicateEmbedding
  else .ok { t with blocks := putRow (id, embedding) t.blocks }

def erase (t : Table) (id : Int) : Table :=
  { t with blocks := t.blocks.map (Block.clear id) }

end Table

end Findings.Vector
