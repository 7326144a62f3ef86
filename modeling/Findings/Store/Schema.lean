import Findings.Store.Basic

/-!
# The schema

The schema is applied once. From then on applying it again does nothing, also when a table has
been dropped since. The dimension of the embeddings is fixed when it is applied.
-/
namespace Findings.Store

/-- Makes the tables, unless they have been made before. -/
def applySchema (handle : Handle) : Action Unit := do
  let store ← get
  if store.migrated then return
  if maxDimension < handle.dimension then fault (.dimensionLimit handle.dimension)
  modify fun store => { store with
    migrated := true
    sessions := some []
    findings := some []
    lexical := some []
    vectors := some (.empty handle.dimension) }

/-- Whether the tables that every operation needs exist. -/
def hasSchema (store : Store) : Bool :=
  store.findings.isSome && store.lexical.isSome && store.vectors.isSome

/-- Fails unless the schema has been applied. -/
def ensureSchema (handle : Handle) : Action Unit := do
  let store ← get
  unless store.hasSchema do throw (.schemaMissing handle.path)

/-- Fails if the store has embeddings of another dimension than the handle. -/
def checkHandle (handle : Handle) : Action Unit := do
  match (← get).vectors with
  | some table =>
    if table.dimension ≠ handle.dimension then throw (.dimension table.dimension handle.dimension)
  | none => return

end Findings.Store
