import Findings.Lexical.Ranking
import Findings.Vector.Table

/-!
# The store

A store has four tables: sessions, findings, the lexical index and the embeddings. The index
and the embeddings follow the findings. A table is missing until the schema is applied, or when it
has been dropped. Columns hold texts; what they mean is decided when a row is read.
-/
namespace Findings

namespace Store

/-- A row of the table of sessions. The time of analysis is missing in a row that was made for
the first finding of its session. -/
structure SessionRow where
  id : String
  project : Option String := none
  startedAt : Option String := none
  analyzedAt : Option String := none
  deriving DecidableEq, Repr, Inhabited

/-- A row of the table of findings. -/
structure Row where
  id : Int
  session : String
  kind : String
  content : String
  context : Option String := none
  severity : String
  tags : Option String := none
  timestamp : Option String := none
  deriving DecidableEq, Repr, Inhabited

/-- What the lexical index holds of a row. -/
def Row.entry (row : Row) : Lexical.Entry := ⟨row.id, row.content, row.context, row.kind⟩

end Store

open Store in
/-- The tables, and the largest id that was ever given to a finding. -/
structure Store where
  migrated : Bool := false
  sessions : Option (List SessionRow) := none
  findings : Option (List Row) := none
  lexical : Option (List Lexical.Entry) := none
  vectors : Option Vector.Table := none
  lastId : Int := 0
  deriving DecidableEq, Repr, Inhabited

namespace Store

/-- A way to a store: its path and the dimension of the embeddings that its user has. -/
structure Handle where
  path : String
  dimension : Nat
  deriving DecidableEq, Repr, Inhabited

/-- A step on a store. A step that fails may leave changes behind. -/
abbrev Action := ExceptT Error (StateM Store)

def fault {α : Type} (f : TableFault) : Action α := throw (.table f)

/-- What a fallible computation gives, as a statement. -/
def liftFault {α : Type} : Except TableFault α → Action α
  | .ok a => pure a
  | .error f => fault f

/-- A table that has to exist, under the name that an error gives it. -/
def require {α : Type} (name : String) (table : Option α) : Action α :=
  match table with
  | some rows => pure rows
  | none => fault (.noTable name)

/-- A step whose changes are taken back if it fails. -/
def transaction {α : Type} (step : Action α) : Action α := fun store =>
  match step store with
  | (.ok a, changed) => (.ok a, changed)
  | (.error e, _) => (.error e, store)

section Run

variable {α β : Type}

@[simp] theorem pure_apply (a : α) (s : Store) : (pure a : Action α) s = (.ok a, s) := rfl

@[simp] theorem get_apply (s : Store) : (get : Action Store) s = (.ok s, s) := rfl

@[simp] theorem modify_apply (f : Store → Store) (s : Store) :
    (modify f : Action Unit) s = (.ok (), f s) := rfl

@[simp] theorem throw_apply (e : Error) (s : Store) :
    (throw e : Action α) s = (.error e, s) := rfl

@[simp] theorem fault_apply (f : TableFault) (s : Store) :
    (fault f : Action α) s = (.error (.table f), s) := rfl

@[simp] theorem liftFault_ok (a : α) : (liftFault (.ok a) : Action α) = pure a := rfl

@[simp] theorem liftFault_error (f : TableFault) : (liftFault (.error f) : Action α) = fault f :=
  rfl

@[simp] theorem require_some (name : String) (a : α) : require name (some a) = pure a := rfl

@[simp] theorem require_none (name : String) :
    (require name none : Action α) = fault (.noTable name) := rfl

@[simp] theorem bind_apply (x : Action α) (f : α → Action β) (s : Store) :
    (x >>= f) s = match x s with
      | (.ok a, t) => f a t
      | (.error e, t) => (.error e, t) := by
  change ExceptT.bind x f s = _
  simp only [ExceptT.bind, ExceptT.mk, bind, StateT.bind]
  rcases x s with ⟨_ | _, _⟩ <;> rfl

@[simp] theorem map_apply (f : α → β) (x : Action α) (s : Store) :
    (f <$> x) s = match x s with
      | (.ok a, t) => (.ok (f a), t)
      | (.error e, t) => (.error e, t) := by
  rw [← bind_pure_comp, bind_apply]
  rfl

@[simp] theorem discard_apply (x : Action α) (s : Store) :
    (discard x : Action Unit) s = match x s with
      | (.ok _, t) => (.ok (), t)
      | (.error e, t) => (.error e, t) :=
  map_apply (Function.const α ()) x s

@[simp] theorem tryCatch_apply (x : Action α) (handle : Error → Action α) (s : Store) :
    (tryCatch x handle : Action α) s = match x s with
      | (.ok a, t) => (.ok a, t)
      | (.error e, t) => handle e t := by
  change ExceptT.tryCatch x handle s = _
  simp only [ExceptT.tryCatch, ExceptT.mk, bind, StateT.bind]
  rcases x s with ⟨_ | _, _⟩ <;> rfl

@[simp] theorem step_ite (c : Prop) [Decidable c] (x y : Action α) (s : Store) :
    (if c then x else y) s = if c then x s else y s := by
  split <;> rfl

/-- Outcomes of steps are equal if their results and their stores are. -/
@[simp] theorem outcome_eq_iff {a b : Except Error α} {s t : Store} :
    @Eq (Id (Except Error α × Store)) (a, s) (b, t) ↔ a = b ∧ s = t :=
  Prod.mk.injEq .. ▸ Iff.rfl

end Run

/-- A transaction that fails changes nothing. -/
theorem transaction_error {α : Type} {step : Action α} {s t : Store} {e : Error}
    (h : transaction step s = (.error e, t)) : t = s := by
  unfold transaction at h
  split at h
  · cases h
  · cases h
    rfl

end Store

end Findings
