import Findings.Store.Direct
import Findings.Store.Read
import Findings.Store.Write
import Mathlib.Tactic.Common

/-!
# Failing steps

A step either reads only, or it checks before it writes, or it is a transaction. In all three
cases a failure leaves every table as it was, whatever the tables hold and whichever are missing.
-/
namespace Findings.Store

open Findings.Record

variable {α β : Type}

/-- A step that never changes a store. -/
def ReadOnly (x : Action α) : Prop := ∀ s, (x s).2 = s

/-- A step that changes nothing if it fails. -/
def Atomic (x : Action α) : Prop := ∀ ⦃s e t⦄, x s = (.error e, t) → t = s

/-- A sequence succeeds if both of its steps do. -/
theorem bind_eq_ok_iff {x : Action α} {f : α → Action β} {s u : Store} {b : β} :
    (x >>= f) s = (.ok b, u) ↔ ∃ a t, x s = (.ok a, t) ∧ f a t = (.ok b, u) := by
  rw [bind_apply]
  rcases x s with ⟨_ | a, t⟩ <;> simp

theorem transaction_eq_ok_iff {x : Action α} {s u : Store} {a : α} :
    transaction x s = (.ok a, u) ↔ x s = (.ok a, u) := by
  unfold transaction
  rcases x s with ⟨_ | a, t⟩ <;> simp

theorem liftFault_eq_ok_iff {x : Except TableFault α} {s u : Store} {a : α} :
    liftFault x s = (.ok a, u) ↔ x = .ok a ∧ s = u := by
  cases x <;> simp

/-- A step that only reads fails or succeeds with the store as it was. -/
lemma ReadOnly.outcome {x : Action α} (hx : ReadOnly x) (s : Store) :
    (∃ e, x s = (.error e, s)) ∨ ∃ a, x s = (.ok a, s) := by
  have h := hx s
  rcases hxs : x s with ⟨e | a, t⟩ <;> rw [hxs] at h
  · exact .inl ⟨e, congrArg (Prod.mk _) h⟩
  · exact .inr ⟨a, congrArg (Prod.mk _) h⟩

/-- The outcome of a step that only reads, by what it gives. -/
lemma ReadOnly.eq_of_toOption_eq_some {x : Action α} (hx : ReadOnly x) {s : Store} {a : α}
    (h : (x s).1.toOption = some a) : x s = (.ok a, s) := by
  obtain ⟨e, hfails⟩ | ⟨b, hok⟩ := hx.outcome s
  · rw [hfails] at h
    cases h
  · rw [hok] at h ⊢
    rw [Option.some.inj h]

lemma readOnly_pure (a : α) : ReadOnly (pure a) := fun _ => rfl

lemma readOnly_get : ReadOnly (get : Action Store) := fun _ => rfl

lemma readOnly_throw (e : Error) : ReadOnly (throw e : Action α) := fun _ => rfl

lemma readOnly_fault (f : TableFault) : ReadOnly (fault f : Action α) := fun _ => rfl

lemma readOnly_require (name : String) (table : Option α) : ReadOnly (require name table) := by
  cases table <;> exact fun _ => rfl

lemma readOnly_liftFault (x : Except TableFault α) : ReadOnly (liftFault x) := by
  cases x <;> exact fun _ => rfl

lemma ReadOnly.bind {x : Action α} {f : α → Action β} (hx : ReadOnly x)
    (hf : ∀ a, ReadOnly (f a)) : ReadOnly (x >>= f) := by
  intro s
  obtain ⟨e, hxs⟩ | ⟨a, hxs⟩ := hx.outcome s <;> rw [bind_apply, hxs]
  exact hf a s

/-- What follows on a step that only reads begins with the store as it was. -/
lemma ReadOnly.of_bind_eq_ok {x : Action α} {f : α → Action β} {s u : Store} {b : β}
    (hx : ReadOnly x) (h : (x >>= f) s = (.ok b, u)) :
    ∃ a, x s = (.ok a, s) ∧ f a s = (.ok b, u) := by
  obtain ⟨a, t, hxs, hf⟩ := bind_eq_ok_iff.mp h
  have hread := hx s
  rw [hxs] at hread
  obtain rfl : t = s := hread
  exact ⟨a, hxs, hf⟩

lemma ReadOnly.map {x : Action α} (hx : ReadOnly x) (f : α → β) : ReadOnly (f <$> x) := by
  rw [← bind_pure_comp]
  exact hx.bind fun _ => readOnly_pure _

lemma ReadOnly.discard {x : Action α} (hx : ReadOnly x) : ReadOnly (discard x) := hx.map _

lemma ReadOnly.ite {c : Prop} [Decidable c] {x y : Action α} (hx : ReadOnly x)
    (hy : ReadOnly y) : ReadOnly (if c then x else y) := by
  split <;> assumption

lemma ReadOnly.forM {items : List β} {f : β → Action Unit} (hf : ∀ item, ReadOnly (f item)) :
    ReadOnly (items.forM f) := by
  induction items with
  | nil => exact readOnly_pure ()
  | cons item items ih => exact (hf item).bind fun _ => ih

lemma ReadOnly.atomic {x : Action α} (hx : ReadOnly x) : Atomic x := by
  intro s e t h
  have := hx s
  rwa [h] at this

lemma atomic_modify (f : Store → Store) : Atomic (modify f : Action Unit) := by
  intro s e t h
  simp at h

lemma atomic_transaction (x : Action α) : Atomic (transaction x) :=
  fun _ _ _ h => transaction_error h

lemma Atomic.map {x : Action α} (hx : Atomic x) (f : α → β) : Atomic (f <$> x) := by
  intro s e t h
  rw [map_apply] at h
  rcases hxs : x s with ⟨_ | a, u⟩ <;> rw [hxs] at h <;> cases h
  exact hx hxs

lemma Atomic.discard {x : Action α} (hx : Atomic x) : Atomic (discard x) := hx.map _

/-- What is only read before may fail as well. -/
lemma ReadOnly.bind_atomic {x : Action α} {f : α → Action β} (hx : ReadOnly x)
    (hf : ∀ a, Atomic (f a)) : Atomic (x >>= f) := by
  intro s e t h
  obtain ⟨e', hxs⟩ | ⟨a, hxs⟩ := hx.outcome s <;> rw [bind_apply, hxs] at h
  · cases h
    rfl
  · exact hf a h

/-- A write that cannot fail may come before the result. -/
lemma atomic_modify_pure (f : Store → Store) (a : α) :
    Atomic (do modify f; pure a : Action α) := by
  intro s e t h
  simp at h

lemma readOnly_ensureSchema (handle : Handle) : ReadOnly (ensureSchema handle) :=
  readOnly_get.bind fun _ => .ite (readOnly_pure _) (readOnly_throw _)

lemma readOnly_checkHandle (handle : Handle) : ReadOnly (checkHandle handle) := by
  refine readOnly_get.bind fun s => ?_
  split
  · exact .ite (readOnly_throw _) (readOnly_pure _)
  · exact readOnly_pure _

lemma readOnly_checkDimension (handle : Handle) (embedding : Embedding) :
    ReadOnly (checkDimension handle embedding) :=
  .ite (readOnly_throw _) (readOnly_pure _)

lemma readOnly_validate (handle : Handle) (f : NewFinding) (embedding : Option Embedding) :
    ReadOnly (validate handle f embedding) := by
  have htexts : ∀ {rest : Action Unit}, ReadOnly rest → ReadOnly (do
      if Text.isBlankText f.session then throw (.finding .blankSession)
      if Text.isBlankText f.content then throw (.finding .blankContent)
      rest) := by
    intro rest hrest
    exact .ite ((readOnly_throw _).bind fun _ => .ite ((readOnly_throw _).bind fun _ => hrest) hrest)
      (.ite ((readOnly_throw _).bind fun _ => hrest) hrest)
  cases embedding with
  | none => exact htexts (readOnly_pure _)
  | some vector => exact htexts (readOnly_checkDimension _ _)

lemma readOnly_validateFor (handle : Handle) (session : String) (item : NewFinding × Embedding) :
    ReadOnly (validateFor handle session item) :=
  .ite ((readOnly_throw _).bind fun _ => readOnly_validate _ _ _) (readOnly_validate _ _ _)

theorem atomic_applySchema (handle : Handle) : Atomic (applySchema handle) := by
  refine readOnly_get.bind_atomic fun s => ?_
  split
  · exact (readOnly_pure _).atomic
  · split
    · exact (readOnly_fault _).bind_atomic fun _ => atomic_modify _
    · exact atomic_modify _

theorem atomic_upsertSession (handle : Handle) (s : Session) : Atomic (upsertSession handle s) :=
  (readOnly_ensureSchema handle).bind_atomic fun _ => readOnly_get.bind_atomic fun _ =>
    (readOnly_require _ _).bind_atomic fun _ => atomic_modify _

theorem atomic_insert (handle : Handle) (f : NewFinding) (embedding : Option Embedding) :
    Atomic (insert handle f embedding) :=
  (readOnly_validate handle f embedding).bind_atomic fun _ =>
    (readOnly_ensureSchema handle).bind_atomic fun _ => atomic_transaction _

theorem atomic_replaceSession (handle : Handle) (session : String)
    (items : List (NewFinding × Embedding)) : Atomic (replaceSession handle session items) :=
  (ReadOnly.forM (readOnly_validateFor handle session)).bind_atomic fun _ =>
    (readOnly_ensureSchema handle).bind_atomic fun _ => atomic_transaction _

theorem atomic_setEmbedding (handle : Handle) (id : Int) (embedding : Embedding) :
    Atomic (setEmbedding handle id embedding) :=
  (readOnly_checkDimension handle embedding).bind_atomic fun _ =>
    (readOnly_ensureSchema handle).bind_atomic fun _ => atomic_transaction _

theorem atomic_deleteRows (chosen : Row → Bool) : Atomic (deleteRows chosen) :=
  readOnly_get.bind_atomic fun _ => (readOnly_require _ _).bind_atomic fun _ =>
    (readOnly_require _ _).discard.bind_atomic fun _ => (readOnly_require _ _).bind_atomic fun _ =>
      (readOnly_require _ _).bind_atomic fun _ => atomic_modify_pure _ _

theorem atomic_delete (handle : Handle) (id : Int) : Atomic (delete handle id) := by
  refine (readOnly_ensureSchema handle).bind_atomic fun _ => ?_
  rw [bind_pure_comp]
  exact (atomic_deleteRows _).map _

theorem atomic_deleteSession (handle : Handle) (session : String) :
    Atomic (deleteSession handle session) :=
  (readOnly_ensureSchema handle).bind_atomic fun _ => atomic_deleteRows _

theorem atomic_updateRow (id : Int) (change : Row → Row) : Atomic (updateRow id change) := by
  refine readOnly_get.bind_atomic fun _ => (readOnly_require _ _).bind_atomic fun _ =>
    (readOnly_require _ _).bind_atomic fun _ => ?_
  split
  · exact (readOnly_pure _).atomic
  · exact atomic_modify_pure _ _

lemma readOnly_present (column : String) (value : Option String) :
    ReadOnly (present column value) := by
  cases value
  · exact readOnly_fault _
  · exact readOnly_pure _

lemma readOnly_allow (check : List String × String) (value : String) :
    ReadOnly (allow check value) :=
  .ite (readOnly_pure _) (readOnly_fault _)

lemma readOnly_checkTexts (id : Int) (kind content : Option String) :
    ReadOnly (checkTexts id kind content) := by
  refine readOnly_get.bind fun _ => (readOnly_require _ _).bind fun _ =>
    readOnly_get.bind fun _ => (readOnly_require _ _).discard.bind fun _ => .ite ?_ (readOnly_pure _)
  exact (readOnly_present _ _).bind fun _ => (readOnly_present _ _).bind fun _ =>
    (readOnly_allow _ _).bind fun _ => readOnly_pure _

theorem atomic_updateTexts (id : Int) (content context kind : Option String) :
    Atomic (updateTexts id content context kind) :=
  (readOnly_checkTexts id kind content).bind_atomic fun _ => atomic_updateRow _ _

theorem atomic_deleteSessionRow (id : String) : Atomic (deleteSessionRow id) :=
  atomic_transaction _

end Findings.Store
