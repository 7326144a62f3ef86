import Findings.Proofs.Store.Coherence
import Findings.Proofs.Store.Failure

/-!
# Reading from tables

Reading changes nothing. Rows are read together: one row that spells no finding fails them all,
and otherwise every row gives its finding.
-/
namespace Findings.Store

open Findings.Record

/-- All values of a partial function on a list, if there is one for each item. -/
lemma mapM_eq_ite {α β : Type} (f : α → Option β) (items : List α) :
    items.mapM f =
      if ∀ item ∈ items, (f item).isSome then some (items.filterMap f) else none := by
  induction items with
  | nil => simp
  | cons item items ih =>
    rw [List.mapM_cons, ih]
    cases h : f item with
    | none => simp [h]
    | some b =>
      have hcons : (∀ other ∈ item :: items, (f other).isSome) ↔
          ∀ other ∈ items, (f other).isSome := by simp [h]
      simp only [hcons, List.filterMap_cons_some h]
      split_ifs <;> rfl

theorem readRows_apply (rows : List Row) (s : Store) :
    readRows rows s =
      if ∀ row ∈ rows, row.finding?.isSome then (.ok (rows.filterMap Row.finding?), s)
      else (.error (.table .unreadable), s) := by
  rw [readRows, mapM_eq_ite]
  split_ifs <;> rfl

/-- A finding keeps the id of its row. -/
lemma id_of_finding? {row : Row} {f : Finding} (h : row.finding? = some f) : f.id = row.id := by
  simp only [Row.finding?, Option.bind_eq_bind, Option.bind_eq_some_iff, Option.pure_def,
    Option.some.injEq] at h
  obtain ⟨tags, -, kind, -, severity, -, timestamp, -, rfl⟩ := h
  rfl

/-- A finding keeps the session of its row. -/
lemma session_of_finding? {row : Row} {f : Finding} (h : row.finding? = some f) :
    f.session = row.session := by
  simp only [Row.finding?, Option.bind_eq_bind, Option.bind_eq_some_iff, Option.pure_def,
    Option.some.injEq] at h
  obtain ⟨tags, -, kind, -, severity, -, timestamp, -, rfl⟩ := h
  rfl

/-- A finding is of the kind that its row names. -/
lemma kind_of_finding? {row : Row} {f : Finding} (h : row.finding? = some f) :
    Kind.ofText? row.kind = some f.kind := by
  simp only [Row.finding?, Option.bind_eq_bind, Option.bind_eq_some_iff, Option.pure_def,
    Option.some.injEq] at h
  obtain ⟨tags, -, kind, hkind, severity, -, timestamp, -, rfl⟩ := h
  exact hkind

variable {t : Tables} {handle : Handle}

def Tables.rowsOf (t : Tables) (ids : List Int) : List Row :=
  t.findings.filter fun row => ids.contains row.id

theorem lookUp_store (ids : List Int) :
    lookUp ids t.store =
      if ids = [] then (.ok [], t.store)
      else if maxIds < ids.length then (.error (.table .tooManyIds), t.store)
      else readRows (t.rowsOf ids) t.store := by
  by_cases hempty : ids = []
  · simp [lookUp, hempty]
  · by_cases hmany : maxIds < ids.length
    · simp [lookUp, hempty, hmany]
    · simp [lookUp, hempty, hmany, require_findings, Tables.rowsOf]

/-- A row of coherent tables is the one that is found under its id. -/
lemma Coherent.find?_row (h : Coherent t) {row : Row} (hrow : row ∈ t.findings) :
    t.findings.find? (·.id == row.id) = some row := by
  cases hfound : t.findings.find? (·.id == row.id) with
  | none => simpa using List.find?_eq_none.mp hfound row hrow
  | some other =>
    have hid : other.id = row.id := by simpa using List.find?_some hfound
    rw [h.eq_of_id_eq (List.mem_of_find?_eq_some hfound) hrow hid]

/-- A row that can be read gives its finding under its id. -/
theorem get?_store (h : Coherent t) {row : Row} {f : Finding} (hrow : row ∈ t.findings)
    (hf : row.finding? = some f) : get? handle row.id t.store = (.ok (some f), t.store) := by
  simp [get?, require_findings, h.find?_row hrow, readRows_apply, hf]

end Findings.Store
