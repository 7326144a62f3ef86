import Findings.Proofs.Record.RoundTrip
import Findings.Proofs.Store.Reading

/-!
# Reading findings back from their rows

A row that was written for a finding spells that finding, so reading never fails on what the store
itself has written.
-/
namespace Findings.Store

open Findings.Record
open Findings.Time

/-- Tags are read back from their column. -/
theorem readTags?_tagsColumn (tags : List String) : readTags? (tagsColumn tags) = some tags := by
  cases tags with
  | nil => rfl
  | cons tag tags =>
    have hread := (decodes_tags (tag :: tags)).read
    simp only [tagsColumn, List.isEmpty_cons, Bool.false_eq_true, if_false, readTags?, hread]

/-- A timestamp is read back from its column. -/
theorem readTimestamp?_columnText (timestamp : Option Timestamp) :
    readTimestamp? (timestamp.map Timestamp.columnText) =
      some (timestamp.map Timestamp.settled) := by
  cases timestamp with
  | none => rfl
  | some t => simp [readTimestamp?, t.ofColumn?_columnText]

/-- A finding as it is read back: a fraction above one is kept at the end of a minute only. -/
def stored (id : Int) (f : NewFinding) : Finding :=
  { f with id, timestamp := f.timestamp.map Timestamp.settled }

/-- A finding is read back from its row. -/
theorem finding?_ofNew (id : Int) (f : NewFinding) :
    (Row.ofNew id f).finding? = some (stored id f) := by
  simp only [Row.finding?, Row.ofNew, readTags?_tagsColumn, Kind.ofText?_name,
    Severity.ofText?_name, readTimestamp?_columnText, Option.bind_eq_bind, Option.bind_some,
    Option.pure_def]
  rfl

/-- Every row of coherent tables is read. -/
theorem Coherent.isSome_finding? {t : Tables} (h : Coherent t) {row : Row}
    (hrow : row ∈ t.findings) : row.finding?.isSome := by
  obtain ⟨f, hf⟩ := h.written row hrow
  rw [hf, finding?_ofNew]
  rfl

/-- A session is listed with the findings that its rows spell. -/
theorem Coherent.listSession_store {t : Tables} (h : Coherent t) (handle : Handle)
    (session : String) :
    listSession handle session t.store =
      (.ok ((t.findings.filter (·.session == session)).filterMap Row.finding?), t.store) := by
  have hread : ∀ row ∈ t.findings.filter (·.session == session), row.finding?.isSome :=
    fun row hrow => h.isSome_finding? (List.mem_of_mem_filter hrow)
  have hrequire : listSession handle session t.store =
      readRows (t.findings.filter (·.session == session)) t.store := rfl
  rw [hrequire, readRows_apply, if_pos hread]

end Findings.Store
