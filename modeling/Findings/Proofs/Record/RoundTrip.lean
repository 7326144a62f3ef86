import Findings.Proofs.Json.Decode
import Findings.Proofs.Time.Spelled
import Findings.Record.Document

/-!
# Reading records back from their documents

A record that is written is read back as it was, with its timestamps as texts spell them, and every
record that is read from a document is spelled by a text. Writing what was read from any document
therefore gives a document of the same record, and writing that once more gives the same document.
-/
namespace Findings.Record

open Findings.Json
open Findings.Time

/-! ### Records as texts spell them -/

/-- A new finding with its timestamp as it is read back. -/
def NewFinding.settled (f : NewFinding) : NewFinding :=
  { f with timestamp := f.timestamp.map Timestamp.settled }

/-- Whether texts spell the timestamp of a new finding. -/
def NewFinding.IsRepresentable (f : NewFinding) : Prop :=
  ∀ timestamp ∈ f.timestamp, timestamp.IsRepresentable

/-- Whether texts spell the timestamp of a finding, and its id is a signed word. -/
structure Finding.IsRepresentable (f : Finding) : Prop where
  finding : f.toNewFinding.IsRepresentable
  id_low : -(Number.signedCount : Int) ≤ f.id
  id_high : f.id < Number.signedCount

/-- Whether texts spell the timestamps of a session. -/
def Session.IsRepresentable (s : Session) : Prop :=
  (∀ timestamp ∈ s.startedAt, timestamp.IsRepresentable) ∧ s.analyzedAt.IsRepresentable

lemma NewFinding.settled_eq {f : NewFinding} (h : f.IsRepresentable) : f.settled = f := by
  rw [settled, map_settled h]

/-! ### Written records -/

lemma decodes_timestamp (t : Timestamp) :
    Decodes encodeTimestamp decodeTimestamp? t t.settled := by
  constructor
  case legible => exact (decodes_ofString t.text).legible
  case decode =>
    show (some t.text).bind Timestamp.read? = some t.settled
    rw [Option.bind_some, t.read?_text]

lemma decodes_tags (tags : List String) : Decodes encodeTags decodeTags? tags tags :=
  Decodes.list (List.forall₂_same.mpr fun tag _ => decodes_ofString tag)

lemma decodes_optionalText (s : Option String) :
    Decodes (Value.ofOption .ofString) (Value.orNull? Value.string?) s s := by
  have h : Decodes (Value.ofOption .ofString) (Value.orNull? Value.string?) s (s.map id) :=
    Decodes.ofOption decodes_ofString (fun _ => Value.noConfusion) s
  rwa [Option.map_id] at h

lemma decodes_optionalTimestamp (t : Option Timestamp) :
    Decodes (Value.ofOption encodeTimestamp) (Value.orNull? decodeTimestamp?) t
      (t.map Timestamp.settled) :=
  Decodes.ofOption decodes_timestamp (fun _ => Value.noConfusion) t

lemma decode?_kind (kind : Kind) : Kind.decode? (.ofString kind.name) = some kind :=
  Kind.ofName?_name kind

lemma decode?_severity (severity : Severity) :
    Severity.decode? (.ofString severity.name) = some severity :=
  Severity.ofName?_name severity

/-- The timestamp that a value decodes to is spelled by a text. -/
lemma isRepresentable_of_decodeTimestamp? {value : Value} {t : Timestamp}
    (h : decodeTimestamp? value = some t) : t.IsRepresentable := by
  obtain ⟨text, -, htext⟩ := Option.bind_eq_some_iff.mp h
  exact Timestamp.isRepresentable_of_read? htext

lemma isRepresentable_of_orMissing? {value : Option Value} {timestamp : Option Timestamp}
    (h : orMissing? decodeTimestamp? value = some timestamp) :
    ∀ t ∈ timestamp, t.IsRepresentable := by
  intro t ht
  obtain ⟨item, hitem⟩ := exists_of_mem_orMissing? h ht
  exact isRepresentable_of_decodeTimestamp? hitem

namespace NewFinding

lemma legible_entries (f : NewFinding) : ∀ entry ∈ f.entries, entry.2.Legible := by
  simp only [entries, List.forall_mem_cons]
  exact ⟨(decodes_ofString _).legible, (decodes_ofString _).legible,
    (decodes_ofString _).legible, (decodes_optionalText _).legible, (decodes_ofString _).legible,
    (decodes_tags _).legible, (decodes_optionalTimestamp _).legible, by simp⟩

lemma ofFields?_entries (f : NewFinding) :
    ofFields? (f.entries.map fun entry => some entry.2) = some f.settled := by
  simp only [entries, List.map_cons, List.map_nil, ofFields?, orMissing?,
    (decodes_ofString _).decode, decode?_kind, decode?_severity, (decodes_optionalText _).decode,
    (decodes_tags _).decode, (decodes_optionalTimestamp _).decode, Option.bind_eq_bind,
    Option.bind_some, Option.pure_def]
  rfl

lemma decodes (f : NewFinding) : Decodes encode decode? f f.settled := by
  constructor
  case legible => exact legible_record f.legible_entries
  case decode =>
    have hfields : f.encode.fields? fields = some (f.entries.map fun entry => some entry.2) :=
      fields?_record rfl (by decide)
    rw [decode?, hfields, Option.bind_some, f.ofFields?_entries]

lemma decodes_list {fs : List NewFinding} (h : ∀ f ∈ fs, f.IsRepresentable) :
    Decodes (fun fs => .array (fs.map encode)) (Value.list? decode?) fs fs := by
  apply Decodes.list
  apply List.forall₂_same.mpr
  intro f hf
  have hdecodes := f.decodes
  rwa [settled_eq (h f hf)] at hdecodes

/-- The timestamp that fields hold is spelled by a text. -/
lemma isRepresentable_of_ofFields? {values : List (Option Value)} {f : NewFinding}
    (h : ofFields? values = some f) : f.IsRepresentable := by
  unfold ofFields? at h
  split at h
  case h_1 tags timestamp =>
    simp only [Option.bind_eq_bind, Option.bind_eq_some_iff, Option.pure_def] at h
    obtain ⟨_, -, _, -, _, -, _, -, _, -, h⟩ := h
    -- the timestamp comes behind the tags, whether or not there are any
    cases tags with
    | none =>
      simp only [Option.bind_some, Option.bind_eq_some_iff, Option.some.injEq] at h
      obtain ⟨found, hfound, rfl⟩ := h
      exact isRepresentable_of_orMissing? hfound
    | some tags =>
      simp only [Option.bind_eq_some_iff, Option.some.injEq] at h
      obtain ⟨_, -, found, hfound, rfl⟩ := h
      exact isRepresentable_of_orMissing? hfound
  case h_2 => cases h

lemma isRepresentable_of_decode? {value : Value} {f : NewFinding}
    (h : decode? value = some f) : f.IsRepresentable := by
  obtain ⟨values, -, hvalues⟩ := Option.bind_eq_some_iff.mp h
  exact isRepresentable_of_ofFields? hvalues

end NewFinding

namespace Finding

lemma decodes {f : Finding} (h : f.IsRepresentable) : Decodes encode decode? f f := by
  constructor
  case legible =>
    apply legible_record
    rw [List.forall_mem_cons]
    exact ⟨legible_ofInt f.id, f.legible_entries⟩
  case decode =>
    have hfields : f.encode.fields? fields =
        some (some (.ofInt f.id) :: f.entries.map fun entry => some entry.2) :=
      fields?_record rfl (by decide)
    have hid : (Value.ofInt f.id).integer? = some f.id := integer?_ofInt h.id_low h.id_high
    simp only [decode?, hfields, hid, f.ofFields?_entries, NewFinding.settled_eq h.finding,
      Option.bind_eq_bind, Option.bind_some, Option.pure_def]

lemma isRepresentable_of_decode? {value : Value} {f : Finding} (h : decode? value = some f) :
    f.IsRepresentable := by
  simp only [decode?, Option.bind_eq_bind, Option.bind_eq_some_iff] at h
  obtain ⟨values, -, h⟩ := h
  split at h
  case h_1 id rest =>
    simp only [Option.bind_eq_some_iff, Option.pure_def, Option.some.injEq] at h
    obtain ⟨n, hn, finding, hfinding, rfl⟩ := h
    obtain ⟨hlow, hhigh⟩ := integer?_range hn
    exact ⟨NewFinding.isRepresentable_of_ofFields? hfinding, hlow, hhigh⟩
  case h_2 => cases h

end Finding

namespace Session

lemma decodes {s : Session} (h : s.IsRepresentable) : Decodes encode decode? s s := by
  have hstarted := (decodes_optionalTimestamp s.startedAt).decode
  have hanalyzed := (decodes_timestamp s.analyzedAt).decode
  rw [map_settled h.1] at hstarted
  rw [s.analyzedAt.settled_of_leap h.2] at hanalyzed
  constructor
  case legible =>
    apply legible_record
    simp only [List.forall_mem_cons]
    exact ⟨(decodes_ofString _).legible, (decodes_optionalText _).legible,
      (decodes_optionalTimestamp _).legible, (decodes_timestamp _).legible, by simp⟩
  case decode =>
    have hfields : s.encode.fields? fields =
        some [some (.ofString s.id), some (.ofOption .ofString s.project),
          some (.ofOption encodeTimestamp s.startedAt), some (encodeTimestamp s.analyzedAt)] :=
      fields?_record rfl (by decide)
    simp only [decode?, hfields, orMissing?, (decodes_ofString _).decode,
      (decodes_optionalText _).decode, hstarted, hanalyzed, Option.bind_eq_bind,
      Option.bind_some, Option.pure_def]

lemma isRepresentable_of_decode? {value : Value} {s : Session} (h : decode? value = some s) :
    s.IsRepresentable := by
  simp only [decode?, Option.bind_eq_bind, Option.bind_eq_some_iff] at h
  obtain ⟨values, -, h⟩ := h
  split at h
  case h_1 =>
    simp only [Option.bind_eq_some_iff, Option.pure_def, Option.some.injEq] at h
    obtain ⟨_, -, _, -, startedAt, hstarted, analyzedAt, hanalyzed, rfl⟩ := h
    exact ⟨isRepresentable_of_orMissing? hstarted,
      isRepresentable_of_decodeTimestamp? hanalyzed⟩
  case h_2 => cases h

end Session

/-! ### Documents -/

/-- How records of a type are written and read. -/
structure RoundTrips {α : Type} (read? : String → Option α) (write : α → String)
    (isRepresentable : α → Prop) : Prop where
  /-- Exactly the representable records are read back as they were written. -/
  read_write_iff : ∀ a, read? (write a) = some a ↔ isRepresentable a
  /-- Every text that is read gives a representable record. -/
  of_read : ∀ text a, read? text = some a → isRepresentable a
  /-- What is read from any text is written as a text of the same, which is written once more as
  it is. -/
  again : ∀ text a, read? text = some a →
    read? (write a) = some a ∧ (read? (write a)).map write = some (write a)

lemma roundTrips_of {α : Type} {read? : String → Option α} {write : α → String}
    {isRepresentable : α → Prop} (hback : ∀ a, isRepresentable a → read? (write a) = some a)
    (hread : ∀ text a, read? text = some a → isRepresentable a) :
    RoundTrips read? write isRepresentable := by
  constructor
  case read_write_iff => exact fun a => ⟨hread (write a) a, hback a⟩
  case of_read => exact hread
  case again =>
    intro text a h
    have hagain := hback a (hread text a h)
    exact ⟨hagain, congrArg (Option.map write) hagain⟩

/-- Lists of new findings, findings and sessions are read back from their documents. -/
theorem records_round_trip :
    RoundTrips NewFinding.readList? NewFinding.writeList (fun fs => ∀ f ∈ fs, f.IsRepresentable) ∧
    RoundTrips Finding.read? Finding.write Finding.IsRepresentable ∧
    RoundTrips Session.read? Session.write Session.IsRepresentable := by
  refine ⟨roundTrips_of ?_ ?_, roundTrips_of ?_ ?_, roundTrips_of ?_ ?_⟩
  · exact fun fs h => (NewFinding.decodes_list h).read
  · intro text fs h f hf
    obtain ⟨value, -, hvalue⟩ := Option.bind_eq_some_iff.mp h
    obtain ⟨item, hitem⟩ := exists_of_mem_list? hvalue hf
    exact NewFinding.isRepresentable_of_decode? hitem
  · exact fun f h => (Finding.decodes h).read
  · intro text f h
    obtain ⟨value, -, hvalue⟩ := Option.bind_eq_some_iff.mp h
    exact Finding.isRepresentable_of_decode? hvalue
  · exact fun s h => (Session.decodes h).read
  · intro text s h
    obtain ⟨value, -, hvalue⟩ := Option.bind_eq_some_iff.mp h
    exact Session.isRepresentable_of_decode? hvalue

/-- A list of one finding in a form that is never written: an array of the fields, with blanks, an
escaped character above the basic plane and a leap second in another zone. -/
def looseText : String :=
  "[ [\"\", \"praise\", \"\\ud83d\\ude00\\u0000\\\"\", null, \"low\", [\"\\/\"], " ++
    "\"+10000-1-1t05:29:60.1234567891 +05:30\"] ]"

/-- The leap second is kept, and so are the characters. -/
theorem records_round_trip_loose : ∃ fs, NewFinding.readList? looseText = some fs ∧
    fs.map (fun f => (f.content, f.timestamp.map (·.nanos))) =
      [("😀\x00\"", some 1123456789)] ∧
    NewFinding.readList? (NewFinding.writeList fs) = some fs := by
  have hread : (NewFinding.readList? looseText).map
      (·.map fun f => (f.content, f.timestamp.map (·.nanos))) =
        some [("😀\x00\"", some 1123456789)] := by
    decide +kernel
  obtain ⟨fs, hfs, hparts⟩ := Option.map_eq_some_iff.mp hread
  exact ⟨fs, hfs, hparts, (records_round_trip.1.again looseText fs hfs).1⟩

end Findings.Record
