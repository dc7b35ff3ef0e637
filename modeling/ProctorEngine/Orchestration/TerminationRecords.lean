import ProctorEngine.Models

/-!
# Inserting into `termination_records`

Three paths insert a termination record: the identity block at connect, the internal
terminate route and the persistence worker's kill-switch. All of them meet the same
constraints, so the constraints are stated once, as `RecordInsertable`, and the insert is
their test followed by the append.

A record is append-only: the ORM's `before_update` listener and the PostgreSQL trigger
reject every update, so there is no operation that changes one.
-/

set_option autoImplicit false

namespace ProctorEngine

/-- The one reason under which a record may name no flag. -/
def identityBackendUnavailableNoOverride : String := "identity_backend_unavailable_no_override"

/-- The constraints of `termination_records`, for a row about to be inserted: both foreign
    keys, `ck_termination_flag_null_only_for_identity_backend_unavailable`, the primary key
    and the unique session. -/
structure RecordInsertable (db : Database) (r : TerminationRecord) : Prop where
  session : (db.getExamSession r.examSessionId).isSome
  flag : r.triggeringFlagId.all fun f => (db.getFlag f).isSome
  reason : r.reason = identityBackendUnavailableNoOverride ↔ r.triggeringFlagId = none
  fresh : ∀ x ∈ db.terminationRecords.rows, ¬ TerminationRecord.Clash x r

instance {db : Database} {r : TerminationRecord} : Decidable (RecordInsertable db r) :=
  decidable_of_iff
    ((db.getExamSession r.examSessionId).isSome ∧
      (r.triggeringFlagId.all fun f => (db.getFlag f).isSome) ∧
      (r.reason = identityBackendUnavailableNoOverride ↔ r.triggeringFlagId = none) ∧
      ∀ x ∈ db.terminationRecords.rows, ¬ TerminationRecord.Clash x r)
    ⟨fun ⟨h₁, h₂, h₃, h₄⟩ => ⟨h₁, h₂, h₃, h₄⟩, fun ⟨h₁, h₂, h₃, h₄⟩ => ⟨h₁, h₂, h₃, h₄⟩⟩

/-- `INSERT INTO termination_records`; `none` is `IntegrityError`. -/
def Database.insertTerminationRecord (db : Database) (r : TerminationRecord) : Option Database :=
  if RecordInsertable db r then
    (db.terminationRecords.insert? r).map fun t => { db with terminationRecords := t }
  else none

section
variable {db db' : Database} {r : TerminationRecord}

theorem insertTerminationRecord_eq_some_iff :
    db.insertTerminationRecord r = some db' ↔
      RecordInsertable db r ∧ ∃ t, db.terminationRecords.insert? r = some t ∧
        db' = { db with terminationRecords := t } := by
  unfold Database.insertTerminationRecord
  split
  · rename_i h
    simp only [Option.map_eq_some_iff, h, true_and]
    exact exists_congr fun t => and_congr_right fun _ => eq_comm
  · rename_i h
    simp [h]

/-- The constraints are all there is to the insert. -/
theorem insertTerminationRecord_isSome_iff :
    (db.insertTerminationRecord r).isSome ↔ RecordInsertable db r := by
  rw [Option.isSome_iff_exists]
  constructor
  · rintro ⟨db', h⟩
    exact (insertTerminationRecord_eq_some_iff.mp h).1
  · intro h
    obtain ⟨t, ht⟩ := Table.exists_insert? h.fresh
    exact ⟨_, insertTerminationRecord_eq_some_iff.mpr ⟨h, t, ht, rfl⟩⟩

theorem insertTerminationRecord_eq_none (h : ¬ RecordInsertable db r) :
    db.insertTerminationRecord r = none := if_neg h

/-- A status write in the same transaction does not bear on the insert. -/
@[simp] theorem recordInsertable_updateExamSession {id : UUID} {f : ExamSession → ExamSession}
    {hf : ∀ s, (f s).id = s.id} :
    RecordInsertable (db.updateExamSession id f hf) r ↔ RecordInsertable db r := by
  have hs : ((db.updateExamSession id f hf).getExamSession r.examSessionId).isSome ↔
      (db.getExamSession r.examSessionId).isSome := by
    rw [Database.getExamSession_updateExamSession]
    split <;> simp
  constructor
  · exact fun ⟨h₁, h₂, h₃, h₄⟩ => ⟨hs.mp h₁, h₂, h₃, h₄⟩
  · exact fun ⟨h₁, h₂, h₃, h₄⟩ => ⟨hs.mpr h₁, h₂, h₃, h₄⟩

variable (h : db.insertTerminationRecord r = some db')
include h

theorem mem_insertTerminationRecord {x : TerminationRecord} :
    x ∈ db'.terminationRecords ↔ x ∈ db.terminationRecords ∨ x = r := by
  obtain ⟨-, t, ht, rfl⟩ := insertTerminationRecord_eq_some_iff.mp h
  exact Table.mem_insert? ht

theorem insertTerminationRecord_examSessions : db'.examSessions = db.examSessions := by
  obtain ⟨-, t, -, rfl⟩ := insertTerminationRecord_eq_some_iff.mp h
  rfl

theorem insertTerminationRecord_getExamSession {id : UUID} :
    db'.getExamSession id = db.getExamSession id := by
  unfold Database.getExamSession
  rw [insertTerminationRecord_examSessions h]

end

end ProctorEngine
