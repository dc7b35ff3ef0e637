import ProctorEngine.Orchestration.StateMachine
import ProctorEngine.Orchestration.TerminationRecords

/-!
# `POST /sessions/{session_id}/terminate`

The internal terminate route: three checks on what it reads, then status, end time and
termination record in one transaction. The transition is asserted against the status the
route *read*; the commit overwrites whatever is there.
-/

set_option autoImplicit false

namespace ProctorEngine

/-- The request body; the proof field is its `Field(min_length=1, max_length=512)`. -/
structure TerminateRequest where
  triggeringFlagId : UUID
  reason : String
  reasonLength : 1 ≤ reason.length ∧ reason.length ≤ 512

/-- The closed error codes of the route. -/
inductive TerminateError where
  | sessionNotFound
  | flagNotFound
  | invalidSessionTransition (e : InvalidSessionTransition)
  | evidenceSealFailed
deriving DecidableEq, Repr

/-- The reading half of `post_terminate`. -/
def readTerminate (db : Database) (sid : UUID) (request : TerminateRequest) :
    Except TerminateError ExamSession :=
  match db.getExamSession sid with
  | none => .error .sessionNotFound
  | some session =>
    if (db.getFlag request.triggeringFlagId).isNone then .error .flagNotFound
    else match assertTransition session.status .terminated with
      | .error e => .error (.invalidSessionTransition e)
      | .ok () => .ok session

/-- The record the route inserts. -/
def terminateRecord (session : ExamSession) (request : TerminateRequest) (recordId : UUID) :
    TerminationRecord where
  id := recordId
  examSessionId := session.id
  triggeringFlagId := some request.triggeringFlagId
  reason := request.reason

/-- `ck_exam_session_timestamp_order`, for the row an end time is about to be written to. -/
def TimestampOrder (db : Database) (sid : UUID) (endedAt : DateTime) : Prop :=
  ∀ s ∈ db.getExamSession sid, ∀ t ∈ s.startedAt, t ≤ endedAt

instance {db : Database} {sid : UUID} {endedAt : DateTime} :
    Decidable (TimestampOrder db sid endedAt) :=
  inferInstanceAs (Decidable (∀ s ∈ db.getExamSession sid, ∀ t ∈ s.startedAt, t ≤ endedAt))

/-- The committing half; `none` is the `IntegrityError` the route maps to
    `evidence_seal_failed`. -/
def commitTerminate (db : Database) (session : ExamSession) (request : TerminateRequest)
    (now : DateTime) (recordId : UUID) : Option Database :=
  if TimestampOrder db session.id now then
    (db.updateExamSession session.id
      (fun s => { s with status := .terminated, endedAt := some now })
      fun _ => rfl).insertTerminationRecord (terminateRecord session request recordId)
  else none

/-- `post_terminate`, with nobody between its read and its commit. -/
def postTerminate (db : Database) (sid : UUID) (request : TerminateRequest) (now : DateTime)
    (recordId : UUID) : Database × Except TerminateError TerminationRecord :=
  match readTerminate db sid request with
  | .error e => (db, .error e)
  | .ok session =>
    match commitTerminate db session request now recordId with
    | none => (db, .error .evidenceSealFailed)
    | some db' => (db', .ok (terminateRecord session request recordId))

theorem readTerminate_eq_ok {db : Database} {sid : UUID} {request : TerminateRequest}
    {s : ExamSession} (h : readTerminate db sid request = .ok s) :
    db.getExamSession sid = some s ∧ (s.status = .pending ∨ s.status = .active) := by
  unfold readTerminate at h
  split at h
  · exact absurd h (by simp)
  · rename_i s' hs'
    split at h
    · exact absurd h (by simp)
    · split at h
      · exact absurd h (by simp)
      · rename_i htr
        obtain rfl := Except.ok.inj h
        exact ⟨hs', mem_allowed_terminated_iff.mp (assertTransition_eq_ok_iff.mp htr)⟩

section
variable {db db' : Database} {session : ExamSession} {request : TerminateRequest}
  {now : DateTime} {id recordId : UUID}

theorem commitTerminate_isSome_iff :
    (commitTerminate db session request now recordId).isSome ↔
      TimestampOrder db session.id now ∧
        RecordInsertable db (terminateRecord session request recordId) := by
  unfold commitTerminate
  split
  · rename_i hts
    rw [insertTerminationRecord_isSome_iff, recordInsertable_updateExamSession]
    simp [hts]
  · rename_i hts
    simp [hts]

/-- A commit that goes through is the row update followed by the insert. -/
theorem commitTerminate_eq_some (h : commitTerminate db session request now recordId = some db') :
    (db.updateExamSession session.id
      (fun s => { s with status := .terminated, endedAt := some now })
      fun _ => rfl).insertTerminationRecord (terminateRecord session request recordId)
        = some db' := by
  unfold commitTerminate at h
  split at h
  · exact h
  · exact absurd h (by simp)

theorem commitTerminate_getExamSession
    (h : commitTerminate db session request now recordId = some db') :
    db'.getExamSession id =
      if id = session.id then
        (db.getExamSession id).map fun s => { s with status := .terminated, endedAt := some now }
      else db.getExamSession id := by
  rw [insertTerminationRecord_getExamSession (commitTerminate_eq_some h),
    Database.getExamSession_updateExamSession]

theorem mem_commitTerminate (h : commitTerminate db session request now recordId = some db')
    {x : TerminationRecord} :
    x ∈ db'.terminationRecords ↔
      x ∈ db.terminationRecords ∨ x = terminateRecord session request recordId :=
  mem_insertTerminationRecord (commitTerminate_eq_some h)

end

end ProctorEngine
