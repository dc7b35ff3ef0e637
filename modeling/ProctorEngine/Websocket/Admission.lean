import ProctorEngine.Orchestration.StateMachine
import ProctorEngine.Orchestration.TerminationRecords

/-!
# Admission of a WebSocket connection

The part of `websocket_endpoint` between the validated token and the dispatcher: the session
lookup, the consent gate, the identity backend and its override, and the one write that
follows. The handshake reads the session once and later commits a status it derived from
that read, so each operation here comes in two halves: a read that returns the loaded row,
and a commit that takes the loaded row *and the database as it then is*.
-/

set_option autoImplicit false

namespace ProctorEngine

/-- `_CONNECTABLE_STATUSES`. -/
def connectableStatuses : List SessionStatus := [.pending, .active]

/-- `_lookup_session`: the session, if it exists and is connectable. -/
def lookupSession (db : Database) (sid : UUID) : Option ExamSession :=
  (db.getExamSession sid).filter fun s => s.status ∈ connectableStatuses

theorem lookupSession_eq_some_iff {db : Database} {sid : UUID} {s : ExamSession} :
    lookupSession db sid = some s ↔
      db.getExamSession sid = some s ∧ (s.status = .pending ∨ s.status = .active) := by
  simp [lookupSession, Option.filter_eq_some_iff, connectableStatuses]

/-- `_activate_session`: a `PENDING` session becomes `ACTIVE`. The commit also flushes the
    identity status the handshake assigned to the same row, if it assigned one; where the
    loaded row was not `PENDING` nothing is committed at all. -/
def activateSession (db : Database) (examSession : ExamSession)
    (identityStatus : Option IdentityVerificationStatus) : Database :=
  if examSession.status = .pending then
    db.updateExamSession examSession.id
      (fun s => { s with
        status := .active
        identityVerificationStatus := identityStatus.getD s.identityVerificationStatus })
      fun _ => rfl
  else db

/-- The record of an identity block: no flag triggered it. -/
def blockRecord (examSession : ExamSession) (recordId : UUID) : TerminationRecord where
  id := recordId
  examSessionId := examSession.id
  triggeringFlagId := none
  reason := identityBackendUnavailableNoOverride
  clientDeliveryStatus := .sent
  lmsDeliveryStatus := .sent

/-- Case 3 of the handshake: no backend and no override. The status and the record are one
    transaction; `none` is the `IntegrityError` of a session that has a record. -/
def blockSession (db : Database) (examSession : ExamSession) (recordId : UUID) :
    Option Database :=
  (db.updateExamSession examSession.id (fun s => { s with status := .terminated })
    fun _ => rfl).insertTerminationRecord (blockRecord examSession recordId)

/-- What the handshake decided to do with the session it read. -/
inductive Admission where
  | proceed
  | proceedUnderOverride
  | block
deriving DecidableEq, Repr

inductive ConnectRejection where
  /-- 4003: no such session, or not connectable. -/
  | sessionInvalid
  /-- 4009: no consent recorded. -/
  | consentRequired
  /-- `scalar_one_or_none` met a second valid override; the handler does not catch it. -/
  | multipleResultsFound
deriving DecidableEq, Repr

/-- The override query: approved requests of the session whose validity covers `now`. -/
def validOverrides (db : Database) (sid : UUID) (now : DateTime) :
    List IdentityVerificationOverrideRequest :=
  db.identityOverrides.rows.filter fun o =>
    o.examSessionId = sid ∧ o.status = .approved ∧ o.validFrom ≤ now ∧ now ≤ o.validUntil

/-- The reading half of the handshake. `backendAvailable` is whether
    `FaceRecognitionBackend()` could be constructed. -/
def readAdmission (db : Database) (sid : UUID) (backendAvailable : Bool) (now : DateTime) :
    Except ConnectRejection (ExamSession × Admission) :=
  match lookupSession db sid with
  | none => .error .sessionInvalid
  | some examSession =>
    if examSession.consentRecordedAt = none then .error .consentRequired
    else if backendAvailable then .ok (examSession, .proceed)
    else match validOverrides db sid now with
      | [] => .ok (examSession, .block)
      | [_] => .ok (examSession, .proceedUnderOverride)
      | _ :: _ :: _ => .error .multipleResultsFound

/-- The committing half. -/
def commitAdmission (db : Database) (examSession : ExamSession) (recordId : UUID) :
    Admission → Option Database
  | .proceed => some (activateSession db examSession none)
  | .proceedUnderOverride => some (activateSession db examSession (some .unavailable))
  | .block => blockSession db examSession recordId

theorem readAdmission_eq_ok {db : Database} {sid : UUID} {backendAvailable : Bool}
    {now : DateTime} {s : ExamSession} {adm : Admission}
    (h : readAdmission db sid backendAvailable now = .ok (s, adm)) :
    db.getExamSession sid = some s ∧ (s.status = .pending ∨ s.status = .active) := by
  cases hs' : lookupSession db sid with
  | none => simp [readAdmission, hs'] at h
  | some s' =>
    simp only [readAdmission, hs'] at h
    -- every branch that succeeds returns the row that was looked up
    have hs : s' = s := by
      split at h
      · exact absurd h (by simp)
      · split at h
        · exact (Prod.mk.inj (Except.ok.inj h)).1
        · split at h
          · exact (Prod.mk.inj (Except.ok.inj h)).1
          · exact (Prod.mk.inj (Except.ok.inj h)).1
          · exact absurd h (by simp)
    exact hs ▸ lookupSession_eq_some_iff.mp hs'

section
variable {db db' : Database} {examSession : ExamSession} {id recordId : UUID}
  {identityStatus : Option IdentityVerificationStatus}

theorem blockSession_isSome_iff :
    (blockSession db examSession recordId).isSome ↔
      RecordInsertable db (blockRecord examSession recordId) := by
  unfold blockSession
  rw [insertTerminationRecord_isSome_iff, recordInsertable_updateExamSession]

theorem blockSession_getExamSession (h : blockSession db examSession recordId = some db') :
    db'.getExamSession id =
      if id = examSession.id then
        (db.getExamSession id).map fun s => { s with status := .terminated }
      else db.getExamSession id := by
  rw [insertTerminationRecord_getExamSession h, Database.getExamSession_updateExamSession]

theorem mem_blockSession (h : blockSession db examSession recordId = some db')
    {x : TerminationRecord} :
    x ∈ db'.terminationRecords ↔
      x ∈ db.terminationRecords ∨ x = blockRecord examSession recordId :=
  mem_insertTerminationRecord h

/-- An activation writes the row only where the loaded status was `PENDING`. -/
theorem activateSession_eq_self (h : examSession.status ≠ .pending) :
    activateSession db examSession identityStatus = db := if_neg h

theorem activateSession_getExamSession (h : examSession.status = .pending) :
    (activateSession db examSession identityStatus).getExamSession id =
      if id = examSession.id then
        (db.getExamSession id).map fun s => { s with
          status := .active
          identityVerificationStatus := identityStatus.getD s.identityVerificationStatus }
      else db.getExamSession id := by
  rw [activateSession, if_pos h, Database.getExamSession_updateExamSession]

@[simp] theorem activateSession_terminationRecords :
    (activateSession db examSession identityStatus).terminationRecords =
      db.terminationRecords := by
  unfold activateSession
  split <;> rfl

theorem activateSession_scoreOf :
    (activateSession db examSession identityStatus).scoreOf id = db.scoreOf id := by
  by_cases h : examSession.status = .pending
  · rw [Database.scoreOf, activateSession_getExamSession h]
    split
    · simp [Database.scoreOf, Function.comp_def]
    · rfl
  · rw [activateSession_eq_self h]

@[simp] theorem activateSession_flags :
    (activateSession db examSession identityStatus).flags = db.flags := by
  unfold activateSession
  split <;> rfl

/-- What a handshake leaves alone: every score and every flag. -/
structure AdmissionFrame (db db' : Database) : Prop where
  scoreOf : ∀ id, db'.scoreOf id = db.scoreOf id
  flags : db'.flags = db.flags

theorem blockSession_frame (h : blockSession db examSession recordId = some db') :
    AdmissionFrame db db' := by
  refine ⟨?_, ?_⟩
  · intro id
    rw [Database.scoreOf, blockSession_getExamSession h]
    split
    · simp [Database.scoreOf, Function.comp_def]
    · rfl
  · obtain ⟨-, t, -, rfl⟩ := insertTerminationRecord_eq_some_iff.mp h
    rfl

theorem commitAdmission_frame {adm : Admission}
    (h : commitAdmission db examSession recordId adm = some db') : AdmissionFrame db db' := by
  cases adm with
  | proceed =>
    exact Option.some.inj h ▸ ⟨fun _ => activateSession_scoreOf, activateSession_flags⟩
  | proceedUnderOverride =>
    exact Option.some.inj h ▸ ⟨fun _ => activateSession_scoreOf, activateSession_flags⟩
  | block => exact blockSession_frame h

end

end ProctorEngine
