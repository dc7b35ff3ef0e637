import ProctorEngine.Orchestration.DispatcherStart
import ProctorEngine.Orchestration.IdentityOverrides
import ProctorEngine.Orchestration.Pipeline

/-!
# The end of a handshake

`websocket_endpoint` from the session lookup to its message loop, with everything that can end
it: a close with a code, an exception nothing catches, or a connection that is served. Without an
identity backend a session is meant to be admitted under a valid override and blocked without
one.

Three things come in between. `scalar_one_or_none` raises where two overrides are valid;
`dispatcher.start` raises wherever there is one; and the block inserts a termination record,
which a session that has one refuses. **So only a session that is to be blocked, and has no record
yet, ends as it should** (`endsAsDecided_iff`).
-/

set_option autoImplicit false

namespace ProctorEngine

/-! ## 1. The handshake

Up to where the connection is served or refused. The dispatcher is started in the handshake, so what
its start raises belongs to it. -/

/-- Why `FaceRecognitionBackend()` could not be constructed. The handler catches the first. -/
inductive BackendFailure where
  | importError
  | other
deriving DecidableEq, Repr

/-- An exception that leaves the handler. -/
inductive HandshakeError where
  | backend
  | multipleResultsFound
  | integrity
  | start (error : StartError)
deriving DecidableEq, Repr

inductive HandshakeEnd where
  | closed (code : Nat)
  | raised (error : HandshakeError)
  /-- The threads run and the message loop begins. -/
  | serving
deriving DecidableEq, Repr

structure Handshake where
  db : Database
  ending : HandshakeEnd

/-- `WS_CLOSE_SESSION_INVALID`. -/
def wsCloseSessionInvalid : Nat := 4003

/-- `WS_CLOSE_IDENTITY_BACKEND_UNAVAILABLE`. -/
def wsCloseIdentityBackendUnavailable : Nat := 4008

/-- `WS_CLOSE_CONSENT_REQUIRED`. -/
def wsCloseConsentRequired : Nat := 4009

def ConnectRejection.ending : ConnectRejection → HandshakeEnd
  | .sessionInvalid => .closed wsCloseSessionInvalid
  | .consentRequired => .closed wsCloseConsentRequired
  | .multipleResultsFound => .raised .multipleResultsFound

/-- The configuration the endpoint gives the dispatcher. -/
def dispatcherConfig (examSession : ExamSession) (identityBackendUnavailable : Bool) :
    FrameDispatcherConfig where
  policySnapshot := endpointSnapshot
  context := endpointContext examSession
  identityBackendUnavailable := identityBackendUnavailable

/-- From the decision on. `recordId` and `telemetryEventId` are the keys `uuid4` draws. A commit the
    database refuses leaves the handler as an exception, before any close; a start that raises does
    so after the session became active. -/
def finishAdmission (db : Database) (examSession : ExamSession) (admission : Admission)
    (recordId telemetryEventId : UUID) : Handshake :=
  match commitAdmission db examSession recordId admission with
  | none => ⟨db, .raised .integrity⟩
  | some db' =>
    if admission = .block then ⟨db', .closed wsCloseIdentityBackendUnavailable⟩
    else
      let config := dispatcherConfig examSession (admission = .proceedUnderOverride)
      match ((DispatcherInstance.new config false).start [] telemetryEventId).2 with
      | some error => ⟨db', .raised (.start error)⟩
      | none => ⟨db', .serving⟩

/-- The handshake of a learner whose token names session `sid`. `backend` is how the identity
    backend failed, if it did. -/
def handshake (db : Database) (sid : UUID) (backend : Option BackendFailure) (now : DateTime)
    (recordId telemetryEventId : UUID) : Handshake :=
  -- the session and its consent are looked at before the backend is constructed
  match readAdmission db sid (backend ≠ some .importError) now with
  | .error rejection => ⟨db, rejection.ending⟩
  | .ok (examSession, admission) =>
    if backend = some .other then ⟨db, .raised .backend⟩
    else finishAdmission db examSession admission recordId telemetryEventId

/-! ## 2. What is to come of it

What is promised of a connectable session without a backend: service under an override, a block
without one. -/

/-- The session may connect and has given consent. -/
def Connectable (db : Database) (sid : UUID) : Prop :=
  ∃ s, db.getExamSession sid = some s ∧ (s.status = .pending ∨ s.status = .active) ∧
    s.consentRecordedAt ≠ none

instance {db : Database} {sid : UUID} : Decidable (Connectable db sid) :=
  decidable_of_iff ((db.getExamSession sid).any fun s =>
    (s.status = .pending ∨ s.status = .active) ∧ s.consentRecordedAt ≠ none) <| by
      simp [Connectable, Option.any_eq_true]

/-- An approved override of the session is valid now. -/
def Overridden (db : Database) (sid : UUID) (now : DateTime) : Prop :=
  ∃ o ∈ db.identityOverrides, o.examSessionId = sid ∧ o.status = .approved ∧
    o.validFrom ≤ now ∧ now ≤ o.validUntil

/-- The session is active, its identity unavailable, and the connection is served. -/
def Handshake.AdmittedUnderOverride (sid : UUID) (h : Handshake) : Prop :=
  h.ending = .serving ∧ ∃ s, h.db.getExamSession sid = some s ∧ s.status = .active ∧
    s.identityVerificationStatus = .unavailable

/-- The session is terminated with one record, and the socket closed. -/
def Handshake.Blocked (sid : UUID) (h : Handshake) : Prop :=
  h.ending = .closed wsCloseIdentityBackendUnavailable ∧
    (∃ s, h.db.getExamSession sid = some s ∧ s.status = .terminated) ∧
    ∃ r ∈ h.db.terminationRecords, r.examSessionId = sid ∧
      ∀ x ∈ h.db.terminationRecords, x.examSessionId = sid → x = r

/-- An override admits, and nothing else does. -/
def Handshake.EndsAsDecided (sid : UUID) (overridden : Prop) (h : Handshake) : Prop :=
  (overridden → h.AdmittedUnderOverride sid) ∧ (¬ overridden → h.Blocked sid)

/-! ## 3. How it ends

The promise against the four ways a handshake ends. -/

section
variable {db : Database} {sid : UUID} {now : DateTime} {examSession : ExamSession}
  {admission : Admission} {recordId telemetryEventId : UUID} {failure : BackendFailure}

theorem validOverrides_eq_nil_iff : validOverrides db sid now = [] ↔ ¬ Overridden db sid now := by
  simp only [validOverrides, List.filter_eq_nil_iff, decide_eq_true_eq, Overridden, not_exists,
    not_and, Table.mem_rows]

/-- Whatever becomes of the row, under an override the dispatcher's start raises. -/
theorem finishAdmission_underOverride :
    finishAdmission db examSession .proceedUnderOverride recordId telemetryEventId =
      ⟨activateSession db examSession (some .unavailable),
        .raised (.start (.attributeError "_decision_queue"))⟩ := by
  simp [finishAdmission, commitAdmission, DispatcherInstance.start_new, dispatcherConfig]

theorem finishAdmission_proceed :
    finishAdmission db examSession .proceed recordId telemetryEventId =
      ⟨activateSession db examSession none, .serving⟩ := by
  simp [finishAdmission, commitAdmission, DispatcherInstance.start_new, dispatcherConfig]

/-- A block succeeds exactly where its record can be inserted. -/
theorem blocked_finishAdmission_iff (hs : db.getExamSession sid = some examSession) :
    (finishAdmission db examSession .block recordId telemetryEventId).Blocked sid ↔
      ∀ x ∈ db.terminationRecords, x.id ≠ recordId ∧ x.examSessionId ≠ sid := by
  have hid := Database.getExamSession_id hs
  have hinsertable : RecordInsertable db (blockRecord examSession recordId) ↔
      ∀ x ∈ db.terminationRecords, x.id ≠ recordId ∧ x.examSessionId ≠ sid := by
    constructor
    · intro h x hx
      have hclash := h.fresh x hx
      simpa [TerminationRecord.Clash, blockRecord, hid] using hclash
    · intro h
      refine ⟨by simp [blockRecord, hid, hs], rfl, by simp [blockRecord], ?_⟩
      intro x hx
      simpa [TerminationRecord.Clash, blockRecord, hid] using h x hx
  rw [← hinsertable, ← blockSession_isSome_iff]
  cases hblock : blockSession db examSession recordId with
  -- The commit is refused, and the handshake ends without the record it promises.
  | none =>
    refine iff_of_false ?_ (by simp)
    intro h
    simp [finishAdmission, commitAdmission, hblock, Handshake.Blocked] at h
  | some db' =>
    refine iff_of_true ?_ rfl
    have hrecord : (blockRecord examSession recordId).examSessionId = sid := hid
    have hfinish : finishAdmission db examSession .block recordId telemetryEventId =
        ⟨db', .closed wsCloseIdentityBackendUnavailable⟩ := by
      simp [finishAdmission, commitAdmission, hblock]
    rw [hfinish]
    refine ⟨rfl, ⟨{ examSession with status := .terminated }, ?_, rfl⟩,
      blockRecord examSession recordId, (mem_blockSession hblock).mpr (.inr rfl), hrecord, ?_⟩
    · show db'.getExamSession sid = _
      rw [blockSession_getExamSession hblock, if_pos hid.symm, hs]
      rfl
    -- the record is the only one of the session, since none was there before
    · intro x hx hsid
      rcases (mem_blockSession hblock).mp hx with hold | rfl
      · have hfree := hinsertable.mp (blockSession_isSome_iff.mp (by simp [hblock]))
        exact absurd hsid (hfree x hold).2
      · rfl

/-- A backend that fails with anything but an `ImportError` is not handled. -/
theorem handshake_other (h : Connectable db sid) :
    handshake db sid (some .other) now recordId telemetryEventId = ⟨db, .raised .backend⟩ := by
  obtain ⟨s, hs, hstatus, hconsent⟩ := h
  have hlookup : lookupSession db sid = some s := lookupSession_eq_some_iff.mpr ⟨hs, hstatus⟩
  simp [handshake, readAdmission, hlookup, hconsent]

/-- With an identity backend every connectable session becomes active and is served. -/
theorem handshake_available (h : Connectable db sid) (recordId telemetryEventId : UUID) :
    (handshake db sid none now recordId telemetryEventId).ending = .serving ∧
      ∃ s, (handshake db sid none now recordId telemetryEventId).db.getExamSession sid = some s ∧
        s.status = .active := by
  obtain ⟨s, hs, hstatus, hconsent⟩ := h
  have hlookup : lookupSession db sid = some s := lookupSession_eq_some_iff.mpr ⟨hs, hstatus⟩
  have hserved : handshake db sid none now recordId telemetryEventId =
      ⟨activateSession db s none, .serving⟩ := by
    simp [handshake, readAdmission, hlookup, hconsent, finishAdmission_proceed]
  rw [hserved]
  refine ⟨rfl, ?_⟩
  show ∃ row, (activateSession db s none).getExamSession sid = some row ∧ row.status = .active
  rcases hstatus with hpending | hactive
  · rw [activateSession_getExamSession hpending, if_pos (Database.getExamSession_id hs).symm, hs]
    exact ⟨_, rfl, rfl⟩
  · rw [activateSession_eq_self (by simp [hactive])]
    exact ⟨s, hs, hactive⟩

/-- Without an override the handshake of a connectable session is its block. -/
theorem handshake_not_overridden (h : Connectable db sid) (hnone : ¬ Overridden db sid now)
    (recordId telemetryEventId : UUID) :
    ∃ s, db.getExamSession sid = some s ∧
      handshake db sid (some .importError) now recordId telemetryEventId =
        finishAdmission db s .block recordId telemetryEventId := by
  obtain ⟨s, hs, hstatus, hconsent⟩ := h
  have hlookup : lookupSession db sid = some s := lookupSession_eq_some_iff.mpr ⟨hs, hstatus⟩
  have hvalid := validOverrides_eq_nil_iff.mpr hnone
  exact ⟨s, hs, by simp [handshake, readAdmission, hlookup, hconsent, hvalid]⟩

/-- **With an override it raises**: with one in the dispatcher's start, with more in the query. -/
theorem handshake_overridden (h : Connectable db sid) (hover : Overridden db sid now)
    (recordId telemetryEventId : UUID) :
    ∃ db' error, handshake db sid (some .importError) now recordId telemetryEventId =
      ⟨db', .raised error⟩ := by
  obtain ⟨s, hs, hstatus, hconsent⟩ := h
  have hlookup : lookupSession db sid = some s := lookupSession_eq_some_iff.mpr ⟨hs, hstatus⟩
  match hvalid : validOverrides db sid now with
  | [] => exact absurd hover (validOverrides_eq_nil_iff.mp hvalid)
  | [o] =>
    refine ⟨activateSession db s (some .unavailable),
      .start (.attributeError "_decision_queue"), ?_⟩
    simp [handshake, readAdmission, hlookup, hconsent, hvalid, finishAdmission_underOverride]
  | o :: o' :: rest =>
    refine ⟨db, .multipleResultsFound, ?_⟩
    simp [handshake, readAdmission, hlookup, hconsent, hvalid, ConnectRejection.ending]

theorem not_endsAsDecided_of_raised {hs : Handshake} {overridden : Prop} {error : HandshakeError}
    (hraised : hs.ending = .raised error) : ¬ hs.EndsAsDecided sid overridden := by
  intro h
  by_cases hover : overridden
  · exact absurd (hraised.symm.trans (h.1 hover).1) (by simp)
  · exact absurd (hraised.symm.trans (h.2 hover).1) (by simp)

/-- The pipeline's handshake leaves the same database. -/
theorem connect_db (w : System) (claims : SessionClaims) (backendAvailable : Bool) :
    (w.connect claims backendAvailable now recordId).shared.db =
      (handshake w.shared.db claims.sid (if backendAvailable then none else some .importError)
        now recordId telemetryEventId).db := by
  have hread : decide ((if backendAvailable then none else some BackendFailure.importError) ≠
      some .importError) = backendAvailable := by
    cases backendAvailable <;> rfl
  have hother : (if backendAvailable then none else some BackendFailure.importError) ≠
      some .other := by
    cases backendAvailable <;> simp
  simp only [System.connect, handshake, hread, hother, if_false]
  cases readAdmission w.shared.db claims.sid backendAvailable now with
  | error rejection => rfl
  | ok r =>
    obtain ⟨s, admission⟩ := r
    simp only [finishAdmission]
    cases commitAdmission w.shared.db s recordId admission with
    | none => rfl
    | some db' =>
      by_cases hblock : admission = .block
      · simp [hblock]
      · simp only [hblock, if_false]
        split <;> rfl

/-- A connection of the pipeline is crashed from the start exactly where the start raises. -/
theorem start_crashed_iff (claims : SessionClaims) (underOverride : Bool) :
    (Connection.start claims examSession underOverride).handler = .crashed ↔
      ((DispatcherInstance.new (dispatcherConfig examSession underOverride) false).start []
        telemetryEventId).2.isSome := by
  rw [DispatcherInstance.start_new]
  cases underOverride with
  | false => simp [Connection.start, dispatcherConfig]
  | true => simp [Connection.start, dispatcherConfig]

end

/-- **Without an identity backend a handshake ends as decided exactly when no override is valid, the
    session has no termination record, and the backend failed with an `ImportError`.** Over every
    connectable session, every set of overrides and every set of records. A block that meets a
    record is refused by the database, an override leads into a start that fails, and only an
    `ImportError` is taken for a missing backend. -/
theorem endsAsDecided_iff (db : Database) (sid : UUID) (failure : BackendFailure) (now : DateTime)
    (recordId telemetryEventId : UUID) (hconnectable : Connectable db sid) :
    (handshake db sid (some failure) now recordId telemetryEventId).EndsAsDecided sid
        (Overridden db sid now) ↔
      failure = .importError ∧ ¬ Overridden db sid now ∧
        ∀ x ∈ db.terminationRecords, x.id ≠ recordId ∧ x.examSessionId ≠ sid := by
  cases failure with
  | other =>
    rw [handshake_other hconnectable]
    exact iff_of_false (not_endsAsDecided_of_raised rfl) (by simp)
  | importError =>
    by_cases hover : Overridden db sid now
    · obtain ⟨db', error, hraised⟩ :=
        handshake_overridden hconnectable hover recordId telemetryEventId
      rw [hraised]
      exact iff_of_false (not_endsAsDecided_of_raised rfl) (by simp [hover])
    · obtain ⟨s, hs, hblock⟩ :=
        handshake_not_overridden hconnectable hover recordId telemetryEventId
      rw [hblock]
      simp only [Handshake.EndsAsDecided, hover, false_implies, true_and, not_false_eq_true,
        true_implies]
      exact blocked_finishAdmission_iff hs

/-! ## 4. Handshakes of sessions the program reaches

Witnesses of the condition, each a database that requests and decisions lead to. -/

/-- No override, no record: the session is blocked. -/
theorem endsAsDecided_activeDatabase :
    (handshake activeDatabase 1 (some .importError) 5 40 50).EndsAsDecided 1
      (Overridden activeDatabase 1 5) := by
  have hconnectable : Connectable activeDatabase 1 := by decide +kernel
  apply (endsAsDecided_iff activeDatabase 1 .importError 5 40 50 hconnectable).mpr
  refine ⟨rfl, ?_, ?_⟩
  · rintro ⟨o, ho, -⟩
    exact absurd ho Table.not_mem_empty
  · intro x hx
    exact absurd hx Table.not_mem_empty

/-- An override of session 3 that is requested and approved. -/
def approvedOverride (id : UUID) : List Overrides.Step :=
  [.create ⟨3, "maths", "no camera library", 0, 10, by decide, by decide⟩ Overrides.requester id,
    .approve id Overrides.otherHead 5, .commit 0]

def oneOverride : Database :=
  (Run.final Overrides.step (Overrides.start Overrides.overrideDatabase) (approvedOverride 6)).db

def twoOverrides : Database :=
  (Run.final Overrides.step (Overrides.start Overrides.overrideDatabase)
    (approvedOverride 6 ++ approvedOverride 7)).db

/-- A session the worker has terminated; its status is still `ACTIVE`. -/
def killedSession : Database :=
  (persistOne activeDatabase 1 (terminatingItem "second_person" 10) ⟨20, 30, true⟩).db

/-- One override, two of them, and a session with a record. -/
theorem handshakes_not_endAsDecided :
    (Connectable oneOverride 3 ∧
      ¬ (handshake oneOverride 3 (some .importError) 5 40 50).EndsAsDecided 3
        (Overridden oneOverride 3 5)) ∧
      (Connectable twoOverrides 3 ∧ ¬ (handshake twoOverrides 3 (some .importError) 5 40
        50).EndsAsDecided 3 (Overridden twoOverrides 3 5)) ∧
      (Connectable killedSession 1 ∧ ¬ (handshake killedSession 1 (some .importError) 5 40
        50).EndsAsDecided 1 (Overridden killedSession 1 5)) := by
  have hone : (handshake oneOverride 3 (some .importError) 5 40 50).ending =
      .raised (.start (.attributeError "_decision_queue")) := by decide +kernel
  have htwo : (handshake twoOverrides 3 (some .importError) 5 40 50).ending =
      .raised .multipleResultsFound := by decide +kernel
  have hkilled : (handshake killedSession 1 (some .importError) 5 40 50).ending =
      .raised .integrity := by decide +kernel
  exact ⟨⟨by decide +kernel, not_endsAsDecided_of_raised hone⟩,
    ⟨by decide +kernel, not_endsAsDecided_of_raised htwo⟩,
    ⟨by decide +kernel, not_endsAsDecided_of_raised hkilled⟩⟩

end ProctorEngine
