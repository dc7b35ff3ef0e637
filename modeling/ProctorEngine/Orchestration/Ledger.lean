import ProctorEngine.Lib.Ledger
import ProctorEngine.Orchestration.Consent
import ProctorEngine.Orchestration.EvidenceLifetime
import ProctorEngine.Orchestration.ReadCommitted

/-!
# The ledger

Everything that writes to the database, in one system: launches, the threads of the connections, the
orchestration router, transactions that commit what they decided on rows read long before, and the
retention worker. Through all of it **no row of the record is lost and no row is rewritten beyond
the columns that are there to change**: flags and the telemetry under them, links, termination
records, reviews, exemptions, role audits and participants are append-only; a session keeps its
launch, a policy version its rules, an override request its request and an administrator their
identity. The one table that loses rows is that of the evidence artifacts, to the retention worker,
and a row it loses had expired.

`Table.Keeps` is the relation between a table and a later one, for a map that forgets the columns
that may change: every row of the first has a row in the second with the same image. It is reflexive
and transitive, and so is `Database.Keeps`, the same for all the tables. The rest is a lemma for
each writer, and one induction.

A termination record is among the append-only rows although the worker has a branch that updates
one: the branch raises, since a listener forbids the update, and the transaction is rolled back.
-/

set_option autoImplicit false

namespace ProctorEngine

open Lti

/-! ## 1. What is fixed of a row

For each table with columns that change, a row with those columns overwritten by a constant. Two
rows with the same fixed part differ in nothing else. -/

/-- The columns of a session that stand from its launch. -/
def ExamSession.fixed (s : ExamSession) : ExamSession :=
  { s with
    status := .pending
    accumulatedMediumScore := 0
    identityVerificationStatus := .pendingCheck
    endedAt := none }

/-- A policy version but for its end. -/
def PolicyConfig.fixed (p : PolicyConfig) : PolicyConfig := { p with retiredAt := none }

/-- An override request but for the decision. -/
def IdentityVerificationOverrideRequest.fixed (r : IdentityVerificationOverrideRequest) :
    IdentityVerificationOverrideRequest :=
  { r with
    status := .pending
    approvedByAdminId := none
    decidedAt := none }

/-- An administrator but for the role. -/
def AdminUser.fixed (a : AdminUser) : AdminUser := { a with role := .instructor }

/-- The rows of the record are all still there, but for the artifacts that may be lost. -/
structure Database.Keeps (Lost : EvidenceArtifact → Prop) (db db' : Database) : Prop where
  policyConfigs : db.policyConfigs.Keeps PolicyConfig.fixed db'.policyConfigs
  examSessions : db.examSessions.Keeps ExamSession.fixed db'.examSessions
  accommodationExemptions : db.accommodationExemptions.Keeps id db'.accommodationExemptions
  telemetryEvents : db.telemetryEvents.Keeps id db'.telemetryEvents
  flags : db.flags.Keeps id db'.flags
  flagTelemetryEvents : db.flagTelemetryEvents.Keeps id db'.flagTelemetryEvents
  evidenceArtifacts : ∀ a ∈ db.evidenceArtifacts, a ∈ db'.evidenceArtifacts ∨ Lost a
  terminationRecords : db.terminationRecords.Keeps id db'.terminationRecords
  proctorReviews : db.proctorReviews.Keeps id db'.proctorReviews
  identityOverrides :
    db.identityOverrides.Keeps IdentityVerificationOverrideRequest.fixed db'.identityOverrides
  participants : db.participants.Keeps id db'.participants
  adminUsers : db.adminUsers.Keeps AdminUser.fixed db'.adminUsers
  adminRoleAudits : db.adminRoleAudits.Keeps id db'.adminRoleAudits

namespace Database

variable {Lost Lost' : EvidenceArtifact → Prop} {db db' db'' : Database}

theorem Keeps.refl (db : Database) : db.Keeps Lost db where
  policyConfigs := .refl _
  examSessions := .refl _
  accommodationExemptions := .refl _
  telemetryEvents := .refl _
  flags := .refl _
  flagTelemetryEvents := .refl _
  evidenceArtifacts _ ha := .inl ha
  terminationRecords := .refl _
  proctorReviews := .refl _
  identityOverrides := .refl _
  participants := .refl _
  adminUsers := .refl _
  adminRoleAudits := .refl _

theorem Keeps.trans (h : db.Keeps Lost db') (h' : db'.Keeps Lost db'') : db.Keeps Lost db'' where
  policyConfigs := h.policyConfigs.trans h'.policyConfigs
  examSessions := h.examSessions.trans h'.examSessions
  accommodationExemptions := h.accommodationExemptions.trans h'.accommodationExemptions
  telemetryEvents := h.telemetryEvents.trans h'.telemetryEvents
  flags := h.flags.trans h'.flags
  flagTelemetryEvents := h.flagTelemetryEvents.trans h'.flagTelemetryEvents
  evidenceArtifacts a ha := (h.evidenceArtifacts a ha).elim (h'.evidenceArtifacts a) .inr
  terminationRecords := h.terminationRecords.trans h'.terminationRecords
  proctorReviews := h.proctorReviews.trans h'.proctorReviews
  identityOverrides := h.identityOverrides.trans h'.identityOverrides
  participants := h.participants.trans h'.participants
  adminUsers := h.adminUsers.trans h'.adminUsers
  adminRoleAudits := h.adminRoleAudits.trans h'.adminRoleAudits

theorem Keeps.mono (h : db.Keeps Lost db') (hlost : ∀ a, Lost a → Lost' a) :
    db.Keeps Lost' db' :=
  { h with evidenceArtifacts := fun a ha => (h.evidenceArtifacts a ha).imp id (hlost a) }

/-- A session is never deleted. -/
theorem Keeps.getExamSession {sid : UUID} (h : db.Keeps Lost db')
    (hs : (db.getExamSession sid).isSome) : (db'.getExamSession sid).isSome := by
  obtain ⟨s, hs⟩ := Option.isSome_iff_exists.mp hs
  obtain ⟨s', hs', hfixed⟩ := h.examSessions s (Table.mem_of_find?_eq_some hs)
  have hid : s.id = sid := Database.getExamSession_id hs
  have hid' : s'.fixed.id = s.fixed.id := congrArg ExamSession.id hfixed
  rw [Option.isSome_iff_ne_none]
  intro hnone
  have hother := Table.find?_eq_none_iff.mp hnone s' hs'
  exact hother (decide_eq_true (Eq.trans hid' hid))

end Database

/-! ## 2. What each writer keeps

In the order of the packages. `Lost` is a parameter of the relation and only the retention worker's
lemma says something about it, so the lemmas of the others hold for whatever may be lost. -/

section
variable {Lost : EvidenceArtifact → Prop} {db db' : Database} {sid : UUID}
  {examSession : ExamSession} {recordId : UUID}

/-- An update of a session outside its fixed part. -/
theorem keeps_updateExamSession {f : ExamSession → ExamSession} {hf : ∀ s, (f s).id = s.id}
    (hfixed : ∀ s, (f s).fixed = s.fixed) : db.Keeps Lost (db.updateExamSession sid f hf) := by
  exact { Database.Keeps.refl db with
    examSessions := Table.keeps_of_rows_where (p := fun s => s.id = sid) (f := f)
      (by simp [Database.updateExamSession, Table.update]) hfixed }

theorem keeps_insertTerminationRecord {r : TerminationRecord}
    (h : db.insertTerminationRecord r = some db') : db.Keeps Lost db' := by
  obtain ⟨-, records, hinsert, rfl⟩ := insertTerminationRecord_eq_some_iff.mp h
  exact { Database.Keeps.refl db with terminationRecords := Table.keeps_insert? hinsert }

/-! ### Launches

A launch may add a participant, a session and an administrator, and may raise the role of one. -/

section
variable {claims : LtiIdToken} {role : AppRole} {id : UUID}

theorem keeps_upsertParticipant {participant : Participant}
    (h : upsertParticipant db claims id = some (participant, db')) : db.Keeps Lost db' := by
  unfold upsertParticipant at h
  split at h
  · obtain ⟨-, rfl⟩ := Prod.mk.inj (Option.some.inj h)
    exact .refl db
  · obtain ⟨participants, hinsert, heq⟩ := Option.map_eq_some_iff.mp h
    obtain ⟨-, rfl⟩ := Prod.mk.inj heq
    exact { Database.Keeps.refl db with participants := Table.keeps_insert? hinsert }

theorem keeps_upsertAdminUser (h : upsertAdminUser db claims role id = some db') :
    db.Keeps Lost db' := by
  obtain ⟨adminUsers, rfl, hupsert⟩ := upsertAdminUser_cases h
  refine { Database.Keeps.refl db with adminUsers := ?_ }
  cases hupsert with
  | kept => exact .refl _
  | raised a role _ _ _ => exact Table.keeps_of_rows_where rfl fun _ => rfl
  | joined a users _ inserted => exact Table.keeps_insert? inserted

theorem keeps_launchCommitted {ids : LaunchIds} {consentAt : DateTime} :
    db.Keeps Lost (launchCommitted db claims role ids consentAt) := by
  unfold launchCommitted
  cases hlaunch : processLaunch db claims role ids consentAt with
  | error e => exact .refl db
  | ok result =>
    unfold processLaunch at hlaunch
    split at hlaunch
    · cases hlaunch
    · split at hlaunch
      · cases hlaunch
      · split at hlaunch
        · cases hlaunch
        · rename_i participant db₁ hparticipant
          dsimp only at hlaunch
          split at hlaunch
          · cases hlaunch
          · rename_i examSessions hinsert
            split at hlaunch
            · cases hlaunch
            · rename_i db₂ hadmin
              obtain rfl := Except.ok.inj hlaunch
              have hsession : db₁.Keeps Lost { db₁ with examSessions } :=
                { Database.Keeps.refl db₁ with examSessions := Table.keeps_insert? hinsert }
              exact (keeps_upsertParticipant hparticipant).trans
                (hsession.trans (keeps_upsertAdminUser hadmin))

end

/-! ### Transactions on a session

All of them write the status, which is no fixed column, and one of them a record beside it. -/

theorem keeps_commitAdmission {admission : Admission}
    (h : commitAdmission db examSession recordId admission = some db') : db.Keeps Lost db' := by
  have hactivate : ∀ status, db.Keeps Lost (activateSession db examSession status) := by
    intro status
    unfold activateSession
    split
    · exact keeps_updateExamSession fun _ => rfl
    · exact .refl db
  cases admission with
  | proceed => exact Option.some.inj h ▸ hactivate none
  | proceedUnderOverride => exact Option.some.inj h ▸ hactivate (some .unavailable)
  | block =>
    have hblocked : db.Keeps Lost (db.updateExamSession examSession.id
        (fun s => { s with status := .terminated }) fun _ => rfl) :=
      keeps_updateExamSession fun _ => rfl
    exact hblocked.trans (keeps_insertTerminationRecord h)

theorem keeps_commitTerminate {request : TerminateRequest} {now : DateTime}
    (h : commitTerminate db examSession request now recordId = some db') : db.Keeps Lost db' := by
  have hended : db.Keeps Lost (db.updateExamSession examSession.id
      (fun s => { s with status := .terminated, endedAt := some now }) fun _ => rfl) :=
    keeps_updateExamSession fun _ => rfl
  exact hended.trans (keeps_insertTerminationRecord (commitTerminate_eq_some h))

theorem keeps_commitReview {review : ProctorReview}
    (h : commitReview db examSession review = some db') : db.Keeps Lost db' := by
  obtain ⟨t, hinsert, ⟨-, rfl⟩ | ⟨target, -, rfl⟩⟩ := commitReview_cases h
  · exact { Database.Keeps.refl db with proctorReviews := Table.keeps_insert? hinsert }
  · have hreviewed : db.Keeps Lost { db with proctorReviews := t } :=
      { Database.Keeps.refl db with proctorReviews := Table.keeps_insert? hinsert }
    exact hreviewed.trans (keeps_updateExamSession fun _ => rfl)

theorem keeps_txn {t : ReadCommitted.Txn} (h : t.commit db = some db') : db.Keeps Lost db' := by
  unfold ReadCommitted.Txn.commit at h
  split at h
  · exact keeps_commitAdmission h
  · exact keeps_commitTerminate h
  · exact keeps_commitReview h

/-! ### Policies and overrides

A version is ended and an override decided on the row, in columns that are not fixed. -/

theorem keeps_commitPolicyVersion {row : PolicyConfig} {previous : Option UUID} {now : DateTime}
    (h : commitPolicyVersion db row previous now = some db') : db.Keeps Lost db' := by
  unfold commitPolicyVersion at h
  split at h
  · obtain ⟨t, hinsert, rfl⟩ := Option.map_eq_some_iff.mp h
    have hretired : ∀ p : PolicyConfig, (retire previous now p).fixed = p.fixed := by
      intro p
      unfold retire PolicyConfig.fixed
      split <;> rfl
    exact { Database.Keeps.refl db with
      policyConfigs := (Table.keeps_of_rows rfl hretired).trans (Table.keeps_insert? hinsert) }
  · cases h

theorem keeps_overrideCommit {d : OverrideDecision} (h : d.commit db = some db') :
    db.Keeps Lost db' := by
  unfold OverrideDecision.commit at h
  split at h
  · obtain rfl := Option.some.inj h
    exact { Database.Keeps.refl db with
      identityOverrides := Table.keeps_of_rows_where rfl fun _ => rfl }
  · cases h

/-! ### The worker

The transaction of a flag and the record of a kill-switch. Its update of an old record never
commits. -/

section
variable {item : PersistedFlag} {c : PersistChoices} {expungeRaises : Bool}

theorem keeps_insertTelemetryEvents {events : List DispatchedEvent}
    (h : insertTelemetryEvents db sid expungeRaises events = .ok db') : db.Keeps Lost db' := by
  induction events generalizing db with
  | nil => exact Except.ok.inj h ▸ .refl db
  | cons event events ih =>
    simp only [insertTelemetryEvents] at h
    cases hevent : insertTelemetryEvent db sid event expungeRaises with
    | error e =>
      rw [hevent] at h
      cases h
    | ok db₁ =>
      rw [hevent] at h
      refine Database.Keeps.trans ?_ (ih h)
      unfold insertTelemetryEvent at hevent
      split at hevent
      · cases hevent
      · split at hevent
        · rename_i t hinsert
          obtain rfl := Except.ok.inj hevent
          split at hinsert
          · exact { Database.Keeps.refl db with
              telemetryEvents := Table.keeps_insert? hinsert }
          · cases hinsert
        · split at hevent
          · cases hevent
          · exact Except.ok.inj hevent ▸ .refl db

theorem keeps_insertLinks {flagId : UUID} {position : Nat} {ids : List UUID}
    (h : db.insertLinks flagId position ids = some db') : db.Keeps Lost db' := by
  induction ids generalizing db position with
  | nil => exact Option.some.inj h ▸ .refl db
  | cons telemetryId ids ih =>
    simp only [Database.insertLinks] at h
    split at h
    · split at h
      · cases h
      · rename_i t hinsert
        have hlinked : db.Keeps Lost { db with flagTelemetryEvents := t } :=
          { Database.Keeps.refl db with flagTelemetryEvents := Table.keeps_insert? hinsert }
        exact hlinked.trans (ih h)
    · cases h

theorem keeps_writeScore {decision : FlagDecision}
    (h : writeScore db decision examSession = some db') : db.Keeps Lost db' := by
  unfold writeScore at h
  split at h
  · obtain ⟨score, -, rfl⟩ := Option.map_eq_some_iff.mp h
    exact keeps_updateExamSession fun _ => rfl
  · exact Option.some.inj h ▸ .refl db

theorem keeps_persistFlagDecision {decision : FlagDecision} {flagId : UUID} {flag : Flag}
    (h : persistFlagDecision db decision examSession flagId = .ok (db', flag)) :
    db.Keeps Lost db' := by
  obtain ⟨severity, db₁, db₂, -, -, hflag, hlinks, hscore⟩ := persistFlagDecision_eq_ok h
  obtain ⟨-, t, hinsert, rfl⟩ := insertFlag_eq_some_iff.mp hflag
  have hflagged : db.Keeps Lost { db with flags := t } :=
    { Database.Keeps.refl db with flags := Table.keeps_insert? hinsert }
  exact hflagged.trans ((keeps_insertLinks hlinks).trans (keeps_writeScore hscore))

/-- A decision may be for a session that was read earlier. -/
theorem keeps_persistLoaded : db.Keeps Lost (persistLoaded db examSession item c).db := by
  unfold persistLoaded
  cases htelemetry : insertTelemetryEvents db examSession.id c.expungeRaises
      item.contributingEvents with
  | error e => exact .refl db
  | ok db₁ =>
    dsimp only
    cases hflag : persistFlagDecision db₁ item.decision examSession c.flagId with
    | error e => exact .refl db
    | ok result =>
      have hflagged : db.Keeps Lost result.1 :=
        (keeps_insertTelemetryEvents htelemetry).trans (keeps_persistFlagDecision hflag)
      dsimp only
      split
      · cases hkill : handleKillSwitch result.1 examSession.id item.decision c with
        | error e => exact hflagged
        | ok db₃ =>
          exact hflagged.trans
            (keeps_insertTerminationRecord (handleKillSwitch_eq_ok_iff.mp hkill))
      · exact hflagged

end

/-! ### Administrators

The seven services behind the admin routes; what they read they may have read before. -/

section
variable {admin : AdminUser} {id : UUID} {now : DateTime}

theorem keeps_settle {ε : Type} {result : Except ε Database}
    (h : ∀ db', result = .ok db' → db.Keeps Lost db') : db.Keeps Lost (settle db result) := by
  cases result with
  | error e => exact .refl db
  | ok db' => exact h db' rfl

theorem keeps_createPolicyVersion {request : CreatePolicyConfigRequest}
    (h : createPolicyVersion db request admin now id = .ok db') : db.Keeps Lost db' := by
  unfold createPolicyVersion at h
  split at h
  · cases h
  · dsimp only at h
    split at h
    · cases h
    · split at h
      · cases h
      · rename_i hcommit
        exact Except.ok.inj h ▸ keeps_commitPolicyVersion hcommit

theorem keeps_createExemption {request : CreateExemptionRequest}
    (h : createExemption db request admin id = .ok db') : db.Keeps Lost db' := by
  unfold createExemption at h
  split at h
  · split at h
    · split at h
      · cases h
      · rename_i t hinsert
        obtain rfl := Except.ok.inj h
        exact { Database.Keeps.refl db with
          accommodationExemptions := Table.keeps_insert? hinsert }
    · cases h
  · cases h

theorem keeps_recordProctorReview {flagId : UUID} {decision : ReviewDecision}
    {notes : Option String}
    (h : recordProctorReview db flagId decision notes admin id = .ok db') : db.Keeps Lost db' := by
  unfold recordProctorReview at h
  split at h
  · cases h
  · split at h
    · cases h
    · rename_i hcommit
      exact Except.ok.inj h ▸ keeps_commitReview hcommit

theorem keeps_createIdentityOverrideRequest {request : CreateIdentityOverrideRequest}
    (h : createIdentityOverrideRequest db request admin id = .ok db') : db.Keeps Lost db' := by
  unfold createIdentityOverrideRequest at h
  split at h
  · cases h
  · split at h
    · split at h
      · split at h
        · cases h
        · rename_i t hinsert
          obtain rfl := Except.ok.inj h
          exact { Database.Keeps.refl db with
            identityOverrides := Table.keeps_insert? hinsert }
      · cases h
    · cases h

theorem keeps_decideNow {read : Except OverrideError OverrideDecision}
    (h : decideNow db read = .ok db') : db.Keeps Lost db' := by
  unfold decideNow at h
  split at h
  · cases h
  · split at h
    · cases h
    · rename_i hcommit
      exact Except.ok.inj h ▸ keeps_overrideCommit hcommit

theorem keeps_updateAdminUserRole {target : UUID} {role : AdminRole} {reason : Option String}
    (h : updateAdminUserRole db target role admin reason id = .ok db') : db.Keeps Lost db' := by
  unfold updateAdminUserRole at h
  split at h
  · cases h
  split at h
  · cases h
  split at h
  · cases h
  split at h
  · cases h
  · split at h
    · cases h
    · rename_i audits hinsert
      obtain rfl := Except.ok.inj h
      exact { Database.Keeps.refl db with
        adminUsers := Table.keeps_of_rows_where rfl fun _ => rfl
        adminRoleAudits := Table.keeps_insert? hinsert }

theorem keeps_runAdminOperation (operation : AdminOperation) :
    db.Keeps Lost (runAdminOperation db admin operation).1 := by
  cases operation with
  | createPolicy request now id =>
    rw [runAdminOperation, respond_fst]
    exact keeps_settle fun _ => keeps_createPolicyVersion
  | createExemption request id =>
    rw [runAdminOperation, respond_fst]
    exact keeps_settle fun _ => keeps_createExemption
  | review flagId request id =>
    rw [runAdminOperation, respond_fst]
    exact keeps_settle fun _ => keeps_recordProctorReview
  | createOverride request id =>
    rw [runAdminOperation, respond_fst]
    exact keeps_settle fun _ => keeps_createIdentityOverrideRequest
  | approveOverride overrideId now =>
    rw [runAdminOperation, respond_fst]
    exact keeps_settle fun _ => keeps_decideNow
  | rejectOverride overrideId now =>
    rw [runAdminOperation, respondNothing, respond_fst]
    exact keeps_settle fun _ => keeps_decideNow
  | updateRole adminUserId role reason auditId =>
    rw [runAdminOperation, respond_fst]
    exact keeps_settle fun _ => keeps_updateAdminUserRole

end

/-! ### Evidence

A seal adds a row. The retention worker is the only one who takes rows away. -/

section
variable {s : EvidenceState}

theorem keeps_insertArtifact {row : EvidenceArtifact} (h : db.insertArtifact row = some db') :
    db.Keeps Lost db' := by
  have hmem := fun a => EvidenceRuns.mem_insertArtifact (x := a) h
  obtain ⟨artifacts, rfl⟩ := CrossSessionLinks.insertArtifact_frame h
  have hsame : db.Keeps Lost db := .refl db
  exact { hsame with
    evidenceArtifacts := fun a ha => .inl ((hmem a).mpr (.inl ha)) }

theorem keeps_seal {sha256 : Blob → String} {r : EvidenceRuns.Sealing} :
    s.db.Keeps Lost (EvidenceRuns.step sha256 s r).db := by
  obtain hsame | ⟨row, hinsert⟩ := @sealed_cases sha256 s r
  · rw [hsame]
    exact .refl s.db
  · exact keeps_insertArtifact hinsert

/-- A retention run takes expired artifacts and nothing else. -/
theorem keeps_retain (s : EvidenceState) (now : DateTime) (batchSize : Nat)
    (faults : RetentionFaults) :
    s.db.Keeps (·.retentionExpiresAt < now)
      (EvidenceLifetime.retain s now batchSize faults).db := by
  obtain ⟨t, hframe⟩ :=
    (retentionInvariant_run s.db s.store now batchSize faults).committed_frame
  have hdb : (EvidenceLifetime.retain s now batchSize faults).db =
      { s.db with evidenceArtifacts := t } := hframe
  have hgone : ∀ a ∈ s.db.evidenceArtifacts,
      a ∈ (EvidenceLifetime.retain s now batchSize faults).db.evidenceArtifacts ∨
        a.retentionExpiresAt < now := by
    intro a ha
    by_cases hthere : a ∈ (EvidenceLifetime.retain s now batchSize faults).db.evidenceArtifacts
    · exact .inl hthere
    · exact .inr (went_of_gone ha hthere).1
  have hsame : s.db.Keeps (·.retentionExpiresAt < now) s.db := .refl s.db
  rw [hdb] at hgone ⊢
  exact { hsame with evidenceArtifacts := hgone }

end

end

/-! ## 3. The system

The engine of `Consent`, with the commits of overlapped transactions and the retention worker in
addition. A commit may come at any time and from any rows, whether or not a request could have read
them, which covers every overlap that the database allows. -/

/-- A transaction that is about to commit what it decided on rows it read at any time before. -/
inductive OverlappedCommit where
  | session (t : ReadCommitted.Txn)
  | policy (row : PolicyConfig) (previous : Option UUID) (now : DateTime)
  | override (d : OverrideDecision)

def OverlappedCommit.commit (db : Database) : OverlappedCommit → Option Database
  | .session t => t.commit db
  | .policy row previous now => commitPolicyVersion db row previous now
  | .override d => d.commit db

/-- What happens next, anywhere in the process or its scheduler. -/
inductive ServiceStep where
  | launch (claims : LtiIdToken) (role : AppRole) (ids : LaunchIds) (consentAt : DateTime)
  /-- A WebSocket connect, or a move of one of the threads of a connection. -/
  | pipeline (l : Step)
  /-- A request to the orchestration router, handled with nobody in between. -/
  | request (r : RouteRequest)
  | commit (c : OverlappedCommit)
  | retention (now : DateTime) (batchSize : Nat) (faults : RetentionFaults)

/-- The instants of the retention runs among the steps. -/
def retentionInstants (steps : List ServiceStep) : List DateTime :=
  steps.filterMap fun
    | .retention now _ _ => some now
    | _ => none

namespace Engine

variable (py : Pydantic) (deps : OrchestrationDeps)

def serve (e : Engine) : ServiceStep → Engine
  | .launch claims role ids consentAt =>
    e.withDb (launchCommitted e.system.shared.db claims role ids consentAt)
  | .pipeline l => { e with system := e.system.step py l }
  | .request r =>
    let s := deps.step ⟨e.system.shared.db, e.store⟩ r
    { e.withDb s.db with store := s.store }
  | .commit c => e.withDb ((c.commit e.system.shared.db).getD e.system.shared.db)
  | .retention now batchSize faults =>
    let s := EvidenceLifetime.retain ⟨e.system.shared.db, e.store⟩ now batchSize faults
    { e.withDb s.db with store := s.store }

/-- The database with every connection's view of it. -/
def db (e : Engine) : Database := e.system.shared.db

section
variable {py deps} {Lost : EvidenceArtifact → Prop} {e : Engine} {s : EvidenceState}

theorem keeps_pipeline (w : System) (l : Step) :
    w.shared.db.Keeps Lost (w.step py l).shared.db := by
  cases l with
  | connect claims backendAvailable now recordId =>
    simp only [System.step, System.connect]
    cases readAdmission w.shared.db claims.sid backendAvailable now with
    | error e => exact .refl _
    | ok answer =>
      obtain ⟨examSession, admission⟩ := answer
      dsimp only
      cases hcommit : commitAdmission w.shared.db examSession recordId admission with
      | none => exact .refl _
      | some db => exact keeps_commitAdmission hcommit
  | on i action =>
    simp only [System.step]
    cases w.connections[i]? with
    | none => exact .refl _
    | some conn =>
      cases action with
      | receive now frame =>
        simp only [Connection.act, Connection.receive]
        split <;> exact .refl _
      | drain =>
        simp only [Connection.act, Connection.drain]
        split <;> exact .refl _
      -- the only move of a thread that writes
      | commitFlag c =>
        simp only [Connection.act, Connection.commitFlag]
        split
        · exact keeps_persistLoaded
        · exact .refl _
      | disconnect => exact .refl _
      | joinWorker timedOut => exact .refl _
      | joinDispatcher timedOut => exact .refl _
      | checkDispatcherStop => exact .refl _
      | dispatchNext syntheticId answers => exact .refl _
      | putFlag => exact .refl _
      | checkWorkerStop => exact .refl _
      | getFlag => exact .refl _
      | loadSession => exact .refl _

theorem keeps_asAdmin {r : RouteRequest}
    {handler : AdminUser → EvidenceState × Except RouteError Unit}
    (h : ∀ admin, s.db.Keeps Lost (handler admin).1.db) :
    s.db.Keeps Lost (deps.asAdmin s r handler).1.db := by
  unfold OrchestrationDeps.asAdmin
  split
  · exact .refl _
  · exact h _

theorem keeps_request (r : RouteRequest) : s.db.Keeps Lost (deps.step s r).db := by
  obtain ⟨authorization, receivedAt, route⟩ := r
  unfold OrchestrationDeps.step OrchestrationDeps.handle
  cases route with
  | getSessionStatus sessionId =>
    dsimp only
    split <;> exact .refl _
  -- behind the key of the internal callers, not an administrator
  | postTerminate sessionId request now recordId =>
    dsimp only
    split
    · exact .refl _
    · split
      · exact .refl _
      · rename_i sid _
        show s.db.Keeps Lost (postTerminate s.db sid request now recordId).1
        unfold postTerminate
        split
        · exact .refl _
        · split
          · exact .refl _
          · rename_i hcommit
            exact keeps_commitTerminate hcommit
  | getPolicyConfig => exact keeps_asAdmin fun _ => .refl _
  | getExemptions => exact keeps_asAdmin fun _ => .refl _
  | getIdentityOverrides => exact keeps_asAdmin fun _ => .refl _
  | getFlags sessionId =>
    refine keeps_asAdmin fun _ => ?_
    split <;> exact .refl _
  | admin operation => exact keeps_asAdmin fun _ => keeps_runAdminOperation operation
  | postSealEvidence upload choices =>
    dsimp only
    split
    · exact .refl _
    · rename_i request _
      exact keeps_seal (r := (request, choices))

theorem keeps_overlappedCommit {db : Database} (c : OverlappedCommit) :
    db.Keeps Lost ((c.commit db).getD db) := by
  cases hcommit : c.commit db with
  | none => exact .refl db
  | some db' =>
    cases c with
    | session t => exact keeps_txn hcommit
    | policy row previous now => exact keeps_commitPolicyVersion hcommit
    | override d => exact keeps_overrideCommit hcommit

/-- **One step of anybody keeps the record.** -/
theorem keeps_serve (e : Engine) (l : ServiceStep) :
    e.db.Keeps (fun a => ∃ now ∈ retentionInstants [l], a.retentionExpiresAt < now)
      (e.serve py deps l).db := by
  cases l with
  | launch claims role ids consentAt => exact keeps_launchCommitted
  | pipeline l => exact keeps_pipeline e.system l
  | request r => exact keeps_request (s := ⟨e.system.shared.db, e.store⟩) r
  | commit c => exact keeps_overlappedCommit c
  | retention now batchSize faults =>
    have hrun := keeps_retain ⟨e.system.shared.db, e.store⟩ now batchSize faults
    exact hrun.mono fun a hexpired => ⟨now, List.mem_singleton.mpr rfl, hexpired⟩

/-- A run of anybody keeps the record. -/
theorem keeps_run (e : Engine) (steps : List ServiceStep) :
    e.db.Keeps (fun a => ∃ now ∈ retentionInstants steps, a.retentionExpiresAt < now)
      (Run.final (serve py deps) e steps).db := by
  induction steps generalizing e with
  | nil => exact .refl _
  | cons l steps ih =>
    have hinstants : retentionInstants (l :: steps) =
        retentionInstants [l] ++ retentionInstants steps :=
      @List.filterMap_append _ _ [l] steps _
    refine ((keeps_serve e l).mono ?_).trans ((ih (e.serve py deps l)).mono ?_)
    · rintro a ⟨now, hnow, hexpired⟩
      exact ⟨now, by rw [hinstants]; exact List.mem_append_left _ hnow, hexpired⟩
    · rintro a ⟨now, hnow, hexpired⟩
      exact ⟨now, by rw [hinstants]; exact List.mem_append_right _ hnow, hexpired⟩

end

/-- **The record is append-only**: between any two moments of any run of the service, whoever writes
    and however the writers overlap. Rows of the record are added and not changed, apart from the
    columns its table leaves open, and an artifact goes only in a retention run past its horizon. -/
theorem record_append_only (py : Pydantic) (deps : OrchestrationDeps) (e : Engine)
    (earlier later : List ServiceStep) :
    (Run.final (serve py deps) e earlier).db.Keeps
      (fun a => ∃ now ∈ retentionInstants later, a.retentionExpiresAt < now)
      (Run.final (serve py deps) e (earlier ++ later)).db := by
  rw [Run.final_append]
  exact keeps_run _ later

end Engine

end ProctorEngine
