import ProctorEngine.Orchestration.EvidenceService
import ProctorEngine.Orchestration.FlagPersistenceWorker
import ProctorEngine.Orchestration.Terminate

/-!
# Links between sessions

A termination record names a flag and a session, and an artifact's storage key names a session and a
flag. The worker writes both halves from one decision. The two routes take them from the request,
where they arrive independently, and check that each exists: the terminate route that the flag is
there and the session is there, the evidence route that the flag is there and nothing about the
session. **A link is right exactly when the caller's pair was.**

Both routes refuse a request for a number of reasons that have nothing to do with the pair, and a
request that is refused for one of them harms nobody, however wrong its pair is. `Terminates` and
`Files` are the conditions under which everything but the pair is in order. They look at the state
before the request only, so the condition of the equivalence does.

A link that is right stays right, because a flag keeps its session for good and an id is not given
out twice: the flags only grow.
-/

set_option autoImplicit false

namespace ProctorEngine
namespace CrossSessionLinks

variable (sha256 : Blob → String)

/-! ## 1. The requests and the law

One request at a time. What is said of a state is said of all its records and artifacts, so that a
wrong link is not repaired by a right one. -/

inductive Request where
  | persist (sid : UUID) (item : PersistedFlag) (c : PersistChoices)
  | terminate (sid : UUID) (request : TerminateRequest) (now : DateTime) (recordId : UUID)
  | sealEvidence (sealing : EvidenceRuns.Sealing)

def step (s : EvidenceState) : Request → EvidenceState
  | .persist sid item c => { s with db := (persistOne s.db sid item c).db }
  | .terminate sid request now recordId =>
    { s with db := (postTerminate s.db sid request now recordId).1 }
  | .sealEvidence sealing => EvidenceRuns.step sha256 s sealing

/-- The record's triggering flag, if any, is a flag of the record's session. -/
def RecordLinked (db : Database) (r : TerminationRecord) : Prop :=
  ∀ id ∈ r.triggeringFlagId, ∃ flag, db.getFlag id = some flag ∧
    flag.examSessionId = r.examSessionId

/-- The session id in the artifact's storage key is the session of its flag. -/
def ArtifactLinked (db : Database) (a : EvidenceArtifact) : Prop :=
  ∃ flag, db.getFlag a.flagId = some flag ∧ sessionIdIn a.storageUri = flag.examSessionId.str

/-- No record and no artifact links two sessions. -/
structure Linked (s : EvidenceState) : Prop where
  records : ∀ r ∈ s.db.terminationRecords, RecordLinked s.db r
  artifacts : ∀ a ∈ s.db.evidenceArtifacts, ArtifactLinked s.db a

/-- The terminate request is refused for no other reason than its pair of ids. -/
structure Terminates (db : Database) (sid : UUID) (request : TerminateRequest) (now : DateTime)
    (recordId : UUID) (session : ExamSession) : Prop where
  found : db.getExamSession sid = some session
  status : session.status = .pending ∨ session.status = .active
  timestamps : TimestampOrder db session.id now
  record : RecordInsertable db (terminateRecord session request recordId)

/-- The constraints of `evidence_artifacts`, for a row about to be inserted. -/
structure ArtifactInsertable (db : Database) (row : EvidenceArtifact) : Prop where
  flag : (db.getFlag row.flagId).isSome
  captureOrder : ∀ e ∈ row.captureEndedAt, row.captureStartedAt ≤ e
  retention : row.captureStartedAt ≤ row.retentionExpiresAt
  fresh : ∀ x ∈ db.evidenceArtifacts, ¬ EvidenceArtifact.Clash x row

/-- The evidence request is refused for no other reason than its pair of ids: the blob is not
    too large, the store seals it, and the row meets its constraints. -/
structure Files (s : EvidenceState) (r : EvidenceRuns.Sealing) : Prop where
  size : r.1.blob.length ≤ maxBlobBytes
  uploaded : r.2.answers.uploadFails = false
  checksum : r.2.answers.remoteSha256 = some (sha256 r.1.blob)
  committed : r.2.commitFails = false
  row : ArtifactInsertable s.db (artifactOf sha256 r.1 r.2)

/-- The flag of a request that goes through is a flag of its session. -/
def Paired (s : EvidenceState) : Request → Prop
  | .persist _ _ _ => True
  | .terminate sid request now recordId =>
    ∀ session, Terminates s.db sid request now recordId session →
      ∀ flag ∈ s.db.getFlag request.triggeringFlagId, flag.examSessionId = sid
  | .sealEvidence r =>
    Files sha256 s r → ∀ flag ∈ s.db.getFlag r.1.flagId, flag.examSessionId = r.1.examSessionId

/-! ## 2. What a request adds

`Effect` is what a request can do to the three tables that the links are made of, and with what
condition. -/

section
variable {sha256} {s : EvidenceState} {db db' : Database}

theorem insertArtifact_isSome_iff {row : EvidenceArtifact} :
    (db.insertArtifact row).isSome ↔ ArtifactInsertable db row := by
  unfold Database.insertArtifact
  constructor
  · intro h
    split at h
    · rename_i hchecks
      rw [Option.isSome_map] at h
      obtain ⟨t, ht⟩ := Option.isSome_iff_exists.mp h
      exact ⟨hchecks.1, hchecks.2.1, hchecks.2.2, (Table.insert?_eq_some_iff.mp ht).1⟩
    · exact absurd h (by simp)
  · intro h
    rw [if_pos ⟨h.flag, h.captureOrder, h.retention⟩, Option.isSome_map]
    obtain ⟨t, ht⟩ := Table.exists_insert? h.fresh
    rw [ht]
    rfl

theorem insertArtifact_frame {row : EvidenceArtifact} (h : db.insertArtifact row = some db') :
    ∃ t, db' = { db with evidenceArtifacts := t } := by
  unfold Database.insertArtifact at h
  split at h
  · obtain ⟨t, -, rfl⟩ := Option.map_eq_some_iff.mp h
    exact ⟨t, rfl⟩
  · exact absurd h (by simp)

/-- Everything one request can do to the links: the flags only grow, and at most one record or
    one artifact is added. -/
inductive Effect (sha256 : Blob → String) (s : EvidenceState) : Request → EvidenceState → Prop
  | none {r : Request} {s' : EvidenceState} (flags : s'.db.flags = s.db.flags)
      (records : s'.db.terminationRecords = s.db.terminationRecords)
      (artifacts : s'.db.evidenceArtifacts = s.db.evidenceArtifacts)
      (not_terminates : ∀ sid request now recordId, r = .terminate sid request now recordId →
        ∀ session, ¬ Terminates s.db sid request now recordId session)
      (not_files : ∀ sealing, r = .sealEvidence sealing → ¬ Files sha256 s sealing) :
      Effect sha256 s r s'
  | flagged {sid : UUID} {item : PersistedFlag} {c : PersistChoices} {flag : Flag}
      {s' : EvidenceState} (session : flag.examSessionId = sid) (id : flag.id = c.flagId)
      (flags : s.db.flags.insert? flag = some s'.db.flags)
      (records : ∀ r ∈ s'.db.terminationRecords, r ∈ s.db.terminationRecords ∨
        (r.examSessionId = sid ∧ r.triggeringFlagId = some flag.id))
      (artifacts : s'.db.evidenceArtifacts = s.db.evidenceArtifacts) :
      Effect sha256 s (.persist sid item c) s'
  | terminated {sid : UUID} {request : TerminateRequest} {now : DateTime} {recordId : UUID}
      {session : ExamSession} {s' : EvidenceState}
      (terminates : Terminates s.db sid request now recordId session)
      (flag : (s.db.getFlag request.triggeringFlagId).isSome)
      (flags : s'.db.flags = s.db.flags)
      (records : ∀ r, r ∈ s'.db.terminationRecords ↔
        r ∈ s.db.terminationRecords ∨ r = terminateRecord session request recordId)
      (artifacts : s'.db.evidenceArtifacts = s.db.evidenceArtifacts) :
      Effect sha256 s (.terminate sid request now recordId) s'
  | sealed {r : EvidenceRuns.Sealing} {s' : EvidenceState} (files : Files sha256 s r)
      (flags : s'.db.flags = s.db.flags)
      (records : s'.db.terminationRecords = s.db.terminationRecords)
      (artifacts : ∀ a, a ∈ s'.db.evidenceArtifacts ↔
        a ∈ s.db.evidenceArtifacts ∨ a = artifactOf sha256 r.1 r.2) :
      Effect sha256 s (.sealEvidence r) s'

theorem persist_effect {sid : UUID} {item : PersistedFlag} {c : PersistChoices} :
    Effect sha256 s (.persist sid item c) (step sha256 s (.persist sid item c)) := by
  have hpersist : ∀ s', s'.db.flags = s.db.flags →
      s'.db.terminationRecords = s.db.terminationRecords →
      s'.db.evidenceArtifacts = s.db.evidenceArtifacts →
        Effect sha256 s (.persist sid item c) s' :=
    fun s' h₁ h₂ h₃ => .none h₁ h₂ h₃ (fun _ _ _ _ h => absurd h (by simp))
      fun _ h => absurd h (by simp)
  simp only [step]
  cases hs : s.db.getExamSession sid with
  | none =>
    rw [persistOne_dropped hs]
    exact hpersist _ rfl rfl rfl
  | some examSession =>
    obtain rfl := Database.getExamSession_id hs
    have hsome : (s.db.getExamSession examSession.id).isSome := by simp [hs]
    have heffect : PersistEffect s.db examSession item c
        (persistOne s.db examSession.id item c) := persistOne_effect hs
    generalize persistOne s.db examSession.id item c = result at heffect
    -- whatever the kill-switch does, the flag is the session's
    have hflagged : ∀ db₂ db', CommitsFlag s.db examSession item c db₂ →
        db'.flags = db₂.flags → db'.evidenceArtifacts = db₂.evidenceArtifacts →
        (∀ r ∈ db'.terminationRecords, r ∈ db₂.terminationRecords ∨
          r = killSwitchRecord examSession.id item.decision c) →
        Effect sha256 s (.persist examSession.id item c) { s with db := db' } := by
      intro db₂ db' hcommits hflags hartifacts hrecords
      obtain ⟨severity, -, hinsert⟩ := (hcommits.effect hsome).flags
      have hflag : s.db.flags.insert?
          (flagOf item.decision examSession severity c.flagId) = some db'.flags := hflags ▸ hinsert
      refine .flagged rfl rfl hflag ?_
        (hartifacts.trans (hcommits.evidenceArtifacts hsome))
      intro r hr
      rcases hrecords r hr with hold | rfl
      · exact .inl (hcommits.terminationRecords hsome ▸ hold)
      · exact .inr ⟨rfl, rfl⟩
    -- the four outcomes of the worker, of which two have committed the flag and no record
    cases heffect with
    | refused _ => exact hpersist _ rfl rfl rfl
    | @flagged db₂ _ hcommits _ => exact hflagged db₂ db₂ hcommits rfl rfl fun r hr => .inl hr
    | @unfired db₂ _ _ hcommits _ _ => exact hflagged db₂ db₂ hcommits rfl rfl fun r hr => .inl hr
    | @terminated db₂ db₃ _ hcommits _ _ hinsert =>
      obtain ⟨-, t, ht, rfl⟩ := insertTerminationRecord_eq_some_iff.mp hinsert
      exact hflagged db₂ _ hcommits rfl rfl fun r hr => (Table.mem_insert? ht).mp hr

theorem terminate_effect {sid : UUID} {request : TerminateRequest} {now : DateTime}
    {recordId : UUID} :
    Effect sha256 s (.terminate sid request now recordId)
      (step sha256 s (.terminate sid request now recordId)) := by
  -- What the two refusals share: a request that changes nothing is one that does not terminate.
  have hrefused : (∀ session, ¬ Terminates s.db sid request now recordId session) →
      Effect sha256 s (.terminate sid request now recordId) s := by
    intro hnot
    refine .none rfl rfl rfl ?_ fun _ h => absurd h (by simp)
    intro _ _ _ _ h
    obtain ⟨rfl, rfl, rfl, rfl⟩ := Request.terminate.inj h
    exact hnot
  simp only [step, postTerminate]
  -- The read refuses for the session or its status, the commit for the timestamps or a constraint.
  cases hread : readTerminate s.db sid request with
  | error e =>
    apply hrefused
    intro session h
    have hflag := h.record.flag
    simp only [terminateRecord, Option.all_some] at hflag
    have hallowed := mem_allowed_terminated_iff.mpr h.status
    have htransition := (assertTransition_eq_ok_iff (u := ())).mpr hallowed
    simp [readTerminate, h.found, htransition, Option.isNone_eq_false_iff.mpr hflag] at hread
  | ok session =>
    obtain ⟨hsession, hstatus⟩ := readTerminate_eq_ok hread
    cases hcommit : commitTerminate s.db session request now recordId with
    | none =>
      simp only [hcommit]
      apply hrefused
      intro session' h
      obtain rfl := Option.some.inj (hsession.symm.trans h.found)
      have hsome := commitTerminate_isSome_iff.mpr ⟨h.timestamps, h.record⟩
      rw [hcommit] at hsome
      exact absurd hsome (by simp)
    | some db' =>
      simp only [hcommit]
      have hchecks := commitTerminate_isSome_iff.mp (Option.isSome_of_eq_some hcommit)
      obtain ⟨-, t, -, hdb⟩ := insertTerminationRecord_eq_some_iff.mp
        (commitTerminate_eq_some hcommit)
      have hflag := hchecks.2.flag
      simp only [terminateRecord, Option.all_some] at hflag
      refine .terminated ⟨hsession, hstatus, hchecks.1, hchecks.2⟩ hflag ?_
        ?_ ?_
      · rw [hdb]
        rfl
      · intro r
        exact mem_commitTerminate hcommit
      · rw [hdb]
        rfl

/-- An evidence request that goes through inserts its row; any other leaves the database. -/
theorem sealEvidence_db (r : EvidenceRuns.Sealing) :
    (Files sha256 s r ∧ s.db.insertArtifact (artifactOf sha256 r.1 r.2) =
      some (EvidenceRuns.step sha256 s r).db) ∨
    (¬ Files sha256 s r ∧ (EvidenceRuns.step sha256 s r).db = s.db) := by
  simp only [EvidenceRuns.step, sealEvidenceForFlag]
  -- The exits in the order of the service; each breaks one part of `Files`.
  by_cases hsize : maxBlobBytes < r.1.blob.length
  · rw [if_pos hsize]
    exact .inr ⟨fun h => absurd h.size (by omega), rfl⟩
  rw [if_neg hsize]
  by_cases hflag : (s.db.getFlag r.1.flagId).isNone
  · rw [if_pos hflag]
    refine .inr ⟨?_, rfl⟩
    intro h
    have hsome : (s.db.getFlag r.1.flagId).isSome := h.row.flag
    rw [Option.isNone_iff_eq_none.mp hflag] at hsome
    exact absurd hsome (by simp)
  rw [if_neg hflag]
  cases hseal : (sealEvidence sha256 s.store r.1 r.2.answers).2 with
  | false =>
    refine .inr ⟨?_, rfl⟩
    intro h
    rw [sealEvidence_snd_iff.mpr ⟨h.uploaded, h.checksum⟩] at hseal
    exact absurd hseal (by simp)
  | true =>
    obtain ⟨huploaded, hchecksum⟩ := sealEvidence_snd_iff.mp hseal
    simp only [Bool.not_true, Bool.false_eq_true, if_false]
    by_cases hcommit : r.2.commitFails
    · rw [if_pos hcommit]
      exact .inr ⟨fun h => absurd h.committed (by simp [hcommit]), rfl⟩
    rw [if_neg hcommit]
    cases hinsert : s.db.insertArtifact (artifactOf sha256 r.1 r.2) with
    | none =>
      refine .inr ⟨?_, rfl⟩
      intro h
      have hsome := insertArtifact_isSome_iff.mpr h.row
      rw [hinsert] at hsome
      exact absurd hsome (by simp)
    | some db =>
      exact .inl ⟨⟨by omega, huploaded, hchecksum, by simpa using hcommit,
        insertArtifact_isSome_iff.mp (Option.isSome_of_eq_some hinsert)⟩, rfl⟩

theorem sealEvidence_effect {r : EvidenceRuns.Sealing} :
    Effect sha256 s (.sealEvidence r) (step sha256 s (.sealEvidence r)) := by
  rcases sealEvidence_db r with ⟨hfiles, hinsert⟩ | ⟨hnot, hdb⟩
  · obtain ⟨t, ht⟩ := insertArtifact_frame hinsert
    refine .sealed hfiles ?_ ?_ fun a => EvidenceRuns.mem_insertArtifact hinsert
    · rw [step, ht]
    · rw [step, ht]
  · refine .none (congrArg Database.flags hdb) (congrArg Database.terminationRecords hdb)
      (congrArg Database.evidenceArtifacts hdb) (fun _ _ _ _ h => absurd h (by simp)) ?_
    intro sealing h
    obtain rfl := Request.sealEvidence.inj h
    exact hnot

theorem step_effect (r : Request) : Effect sha256 s r (step sha256 s r) := by
  cases r with
  | persist sid item c => exact persist_effect
  | terminate sid request now recordId => exact terminate_effect
  | sealEvidence r => exact sealEvidence_effect

/-! ## 3. One request

The links of a state after a request, from the links before it and the one that is new. -/

theorem RecordLinked.mono {r : TerminationRecord} (h : RecordLinked db r)
    (hflags : ∀ id flag, db.getFlag id = some flag → db'.getFlag id = some flag) :
    RecordLinked db' r := by
  intro id hid
  obtain ⟨flag, hflag, hsession⟩ := h id hid
  exact ⟨flag, hflags id flag hflag, hsession⟩

theorem ArtifactLinked.mono {a : EvidenceArtifact} (h : ArtifactLinked db a)
    (hflags : ∀ id flag, db.getFlag id = some flag → db'.getFlag id = some flag) :
    ArtifactLinked db' a := by
  obtain ⟨flag, hflag, hsession⟩ := h
  exact ⟨flag, hflags a.flagId flag hflag, hsession⟩

/-- A request's record is linked if the flag it names is the session's. -/
theorem recordLinked_terminateRecord {session : ExamSession} {request : TerminateRequest}
    {recordId : UUID} (hsome : (db.getFlag request.triggeringFlagId).isSome) :
    RecordLinked db (terminateRecord session request recordId) ↔
      ∀ flag ∈ db.getFlag request.triggeringFlagId, flag.examSessionId = session.id := by
  obtain ⟨flag, hflag⟩ := Option.isSome_iff_exists.mp hsome
  simp only [RecordLinked, terminateRecord, Option.mem_def, Option.some.injEq, forall_eq', hflag]
  simp

/-- A request's artifact is linked if the flag is a flag of the session in the path. -/
theorem artifactLinked_artifactOf {r : EvidenceRuns.Sealing}
    (hsome : (db.getFlag r.1.flagId).isSome) :
    ArtifactLinked db (artifactOf sha256 r.1 r.2) ↔
      ∀ flag ∈ db.getFlag r.1.flagId, flag.examSessionId = r.1.examSessionId := by
  obtain ⟨flag, hflag⟩ := Option.isSome_iff_exists.mp hsome
  simp only [ArtifactLinked, artifactOf, SealEvidenceRequest.key, sessionIdIn_buildStorageKey,
    UUID.str_inj, hflag, Option.mem_def, Option.some.injEq, exists_eq_left', forall_eq']
  exact eq_comm

/-- Where the flags stay, what was linked is linked, and nothing else. -/
theorem recordLinked_congr (hflags : db'.flags = db.flags) {r : TerminationRecord} :
    RecordLinked db' r ↔ RecordLinked db r := by
  simp only [RecordLinked, Database.getFlag, hflags]

theorem artifactLinked_congr (hflags : db'.flags = db.flags) {a : EvidenceArtifact} :
    ArtifactLinked db' a ↔ ArtifactLinked db a := by
  simp only [ArtifactLinked, Database.getFlag, hflags]

/-- A new flag leaves the old ones under their ids. -/
theorem getFlag_of_insert? {flag old : Flag} {id : UUID}
    (h : db.flags.insert? flag = some db'.flags) (hold : db.getFlag id = some old) :
    db'.getFlag id = some old := by
  rw [Database.getFlag, Table.find?_insert? h,
    show db.flags.find? (fun f => f.id = id) = some old from hold]
  rfl

/-- And is found under its own. -/
theorem getFlag_inserted {flag : Flag} (h : db.flags.insert? flag = some db'.flags) :
    db'.getFlag flag.id = some flag := by
  obtain ⟨hfresh, -⟩ := Table.insert?_eq_some_iff.mp h
  have hnone : db.flags.find? (fun f => f.id = flag.id) = none :=
    Table.find?_eq_none_iff.mpr fun f hf => by simpa using hfresh f hf
  rw [Database.getFlag, Table.find?_insert? h, hnone]
  simp

/-- A record that names a new flag of its session is linked. -/
theorem recordLinked_inserted {flag : Flag} {r : TerminationRecord}
    (h : db.flags.insert? flag = some db'.flags) (hsession : flag.examSessionId = r.examSessionId)
    (htriggering : r.triggeringFlagId = some flag.id) : RecordLinked db' r := by
  intro id hmem
  obtain rfl : flag.id = id := Option.some.inj (htriggering.symm.trans hmem)
  exact ⟨flag, getFlag_inserted h, hsession⟩

/-- The pair of a termination that goes through is the pair in its record. -/
theorem paired_terminate_iff {sid : UUID} {request : TerminateRequest} {now : DateTime}
    {recordId : UUID} {session : ExamSession}
    (hterminates : Terminates s.db sid request now recordId session)
    (hflag : (s.db.getFlag request.triggeringFlagId).isSome) :
    Paired sha256 s (.terminate sid request now recordId) ↔
      RecordLinked s.db (terminateRecord session request recordId) := by
  have hid : session.id = sid := Database.getExamSession_id hterminates.found
  rw [recordLinked_terminateRecord hflag, hid]
  constructor
  · exact fun h => h session hterminates
  · exact fun h _ _ => h

/-- The pair of a seal that goes through is the pair in its artifact. -/
theorem paired_sealEvidence_iff {r : EvidenceRuns.Sealing} (hfiles : Files sha256 s r) :
    Paired sha256 s (.sealEvidence r) ↔
      ArtifactLinked s.db (artifactOf sha256 r.1 r.2) := by
  rw [artifactLinked_artifactOf hfiles.row.flag]
  constructor
  · exact fun h => h hfiles
  · exact fun h _ => h

/-- **A request keeps the links right exactly when its own pair is.** -/
theorem linked_step_iff (hs : Linked s) (r : Request) :
    Linked (step sha256 s r) ↔ Paired sha256 s r := by
  have heffect : Effect sha256 s r (step sha256 s r) := step_effect r
  generalize step sha256 s r = s' at heffect
  cases heffect with
  -- Nothing new is stored, so every link is an old one.
  | none hflags hrecords hartifacts hnotTerminates hnotFiles =>
    refine iff_of_true ⟨?_, ?_⟩ ?_
    · intro x hx
      exact (recordLinked_congr hflags).mpr (hs.records x (hrecords ▸ hx))
    · intro a ha
      exact (artifactLinked_congr hflags).mpr (hs.artifacts a (hartifacts ▸ ha))
    · cases r with
      | persist sid item c => trivial
      | terminate sid request now recordId =>
        exact fun session h => absurd h (hnotTerminates sid request now recordId rfl session)
      | sealEvidence r => exact fun h => absurd h (hnotFiles r rfl)
  -- The worker's flag is of its own session, and so is the record it may write with it.
  | @flagged sid item c flag _ hsession hid hflags hrecords hartifacts =>
    refine iff_of_true ⟨?_, ?_⟩ trivial
    · intro x hx
      obtain hold | ⟨hx, htriggering⟩ := hrecords x hx
      · exact (hs.records x hold).mono fun _ _ => getFlag_of_insert? hflags
      · exact recordLinked_inserted hflags (hsession.trans hx.symm) htriggering
    · intro a ha
      exact (hs.artifacts a (hartifacts ▸ ha)).mono fun _ _ => getFlag_of_insert? hflags
  -- a record is new, and it is linked exactly if the pair is one
  | @terminated sid request now recordId session _ hterminates hflag hflags hrecords hartifacts =>
    rw [paired_terminate_iff hterminates hflag]
    constructor
    · intro h
      exact (recordLinked_congr hflags).mp (h.records _ ((hrecords _).mpr (.inr rfl)))
    · intro h
      refine ⟨?_, ?_⟩
      · intro x hx
        apply (recordLinked_congr hflags).mpr
        obtain hx | rfl := (hrecords x).mp hx
        · exact hs.records x hx
        · exact h
      · intro a ha
        exact (artifactLinked_congr hflags).mpr (hs.artifacts a (hartifacts ▸ ha))
  -- an artifact is new, and it is linked exactly if the pair is one
  | @sealed r _ hfiles hflags hrecords hartifacts =>
    rw [paired_sealEvidence_iff hfiles]
    constructor
    · intro h
      exact (artifactLinked_congr hflags).mp (h.artifacts _ ((hartifacts _).mpr (.inr rfl)))
    · intro h
      refine ⟨?_, ?_⟩
      · intro x hx
        exact (recordLinked_congr hflags).mpr (hs.records x (hrecords ▸ hx))
      · intro a ha
        apply (artifactLinked_congr hflags).mpr
        obtain ha | rfl := (hartifacts a).mp ha
        · exact hs.artifacts a ha
        · exact h

end

/-! ## 4. The verdict -/

/-- **No link crosses two sessions in any state of a run exactly when none does at the start and
    every request that goes through names a flag of its own session.** Both routes look the session
    and the flag up, and neither asks whether they belong together. -/
theorem linked_iff (s : EvidenceState) (rs : List Request) :
    Run.Always (step sha256) Linked s rs ↔
      Linked s ∧ Run.EachStep (step sha256) (Paired sha256) s rs :=
  Run.always_iff_head_and_eachStep fun _ r hs => linked_step_iff hs r

/-- Sessions 1 and 4, both active, before any flag. -/
def twoActive : EvidenceState where
  db :=
    { activeDatabase with
      examSessions :=
        { rows := [{ ExamSession.launched 1 2 3 "final" 0 with status := .active },
            { ExamSession.launched 4 5 3 "final" 0 with status := .active }]
          distinct := by decide } }
  store := fun _ => none

/-- The worker persists a flag of session 1, and session 4 is terminated on account of it. -/
def foreignTermination : List Request :=
  [.persist 1
      { terminatingItem "second_person" 10 with
        decision := { (terminatingItem "second_person" 10).decision with
          triggeredTermination := false } } ⟨20, 30, true⟩,
    .terminate 4 ⟨20, "copied answers", by decide⟩ 5 31]

/-- The record of session 4 names a flag of session 1. -/
theorem foreignTermination_not_linked :
    ¬ ∀ rs, Run.Always (step EvidenceRuns.digest) Linked twoActive rs := by
  intro h
  have hend := (h foreignTermination).final
  let w := Run.final (step EvidenceRuns.digest) twoActive foreignTermination
  have hrecord : w.db.terminationRecords.rows.any fun r =>
      r.triggeringFlagId = some 20 ∧ r.examSessionId = 4 := by decide +kernel
  obtain ⟨r, hr, hlink⟩ := List.any_eq_true.mp hrecord
  obtain ⟨htriggering, hsession⟩ := of_decide_eq_true hlink
  obtain ⟨flag, hflag, hown⟩ := hend.records r hr 20 htriggering
  have hflags : (w.db.getFlag 20).any (·.examSessionId = 1) := by decide +kernel
  obtain ⟨flag', hflag', hone⟩ := (Option.any_eq_true _ _).mp hflags
  obtain rfl := Option.some.inj (hflag.symm.trans hflag')
  exact absurd ((of_decide_eq_true hone).symm.trans (hown.trans hsession)) (by decide)

end CrossSessionLinks
end ProctorEngine
