import ProctorEngine.Lti.Service
import ProctorEngine.Orchestration.CrossSessionLinks
import ProctorEngine.Orchestration.Pipeline

/-!
# Consent before persistence

Consent is looked at once, at the handshake. The rows come later and from elsewhere: from the worker
of the connection, which knows its session by the id in the dispatcher's context, and from the
evidence route, which looks at a flag and never at a session. **Every row has a consenting owner all
the same**: a connection exists only for a session that had consented, no operation takes a recorded
consent back, a worker writes rows of its own session only, and an artifact needs its flag.

So the look at the handshake is good for as long as the connection lives and beyond, and the
invariant (`Gated`) carries it from the connection to the rows. Each operation of the process has
two lemmas: what it does to consent (`KeepsConsent`), and that the rows it adds have an owner that
had consented before. Where an operation adds no row of the three kinds the second follows from the
first.
-/

set_option autoImplicit false

namespace ProctorEngine

open Lti

/-- `consent_recorded_at` of a session. -/
def Database.consentOf (db : Database) (id : UUID) : Option DateTime :=
  (db.getExamSession id).bind (·.consentRecordedAt)

/-- Every persisted row is owned, an artifact through its flag, by a session whose consent is
    recorded. -/
structure ConsentPrecedes (db : Database) : Prop where
  telemetryEvents : ∀ t ∈ db.telemetryEvents, (db.consentOf t.examSessionId).isSome
  flags : ∀ f ∈ db.flags, (db.consentOf f.examSessionId).isSome
  evidenceArtifacts : ∀ a ∈ db.evidenceArtifacts, ∃ f ∈ db.flags, f.id = a.flagId ∧
    (db.consentOf f.examSessionId).isSome

/-- No recorded consent is taken back. -/
def KeepsConsent (db db' : Database) : Prop :=
  ∀ id, (db.consentOf id).isSome → (db'.consentOf id).isSome

section
variable {db db' : Database} {id : UUID}

theorem getExamSession_of_consentOf (h : (db.consentOf id).isSome) :
    (db.getExamSession id).isSome := by
  rw [Database.consentOf, Option.isSome_bind, Option.any_eq_true] at h
  obtain ⟨s, hs, -⟩ := h
  exact Option.isSome_iff_exists.mpr ⟨s, hs⟩

/-- What writes no row is judged by what it does to consent. -/
theorem ConsentPrecedes.keep (h : ConsentPrecedes db) (hkeeps : KeepsConsent db db')
    (htelemetry : db'.telemetryEvents = db.telemetryEvents) (hflags : db'.flags = db.flags)
    (hartifacts : db'.evidenceArtifacts = db.evidenceArtifacts) : ConsentPrecedes db' := by
  refine ⟨?_, ?_, ?_⟩
  · intro t ht
    exact hkeeps _ (h.telemetryEvents t (htelemetry ▸ ht))
  · intro f hf
    exact hkeeps _ (h.flags f (hflags ▸ hf))
  · intro a ha
    obtain ⟨f, hf, hid, hconsent⟩ := h.evidenceArtifacts a (hartifacts ▸ ha)
    exact ⟨f, hflags ▸ hf, hid, hkeeps _ hconsent⟩

/-! ## 1. Launches

A launch records the consent of the session it makes, and touches no other. -/

section
variable {claims : LtiIdToken} {role : AppRole} {ids : LaunchIds} {consentAt : DateTime}

/-- A launch adds a session of its own. -/
theorem keepsConsent_launch :
    KeepsConsent db (launchCommitted db claims role ids consentAt) := by
  intro id hconsent
  rcases launchCommitted_cases with heq | ⟨_, _, _, examSessions, _, heq, hinsert, -⟩
  · rw [heq]
    exact hconsent
  · rw [heq]
    unfold Database.consentOf Database.getExamSession at *
    rw [Table.find?_insert? hinsert]
    cases hfind : db.examSessions.find? fun s => s.id = id with
    | none =>
      rw [hfind] at hconsent
      exact absurd hconsent (by simp)
    | some s =>
      rw [hfind] at hconsent
      exact hconsent

theorem ConsentPrecedes.launch (h : ConsentPrecedes db) :
    ConsentPrecedes (launchCommitted db claims role ids consentAt) := by
  apply h.keep keepsConsent_launch
  all_goals
    rcases launchCommitted_cases with heq | ⟨_, _, _, _, _, heq, -, -⟩
    · rw [heq]
    · rw [heq]

end

/-! ## 2. Handshakes

A handshake reads the session, and lets nobody in without consent. What it commits is a status, or
the record of a termination. -/

section
variable {examSession : ExamSession} {recordId sid : UUID} {admission : Admission} {now : DateTime}
  {backendAvailable : Bool}

/-- The handshake's one look at consent. -/
theorem consentOf_of_readAdmission
    (h : readAdmission db sid backendAvailable now = .ok (examSession, admission)) :
    (db.consentOf sid).isSome := by
  have hsession := (readAdmission_eq_ok h).1
  rw [Database.consentOf, hsession, Option.bind_some]
  unfold readAdmission at h
  rw [lookupSession_eq_some_iff.mpr (readAdmission_eq_ok h)] at h
  dsimp only at h
  split at h
  · exact absurd h (by simp)
  · rename_i hconsent
    exact Option.isSome_iff_ne_none.mpr hconsent

/-- An update that leaves consent alone. -/
theorem keepsConsent_updateExamSession {f : ExamSession → ExamSession}
    (hf : ∀ s, (f s).id = s.id) (hconsent : ∀ s, (f s).consentRecordedAt = s.consentRecordedAt) :
    KeepsConsent db (db.updateExamSession id f hf) := by
  intro id' h
  unfold Database.consentOf at *
  rw [Database.getExamSession_updateExamSession]
  split
  · cases hs : db.getExamSession id' with
    | none =>
      rw [hs] at h
      exact absurd h (by simp)
    | some s =>
      rw [hs] at h
      rw [Option.map_some, Option.bind_some, hconsent]
      exact h
  · exact h

/-- What a handshake commits: of the rows in question none, of a session no consent. -/
theorem commitAdmission_consent
    (h : commitAdmission db examSession recordId admission = some db') :
    KeepsConsent db db' ∧ db'.telemetryEvents = db.telemetryEvents ∧
      db'.evidenceArtifacts = db.evidenceArtifacts := by
  have hactivate : ∀ status, KeepsConsent db (activateSession db examSession status) ∧
      (activateSession db examSession status).telemetryEvents = db.telemetryEvents ∧
      (activateSession db examSession status).evidenceArtifacts = db.evidenceArtifacts := by
    intro status
    unfold activateSession
    split
    · exact ⟨keepsConsent_updateExamSession _ fun _ => rfl, rfl, rfl⟩
    · exact ⟨fun _ hconsent => hconsent, rfl, rfl⟩
  cases admission with
  | proceed => exact Option.some.inj h ▸ hactivate none
  | proceedUnderOverride => exact Option.some.inj h ▸ hactivate (some .unavailable)
  | block =>
    obtain ⟨-, records, -, rfl⟩ := insertTerminationRecord_eq_some_iff.mp h
    have hupdate : KeepsConsent db (db.updateExamSession examSession.id
        (fun s => { s with status := .terminated }) fun _ => rfl) :=
      keepsConsent_updateExamSession _ fun _ => rfl
    exact ⟨hupdate, rfl, rfl⟩

theorem ConsentPrecedes.admitted (h : ConsentPrecedes db)
    (hcommit : commitAdmission db examSession recordId admission = some db') :
    ConsentPrecedes db' := by
  obtain ⟨hkeeps, htelemetry, hartifacts⟩ := commitAdmission_consent hcommit
  exact h.keep hkeeps htelemetry (commitAdmission_frame hcommit).flags hartifacts

end

/-! ## 3. The worker

One decision persisted for a session that was read earlier. -/

section
variable {examSession : ExamSession} {item : PersistedFlag} {c : PersistChoices}

theorem persistLoaded_evidenceArtifacts (hs : (db.getExamSession examSession.id).isSome) :
    (persistLoaded db examSession item c).db.evidenceArtifacts = db.evidenceArtifacts := by
  have heffect : PersistEffect db examSession item c (persistLoaded db examSession item c) :=
    persistLoaded_effect item c hs
  generalize persistLoaded db examSession item c = result at heffect
  cases heffect with
  | refused _ => rfl
  | flagged _ hcommits _ => exact hcommits.evidenceArtifacts hs
  | unfired _ hcommits _ _ => exact hcommits.evidenceArtifacts hs
  | terminated _ hcommits _ _ hinsert =>
    obtain ⟨-, records, -, rfl⟩ := insertTerminationRecord_eq_some_iff.mp hinsert
    exact hcommits.evidenceArtifacts hs

theorem keepsConsent_persistLoaded (hs : (db.getExamSession examSession.id).isSome) :
    KeepsConsent db (persistLoaded db examSession item c).db := by
  rcases persistLoaded_db item c hs with ⟨-, hdb⟩ | ⟨-, hrows⟩
  · rw [hdb]
    exact fun _ hconsent => hconsent
  · intro id hconsent
    unfold Database.consentOf at *
    rw [hrows.examSessions id]
    cases hsession : db.getExamSession id with
    | none =>
      rw [hsession] at hconsent
      exact absurd hconsent (by simp)
    | some s =>
      rw [hsession] at hconsent
      exact hconsent

/-- The rows of a decision are rows of the session it is persisted for. -/
theorem ConsentPrecedes.persistLoaded (h : ConsentPrecedes db)
    (hconsent : (db.consentOf examSession.id).isSome) :
    ConsentPrecedes (ProctorEngine.persistLoaded db examSession item c).db := by
  have hs := getExamSession_of_consentOf hconsent
  have hkeeps : KeepsConsent db (ProctorEngine.persistLoaded db examSession item c).db :=
    keepsConsent_persistLoaded hs
  have hartifacts : (ProctorEngine.persistLoaded db examSession item c).db.evidenceArtifacts =
      db.evidenceArtifacts := persistLoaded_evidenceArtifacts hs
  rcases persistLoaded_db item c hs with ⟨-, hdb⟩ | ⟨-, hrows⟩
  · rw [hdb]
    exact h
  -- new rows are of this session, which has consented
  · obtain ⟨severity, hflags⟩ := hrows.flags
    have hmem : ∀ f, f ∈ (ProctorEngine.persistLoaded db examSession item c).db.flags ↔
        f ∈ db.flags ∨ f = flagOf item.decision examSession severity c.flagId := by
      intro f
      rw [← Table.mem_rows, hflags, List.mem_append, List.mem_singleton, Table.mem_rows]
    refine ⟨?_, ?_, ?_⟩
    · intro t ht
      rcases hrows.telemetryEvents t ht with hold | ⟨event, -, hbuild⟩
      · exact hkeeps _ (h.telemetryEvents t hold)
      · rw [(buildTelemetryEventRow_eq_some hbuild).2]
        exact hkeeps _ hconsent
    · intro f hf
      rcases (hmem f).mp hf with hold | rfl
      · exact hkeeps _ (h.flags f hold)
      · exact hkeeps _ hconsent
    · intro a ha
      obtain ⟨f, hf, hid, hfconsent⟩ := h.evidenceArtifacts a (hartifacts ▸ ha)
      exact ⟨f, (hmem f).mpr (.inl hf), hid, hkeeps _ hfconsent⟩

end

/-! ## 4. The evidence route

The row is inserted if the flag is there, and the flag has an owner. -/

section
variable {sha256 : Blob → String} {s : EvidenceState} {r : EvidenceRuns.Sealing}

/-- All a seal writes to the database: an artifact of a flag that is there. -/
theorem sealed_cases :
    (EvidenceRuns.step sha256 s r).db = s.db ∨
      ∃ row, s.db.insertArtifact row = some (EvidenceRuns.step sha256 s r).db := by
  unfold EvidenceRuns.step sealEvidenceForFlag
  split
  · exact .inl rfl
  · split
    · exact .inl rfl
    · dsimp only
      split
      · exact .inl rfl
      · split
        · exact .inl rfl
        · split
          · exact .inl rfl
          · rename_i hinsert
            exact .inr ⟨_, hinsert⟩

theorem insertArtifact_keepsConsent {row : EvidenceArtifact}
    (h : db.insertArtifact row = some db') : KeepsConsent db db' := by
  obtain ⟨artifacts, rfl⟩ := CrossSessionLinks.insertArtifact_frame h
  exact fun _ hconsent => hconsent

theorem ConsentPrecedes.insertArtifact {row : EvidenceArtifact} (h : ConsentPrecedes db)
    (hinsert : db.insertArtifact row = some db') : ConsentPrecedes db' := by
  have hmem : ∀ a, a ∈ db'.evidenceArtifacts ↔ a ∈ db.evidenceArtifacts ∨ a = row :=
    fun a => EvidenceRuns.mem_insertArtifact hinsert
  have hrow := CrossSessionLinks.insertArtifact_isSome_iff.mp
    (Option.isSome_iff_exists.mpr ⟨db', hinsert⟩)
  obtain ⟨artifacts, rfl⟩ := CrossSessionLinks.insertArtifact_frame hinsert
  refine ⟨h.telemetryEvents, h.flags, ?_⟩
  intro a ha
  rcases (hmem a).mp ha with hold | rfl
  · exact h.evidenceArtifacts a hold
  · -- the foreign key is to a flag that has its consent
    obtain ⟨f, hf⟩ := Option.isSome_iff_exists.mp hrow.flag
    have hflag : f ∈ db.flags := Table.mem_of_find?_eq_some hf
    exact ⟨f, hflag, by simpa using Table.of_find?_eq_some hf, h.flags f hflag⟩

end

end

/-! ## 5. The system

Everything that writes rows of these kinds or touches consent, in one run. -/

/-- The process with its pipeline, and the object store beside the database. -/
structure Engine where
  system : System
  store : EvidenceStore

inductive EngineStep where
  | launch (claims : LtiIdToken) (role : AppRole) (ids : LaunchIds) (consentAt : DateTime)
  /-- A WebSocket connect, or a move of one of the threads of a connection. -/
  | pipeline (l : Step)
  | sealEvidence (r : EvidenceRuns.Sealing)

namespace Engine

variable (py : Pydantic) (sha256 : Blob → String)

def withDb (e : Engine) (db : Database) : Engine :=
  { e with system := { e.system with shared := { e.system.shared with db := db } } }

def step (e : Engine) : EngineStep → Engine
  | .launch claims role ids consentAt =>
    e.withDb (launchCommitted e.system.shared.db claims role ids consentAt)
  | .pipeline l => { e with system := e.system.step py l }
  | .sealEvidence r =>
    let result := EvidenceRuns.step sha256 ⟨e.system.shared.db, e.store⟩ r
    { e.withDb result.db with store := result.store }

/-- No connection, and a database without telemetry, flags and artifacts. -/
def start (eventBuffer : TelemetryEventBuffer) (db : Database) (store : EvidenceStore) :
    Engine where
  system := .idle eventBuffer
    { db with
      telemetryEvents := ∅, flags := ∅, flagTelemetryEvents := ∅, evidenceArtifacts := ∅ }
  store := store

/-- What carries the handshake's look at consent to the rows: a connection belongs to its
    session, and the session's consent is recorded. -/
structure Gated (w : System) : Prop where
  precedes : ConsentPrecedes w.shared.db
  linked : w.Each Connection.Linked
  consented : w.Each fun sh conn => (sh.db.consentOf conn.claims.sid).isSome

section
variable {py} {sha256} {w : System} {db : Database} {sh : Shared} {conn : Connection}

/-- Another operation of the process between two steps of the pipeline. -/
theorem Gated.withDb (h : Gated w) (hprecedes : ConsentPrecedes db)
    (hkeeps : KeepsConsent w.shared.db db) :
    Gated { w with shared := { w.shared with db := db } } := by
  refine ⟨hprecedes, ?_, ?_⟩
  · intro conn hconn
    have hconsent : (db.consentOf conn.claims.sid).isSome :=
      hkeeps _ (h.consented conn hconn)
    apply (h.linked conn hconn).of_isSome
    rw [getExamSession_of_consentOf hconsent, (h.linked conn hconn).session]
  · intro conn hconn
    exact hkeeps _ (h.consented conn hconn)

/-- A thread's move: the worker's commit is for its connection's session, and nothing else
    reaches the database. -/
theorem act_precedes (hprecedes : ConsentPrecedes sh.db) (hlinked : conn.Linked sh)
    (hconsent : (sh.db.consentOf conn.claims.sid).isSome) (action : Action) :
    ConsentPrecedes (conn.act py sh action).1.db ∧
      KeepsConsent sh.db (conn.act py sh action).1.db := by
  rcases Connection.act_attempts py hlinked action with
    ⟨-, hdb⟩ | ⟨c, item, examSession, -, hpc, hdb, -⟩
  · rw [hdb]
    exact ⟨hprecedes, fun _ h => h⟩
  · have hid : examSession.id = conn.claims.sid := hlinked.loaded item examSession hpc
    rw [← hid] at hconsent
    rw [hdb]
    exact ⟨hprecedes.persistLoaded hconsent,
      keepsConsent_persistLoaded (getExamSession_of_consentOf hconsent)⟩

theorem Gated.act {i : Nat} {action : Action} (h : Gated w) (hi : w.connections[i]? = some conn) :
    Gated ⟨(conn.act py w.shared action).1,
      w.connections.set i (conn.act py w.shared action).2⟩ := by
  have hconn : conn ∈ w.connections := List.mem_of_getElem? hi
  obtain ⟨hprecedes, hkeeps⟩ : ConsentPrecedes (conn.act py w.shared action).1.db ∧
      KeepsConsent w.shared.db (conn.act py w.shared action).1.db :=
    act_precedes h.precedes (h.linked conn hconn) (h.consented conn hconn) action
  refine ⟨hprecedes, ?_, ?_⟩
  · have hstep : (w.step py (.on i action)).Each Connection.Linked :=
      System.linked_step (.on i action) h.linked
    simpa only [System.step, hi] using hstep
  · intro other hother
    rcases List.mem_or_eq_of_mem_set hother with hother | rfl
    · exact hkeeps _ (h.consented other hother)
    · rw [(Connection.act_fixed py w.shared conn action).1]
      exact hkeeps _ (h.consented conn hconn)

/-- The handshake lets a connection in only beside a recorded consent. -/
theorem Gated.connect {claims : SessionClaims} {backendAvailable : Bool} {now : DateTime}
    {recordId : UUID} (h : Gated w) :
    Gated (w.connect claims backendAvailable now recordId) := by
  have hlinked : (w.step .strict (.connect claims backendAvailable now recordId)).Each
      Connection.Linked := System.linked_step _ h.linked
  simp only [System.step] at hlinked
  unfold System.connect at hlinked ⊢
  cases hread : readAdmission w.shared.db claims.sid backendAvailable now with
  | error e => exact h
  | ok answer =>
    obtain ⟨examSession, admission⟩ := answer
    rw [hread] at hlinked
    dsimp only at hlinked ⊢
    cases hcommit : commitAdmission w.shared.db examSession recordId admission with
    | none => exact h
    | some db =>
      rw [hcommit] at hlinked
      obtain ⟨hkeeps, -, -⟩ := commitAdmission_consent hcommit
      refine ⟨h.precedes.admitted hcommit, hlinked, ?_⟩
      intro conn hconn
      dsimp only at hconn
      split at hconn
      · exact hkeeps _ (h.consented conn hconn)
      · rcases List.mem_append.mp hconn with hconn | hconn
        · exact hkeeps _ (h.consented conn hconn)
        · rw [List.mem_singleton.mp hconn]
          exact hkeeps _ (consentOf_of_readAdmission hread)

theorem Gated.pipeline (h : Gated w) (l : Step) : Gated (w.step py l) := by
  cases l with
  | connect claims backendAvailable now recordId => exact h.connect
  | on i action =>
    cases hi : w.connections[i]? with
    | none => simpa only [System.step, hi] using h
    | some conn => simpa only [System.step, hi] using h.act hi

theorem gated_step (e : Engine) (l : EngineStep) (h : Gated e.system) :
    Gated (e.step py sha256 l).system := by
  cases l with
  | launch claims role ids consentAt => exact h.withDb h.precedes.launch keepsConsent_launch
  | pipeline l => exact h.pipeline l
  | sealEvidence r =>
    have hcases : (EvidenceRuns.step sha256 ⟨e.system.shared.db, e.store⟩ r).db =
        e.system.shared.db ∨ ∃ row, e.system.shared.db.insertArtifact row =
          some (EvidenceRuns.step sha256 ⟨e.system.shared.db, e.store⟩ r).db := sealed_cases
    rcases hcases with hsame | ⟨row, hinsert⟩
    · apply h.withDb
      · rw [hsame]
        exact h.precedes
      · rw [hsame]
        exact fun _ hconsent => hconsent
    · exact h.withDb (h.precedes.insertArtifact hinsert) (insertArtifact_keepsConsent hinsert)

end

/-- **Consent precedes persistence**: over every run of launches, connects, moves of the threads and
    seals, from any sessions, consenting or not. A connect is refused without consent, and what a
    thread writes later is for a session that was connected. -/
theorem consent_precedes (py : Pydantic) (sha256 : Blob → String)
    (eventBuffer : TelemetryEventBuffer) (db : Database) (store : EvidenceStore)
    (steps : List EngineStep) :
    Run.Always (step py sha256) (fun e => ConsentPrecedes e.system.shared.db)
      (start eventBuffer db store) steps := by
  have hstart : Gated (start eventBuffer db store).system := by
    refine ⟨⟨?_, ?_, ?_⟩, ?_, ?_⟩
    · exact fun t ht => absurd ht Table.not_mem_empty
    · exact fun f hf => absurd hf Table.not_mem_empty
    · exact fun a ha => absurd ha Table.not_mem_empty
    · exact fun conn hconn => absurd hconn List.not_mem_nil
    · exact fun conn hconn => absurd hconn List.not_mem_nil
  exact (Run.always_of_step (fun e l h => gated_step e l h) hstart).mono fun e h => h.precedes

end Engine

end ProctorEngine
