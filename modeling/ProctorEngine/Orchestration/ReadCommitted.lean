import ProctorEngine.Lib.Run
import ProctorEngine.Websocket.Admission
import ProctorEngine.Orchestration.Terminate
import ProctorEngine.Orchestration.ProctorReviews

/-!
# Status writes under READ COMMITTED

Four request handlers move a session: the activation and the identity block of the
handshake, the terminate route and the proctor review. Each reads the session, asserts its
transition against the status it read, and commits later. No row lock is taken and there is
no version column, so between the two another handler may commit. The system here is a
committed database and the transactions in flight; its steps are the reads and the commits,
in any order.

**The guard is per read, the write is per commit.** `assert_transition` calls itself a
guard against a stale status read, and it cannot be one: the status it is handed is the
stale one. What a commit does to the committed status depends on whether another
transaction overtook it, and `Harmless` says exactly which overtakings still land inside
the table.
-/

set_option autoImplicit false

namespace ProctorEngine
namespace ReadCommitted

/-! ## 1. Transactions

A handler reads, decides, and commits what it decided. In between, others may commit; so a
transaction is the row it loaded and what it is going to write. -/

/-- The half of a handler that is still to come: what it will write. -/
inductive Write where
  | admission (admission : Admission) (recordId : UUID)
  | terminate (request : TerminateRequest) (now : DateTime) (recordId : UUID)
  | review (review : ProctorReview)

/-- A transaction between its read and its commit. -/
structure Txn where
  loaded : ExamSession
  write : Write

/-- A request, with what its handler's environment will answer. -/
inductive Request where
  | connect (sid : UUID) (backendAvailable : Bool) (now : DateTime) (recordId : UUID)
  | terminate (sid : UUID) (request : TerminateRequest) (now : DateTime) (recordId : UUID)
  | review (review : ProctorReview)

/-- The read step; `none` is a request that is answered without a write. -/
def Request.read (db : Database) : Request → Option Txn
  | .connect sid backendAvailable now recordId =>
    match readAdmission db sid backendAvailable now with
    | .error _ => none
    | .ok (loaded, admission) => some ⟨loaded, .admission admission recordId⟩
  | .terminate sid request now recordId =>
    match readTerminate db sid request with
    | .error _ => none
    | .ok loaded => some ⟨loaded, .terminate request now recordId⟩
  | .review row => (readReview db row.flagId).map fun loaded => ⟨loaded, .review row⟩

/-- The commit step; `none` is a transaction the database refused. -/
def Txn.commit (db : Database) (t : Txn) : Option Database :=
  match t.write with
  | .admission admission recordId => commitAdmission db t.loaded recordId admission
  | .terminate request now recordId => commitTerminate db t.loaded request now recordId
  | .review review => commitReview db t.loaded review

/-- A request handled with nobody in between. -/
def Request.run (db : Database) (r : Request) : Database :=
  match r.read db with
  | none => db
  | some t => (t.commit db).getD db

structure State where
  db : Database
  inFlight : List Txn

inductive Step where
  | read (r : Request)
  | commit (i : Nat)

/-- One step of the system; a commit of a transaction that is not there does nothing. -/
def step (s : State) : Step → State
  | .read r =>
    match r.read s.db with
    | none => s
    | some t => { s with inFlight := s.inFlight ++ [t] }
  | .commit i =>
    match s.inFlight[i]? with
    | none => s
    | some t => { db := (t.commit s.db).getD s.db, inFlight := s.inFlight.eraseIdx i }

/-! ## 2. What a commit does to the committed statuses

The status that is committed depends on the write and on the status that was read, and not at all on
the one it replaces. -/

/-- The committed status of a session. -/
def statusOf (db : Database) (sid : UUID) : Option SessionStatus :=
  (db.getExamSession sid).map (·.status)

/-- The status a write decided on `read` will commit, if it commits one. -/
def Write.target : Write → SessionStatus → Option SessionStatus
  | .admission .block _, _ => some .terminated
  | .admission _ _, read => if read = .pending then some .active else none
  | .terminate _ _ _, _ => some .terminated
  | .review row, read => reviewTarget row.decision read

/-- The statuses a handler's own guard lets it decide on. -/
def Write.Guard : Write → SessionStatus → Prop
  | .admission _ _, read | .terminate _ _ _, read => read = .pending ∨ read = .active
  | .review _, _ => True

/-- What the database tests when a transaction commits, apart from any status. -/
def Txn.Accepted (db : Database) (t : Txn) : Prop :=
  match t.write with
  | .admission .block recordId => RecordInsertable db (blockRecord t.loaded recordId)
  | .admission _ _ => True
  | .terminate request now recordId =>
    TimestampOrder db t.loaded.id now ∧
      RecordInsertable db (terminateRecord t.loaded request recordId)
  | .review row => ∀ r ∈ db.proctorReviews.rows, r.id ≠ row.id

theorem Txn.commit_isSome_iff {db : Database} {t : Txn} :
    (t.commit db).isSome ↔ t.Accepted db := by
  obtain ⟨loaded, write⟩ := t
  cases write with
  | admission adm recordId =>
    cases adm with
    | block => exact blockSession_isSome_iff
    | proceed => simp [Txn.commit, Txn.Accepted, commitAdmission]
    | proceedUnderOverride => simp [Txn.commit, Txn.Accepted, commitAdmission]
  | terminate request now recordId => exact commitTerminate_isSome_iff
  | review row => exact commitReview_isSome_iff

theorem statusOf_activateSession {db : Database} {loaded : ExamSession}
    {identityStatus : Option IdentityVerificationStatus} {sid : UUID} :
    statusOf (activateSession db loaded identityStatus) sid =
      if sid = loaded.id ∧ loaded.status = .pending then
        (statusOf db sid).map fun _ => .active
      else statusOf db sid := by
  by_cases hp : loaded.status = .pending
  · rw [statusOf, activateSession_getExamSession hp]
    by_cases hid : sid = loaded.id <;> simp [statusOf, hid, hp, Function.comp_def]
  · rw [activateSession_eq_self hp, if_neg fun h => hp h.2]

/-- **A commit writes its target over whatever status is committed**, and touches the
    status of no other session. Where the target is `none` no status changes. -/
theorem statusOf_commit {db db' : Database} {t : Txn} (h : t.commit db = some db') (sid : UUID) :
    statusOf db' sid =
      if sid = t.loaded.id then (statusOf db sid).map (t.write.target t.loaded.status).getD
      else statusOf db sid := by
  obtain ⟨loaded, write⟩ := t
  cases write with
  | admission adm recordId =>
    cases adm with
    | block =>
      rw [statusOf, blockSession_getExamSession h]
      split <;> simp [statusOf, Write.target, Function.comp_def]
    | proceed | proceedUnderOverride =>
      simp only [Txn.commit, commitAdmission, Option.some.injEq] at h
      subst h
      rw [statusOf_activateSession]
      by_cases hp : loaded.status = .pending <;> by_cases hid : sid = loaded.id <;>
        cases statusOf db sid <;> simp [Write.target, hp, hid]
  | terminate request now recordId =>
    rw [statusOf, commitTerminate_getExamSession h]
    split <;> simp [statusOf, Write.target, Function.comp_def]
  | review row =>
    rw [statusOf, commitReview_getExamSession h]
    split <;> simp [statusOf, Write.target, Function.comp_def]

/-- A commit inserts at most one termination record, for its own session and together with
    the status `TERMINATED`. -/
theorem mem_commit_terminationRecords {db db' : Database} {t : Txn} (h : t.commit db = some db')
    {x : TerminationRecord} (hx : x ∈ db'.terminationRecords) :
    x ∈ db.terminationRecords ∨
      (x.examSessionId = t.loaded.id ∧ t.write.target t.loaded.status = some .terminated) := by
  obtain ⟨loaded, write⟩ := t
  cases write with
  | admission adm recordId =>
    cases adm with
    | block =>
      rcases (mem_blockSession h).mp hx with hx | rfl
      · exact .inl hx
      · exact .inr ⟨rfl, rfl⟩
    | proceed | proceedUnderOverride =>
      simp only [Txn.commit, commitAdmission, Option.some.injEq] at h
      subst h
      rw [activateSession_terminationRecords] at hx
      exact .inl hx
  | terminate request now recordId =>
    rcases (mem_commitTerminate h).mp hx with hx | rfl
    · exact .inl hx
    · exact .inr ⟨rfl, rfl⟩
  | review row =>
    rw [commitReview_terminationRecords h] at hx
    exact .inl hx

/-! ## 3. Legal changes and harmless overtakings

A commit that replaces another status than the one it read may still be a move of the table.
`Harmless` lists those cases, by the write and the two statuses. -/

/-- Every session whose committed status changes moves along the table. -/
def LegalChanges (db db' : Database) : Prop :=
  ∀ sid a b, statusOf db sid = some a → statusOf db' sid = some b → a ≠ b → b ∈ allowed a

/-- The committed status `current` still admits a write that was decided on `read`: nobody
    overtook the transaction, or whoever did left a status the same write may follow. -/
def Harmless (write : Write) (read current : SessionStatus) : Prop :=
  current = read ∨
    match write with
    | .admission .block _ | .terminate _ _ _ =>
      current = .terminated ∨ (read = .pending ∧ current = .active)
    | .admission _ _ => current = .active
    | .review row => row.decision = .upheld ∨ current = .reinstated

/-- The condition on a step: where the database accepts a commit that writes a status, the
    status it finds is the one it read or a harmless successor of it. -/
def NotOvertaken (s : State) : Step → Prop
  | .read _ => True
  | .commit i =>
    ∀ t ∈ s.inFlight[i]?, t.Accepted s.db → t.write.target t.loaded.status ≠ none →
      ∀ current ∈ statusOf s.db t.loaded.id, Harmless t.write t.loaded.status current

/-- The core of the argument, with no database in it: a write that its handler's guard let
    through follows the current status legally exactly when the overtaking was harmless.
    That no status returns to `PENDING` is all that is used about the runs. -/
theorem harmless_iff {write : Write} {read target current : SessionStatus}
    (ht : write.target read = some target) (hguard : write.Guard read)
    (hp : read ≠ .pending → current ≠ .pending) :
    (current ≠ target → target ∈ allowed current) ↔ Harmless write read current := by
  cases write with
  | admission adm recordId =>
    cases adm with
    | block =>
      obtain rfl : SessionStatus.terminated = target := by simpa [Write.target] using ht
      rcases hguard with rfl | rfl <;> cases current <;> simp_all [Harmless, allowed]
    | proceed | proceedUnderOverride =>
      obtain ⟨rfl, rfl⟩ : read = .pending ∧ SessionStatus.active = target := by
        simpa [Write.target] using ht
      cases current <;> simp [Harmless, allowed]
  | terminate request now recordId =>
    obtain rfl : SessionStatus.terminated = target := by simpa [Write.target] using ht
    rcases hguard with rfl | rfl <;> cases current <;> simp_all [Harmless, allowed]
  | review row =>
    rcases reviewTarget_eq_some_iff.mp ht with ⟨hd, rfl, hs⟩ | ⟨hd, rfl, rfl⟩
    · -- only `PENDING` may not be put under review, and the review did not read it
      have hcur : current ≠ .pending := by
        rcases hs with rfl | rfl | rfl <;> exact hp (by simp)
      simp only [Harmless, hd, true_or, or_true, iff_true]
      exact fun hne => mem_allowed_underReview_iff.mpr ⟨hcur, hne⟩
    · cases current <;> simp_all [Harmless, allowed]

/-! ## 4. The invariant

What is known of a transaction in flight: a guard let its read pass, and a session that was past
`PENDING` when it was read is so still. -/

/-- What a transaction in flight may be relied on for: its loaded status passed the
    handler's guard, and a session read past `PENDING` is never `PENDING` again. -/
structure Txn.WellRead (db : Database) (t : Txn) : Prop where
  guard : t.write.Guard t.loaded.status
  past_pending : t.loaded.status ≠ .pending → statusOf db t.loaded.id ≠ some .pending

def Inv (s : State) : Prop := ∀ t ∈ s.inFlight, t.WellRead s.db

/-- No write targets `PENDING`. -/
theorem Write.target_ne_pending {write : Write} {read : SessionStatus} :
    write.target read ≠ some .pending := by
  cases write with
  | admission adm recordId =>
    cases adm with
    | block => simp [Write.target]
    | proceed | proceedUnderOverride => simp [Write.target]
  | terminate request now recordId => simp [Write.target]
  | review row => exact fun h => pending_not_mem_allowed (reviewTarget_allowed h)

/-- A commit makes no session `PENDING`. -/
theorem statusOf_commit_ne_pending {db db' : Database} {t : Txn} (h : t.commit db = some db')
    {sid : UUID} (hs : statusOf db sid ≠ some .pending) : statusOf db' sid ≠ some .pending := by
  rw [statusOf_commit h]
  split
  · cases ht : t.write.target t.loaded.status with
    | none => simpa using hs
    | some target =>
      have hne : target ≠ .pending := fun he => Write.target_ne_pending (he ▸ ht)
      cases statusOf db sid <;> simp [hne]
  · exact hs

/-- What a read returns: the committed row, with a status its handler's guard admits. -/
theorem Request.read_spec {db : Database} {r : Request} {t : Txn} (h : r.read db = some t) :
    db.getExamSession t.loaded.id = some t.loaded ∧ t.write.Guard t.loaded.status := by
  cases r with
  | connect sid backendAvailable now recordId =>
    simp only [Request.read] at h
    split at h
    · exact absurd h (by simp)
    · rename_i loaded adm hread
      obtain rfl := Option.some.inj h
      obtain ⟨hs, hst⟩ := readAdmission_eq_ok hread
      exact ⟨Database.getExamSession_id hs ▸ hs, hst⟩
  | terminate sid request now recordId =>
    simp only [Request.read] at h
    split at h
    · exact absurd h (by simp)
    · rename_i loaded hread
      obtain rfl := Option.some.inj h
      obtain ⟨hs, hst⟩ := readTerminate_eq_ok hread
      exact ⟨Database.getExamSession_id hs ▸ hs, hst⟩
  | review row =>
    obtain ⟨loaded, hread, rfl⟩ := Option.map_eq_some_iff.mp h
    exact ⟨readReview_eq_some hread, trivial⟩

/-- A transaction is well read at the moment it has read. -/
theorem Request.read_wellRead {db : Database} {r : Request} {t : Txn}
    (h : r.read db = some t) : t.WellRead db := by
  obtain ⟨hs, hguard⟩ := Request.read_spec h
  refine ⟨hguard, ?_⟩
  intro hne
  simpa [statusOf, hs] using hne

theorem inv_step (s : State) (a : Step) (hinv : Inv s) : Inv (step s a) := by
  cases a with
  | read r =>
    simp only [step]
    split
    · exact hinv
    · rename_i t ht
      intro u hu
      rcases List.mem_append.mp hu with hu | hu
      · exact hinv u hu
      · obtain rfl := List.mem_singleton.mp hu
        exact Request.read_wellRead ht
  | commit i =>
    simp only [step]
    split
    · exact hinv
    · rename_i t ht
      intro u hu
      have hwr := hinv u (List.mem_of_mem_eraseIdx hu)
      refine ⟨hwr.guard, ?_⟩
      intro hne
      cases hc : t.commit s.db with
      | none => simpa using hwr.past_pending hne
      | some db' => simpa using statusOf_commit_ne_pending hc (hwr.past_pending hne)

/-! ## 5. Exactness

The two previous parts together, for one step and then for the run. -/

theorem legalChanges_refl {db : Database} : LegalChanges db db :=
  fun _ _ _ ha hb hne => absurd (Option.some.inj (ha.symm.trans hb)) hne

/-- A commit changes one session's status, so its legality is about that session. -/
theorem legalChanges_commit_iff {db db' : Database} {t : Txn} (h : t.commit db = some db') :
    LegalChanges db db' ↔
      ∀ target ∈ t.write.target t.loaded.status, ∀ current ∈ statusOf db t.loaded.id,
        current ≠ target → target ∈ allowed current := by
  constructor
  · intro hl target ht current hc hne
    refine hl t.loaded.id current target hc ?_ hne
    rw [statusOf_commit h, if_pos rfl, hc, ht]
    rfl
  · intro hl sid a b ha hb hne
    rw [statusOf_commit h] at hb
    split at hb
    · rename_i hid
      subst hid
      cases ht : t.write.target t.loaded.status with
      | none => simp [ha, ht, hne] at hb
      | some target =>
        obtain rfl : target = b := by simpa [ha, ht] using hb
        exact hl target ht a ha hne
    · exact absurd (Option.some.inj (ha.symm.trans hb)) hne

theorem legalChanges_step_iff {s : State} {a : Step} (hinv : Inv s) :
    LegalChanges s.db (step s a).db ↔ NotOvertaken s a := by
  cases a with
  -- A read changes nothing, and a commit no more than its own transaction.
  | read r =>
    simp only [NotOvertaken, iff_true, step]
    split <;> exact legalChanges_refl
  | commit i =>
    cases ht : s.inFlight[i]? with
    | none => simpa [NotOvertaken, step, ht] using legalChanges_refl
    | some t =>
      have hwr := hinv t (List.mem_of_getElem? ht)
      simp only [step, ht, NotOvertaken, Option.mem_def, Option.some.injEq, forall_eq']
      cases hc : t.commit s.db with
      | none =>
        have hacc : ¬ t.Accepted s.db := fun h => by
          simpa [hc] using Txn.commit_isSome_iff.mpr h
        simpa [hacc] using legalChanges_refl
      | some db' =>
        have hacc : t.Accepted s.db := Txn.commit_isSome_iff.mp (by simp [hc])
        simp only [Option.getD_some, hacc, true_implies, legalChanges_commit_iff hc]
        cases htar : t.write.target t.loaded.status with
        | none => simp
        | some target =>
          simp only [Option.mem_def, Option.some.injEq, forall_eq', ne_eq, reduceCtorEq,
            not_false_eq_true, true_implies]
          refine forall₂_congr fun current hcur => harmless_iff htar hwr.guard fun hne he => ?_
          exact hwr.past_pending hne (he ▸ hcur)

/-- **The committed statuses stay inside the table exactly in the runs where no commit was overtaken
    harmfully.** From any committed database with nothing in flight, over every interleaving of
    reads and commits. The guard is asked about the status that was read, and the commit writes
    whatever status is there by then. -/
theorem committed_transitions_legal_iff (db : Database) (steps : List Step) :
    Run.EachStep step (fun s a => LegalChanges s.db (step s a).db) ⟨db, []⟩ steps ↔
      Run.EachStep step NotOvertaken ⟨db, []⟩ steps :=
  Run.eachStep_iff_eachStep inv_step (fun _ _ hinv => legalChanges_step_iff hinv)
    (fun _ ht => absurd ht List.not_mem_nil)

/-- A launched session that is `ACTIVE`, with one raised flag. -/
def liveDatabase : Database :=
  { Database.empty with
    examSessions := .single { ExamSession.launched 1 2 3 "midterm" 0 with status := .active }
    flags := .single
      { id := 4, examSessionId := 1, policyConfigId := 3, ruleCode := "second_person"
        severity := .critical, status := .raised, confidenceScore := 1, confidenceLower := 1
        confidenceUpper := 1, triggeredTermination := true, suppressedByExemptionId := none
        detail := [] } }

/-- The terminate route and an upholding review both read `ACTIVE`; the review commits
    first. -/
def overtakenTerminate : List Step :=
  [.read (.terminate 1 ⟨4, "second_person", by decide⟩ 10 5),
   .read (.review ⟨6, 4, "proctor-1", none, .upheld, none⟩),
   .commit 1,
   .commit 0]

/-- The terminate commit takes the session out of `UNDER_REVIEW`, a status nothing leaves. -/
theorem overtakenTerminate_illegal :
    ¬ Run.EachStep step (fun s a => LegalChanges s.db (step s a).db)
      ⟨liveDatabase, []⟩ overtakenTerminate := by
  rintro ⟨-, -, -, hlast, -⟩
  have hbefore : statusOf (Run.final step ⟨liveDatabase, []⟩ (overtakenTerminate.take 3)).db 1
      = some .underReview := by decide +kernel
  have hafter : statusOf (Run.final step ⟨liveDatabase, []⟩ overtakenTerminate).db 1
      = some .terminated := by decide +kernel
  exact absurd (hlast 1 _ _ hbefore hafter (by decide)) (by decide)

end ReadCommitted
end ProctorEngine
