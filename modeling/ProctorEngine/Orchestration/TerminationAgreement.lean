import ProctorEngine.Orchestration.ReadCommitted
import ProctorEngine.Orchestration.FlagPersistenceWorker

/-!
# Termination records and session statuses

A termination record says a session was ended; the session's status decides whether a
WebSocket may still be opened for it. Four paths write one or the other: the identity block
and the terminate route write both in one transaction, a proctor review writes the status
only, and the persistence worker's kill-switch writes the record only — **the worker never
touches the status**. So the two agree along a run exactly when the worker's record always
finds a status that already says so.
-/

set_option autoImplicit false

namespace ProctorEngine
namespace TerminationAgreement

open ReadCommitted (Request statusOf)

/-- The statuses of a session that was ended: terminated, or reviewed since. -/
def Ended (status : SessionStatus) : Prop :=
  status = .terminated ∨ status = .reinstated ∨ status = .underReview

instance : DecidablePred Ended := fun _ => inferInstanceAs (Decidable (_ ∨ _ ∨ _))

/-- Records and statuses agree, and so no session with a record is admitted again. -/
structure Agrees (db : Database) : Prop where
  ended : ∀ r ∈ db.terminationRecords, ∀ status ∈ statusOf db r.examSessionId, Ended status
  refused : ∀ r ∈ db.terminationRecords, lookupSession db r.examSessionId = none

/-- One call that reaches the tables: a connect, a terminate or a review, each handled with
    nobody in between, or one `_persist_one` of a session's worker. -/
inductive Step where
  | request (r : Request)
  | worker (sid : UUID) (item : PersistedFlag) (c : PersistChoices)

def step (db : Database) : Step → Database
  | .request r => r.run db
  | .worker sid item c => (persistOne db sid item c).db

/-- The condition on a step: a worker that inserts the record of a terminating decision
    finds the session ended. -/
def FindsEnded (db : Database) : Step → Prop
  | .request _ => True
  | .worker sid item c =>
    item.decision.triggeredTermination = true →
      ∀ s, db.getExamSession sid = some s → Persistable db s item c →
        FirstTermination db sid item.decision c → Ended s.status

section
variable {db db' : Database}

/-- The lookup refuses whatever is ended: the second half of the agreement is the first. -/
theorem agrees_iff :
    Agrees db ↔
      ∀ r ∈ db.terminationRecords, ∀ status ∈ statusOf db r.examSessionId, Ended status := by
  refine ⟨Agrees.ended, fun h => ⟨h, fun r hr => ?_⟩⟩
  by_contra hne
  obtain ⟨s, hs⟩ := Option.ne_none_iff_exists'.mp hne
  obtain ⟨hget, hst⟩ := lookupSession_eq_some_iff.mp hs
  have hended := h r hr s.status (by simp [statusOf, hget])
  rcases hst with hst | hst <;> simp [hst, Ended] at hended

/-- A write that the guard let through ends the session or activates a `PENDING` one. -/
theorem ended_of_target {write : ReadCommitted.Write} {read target : SessionStatus}
    (h : write.target read = some target) : Ended target ∨ read = .pending := by
  cases write with
  | admission adm recordId =>
    cases adm with
    | block =>
      obtain rfl : SessionStatus.terminated = target := by
        simpa [ReadCommitted.Write.target] using h
      exact .inl (.inl rfl)
    | proceed | proceedUnderOverride =>
      simp only [ReadCommitted.Write.target, ite_eq_iff, reduceCtorEq, and_false, or_false] at h
      exact .inr h.1
  | terminate request now recordId =>
    obtain rfl : SessionStatus.terminated = target := by
      simpa [ReadCommitted.Write.target] using h
    exact .inl (.inl rfl)
  | review row =>
    rcases reviewTarget_eq_some_iff.mp h with ⟨-, rfl, -⟩ | ⟨-, rfl, -⟩ <;> simp [Ended]

/-- A request keeps the agreement: where it inserts a record it writes `TERMINATED` with it,
    and where it writes any other status to a session with a record, that is a review. -/
theorem agrees_request {r : Request} (h : Agrees db) : Agrees (r.run db) := by
  unfold Request.run
  cases hread : r.read db with
  | none => exact h
  | some t =>
    cases hcommit : t.commit db with
    | none => simpa [hcommit] using h
    | some db' =>
      obtain ⟨hloaded, hguard⟩ := Request.read_spec hread
      simp only [hcommit, Option.getD_some]
      apply agrees_iff.mpr
      intro x hx status hstatus
      rw [Option.mem_def, ReadCommitted.statusOf_commit hcommit] at hstatus
      rcases ReadCommitted.mem_commit_terminationRecords hcommit hx with hold | ⟨hsid, htarget⟩
      · split at hstatus
        · rename_i hid
          have hcur : statusOf db x.examSessionId = some t.loaded.status := by
            simp [statusOf, hid, hloaded]
          have hended := h.ended x hold _ hcur
          cases htarget : t.write.target t.loaded.status with
          | none =>
            obtain rfl : t.loaded.status = status := by simpa [hcur, htarget] using hstatus
            exact hended
          | some target =>
            obtain rfl : target = status := by simpa [hcur, htarget] using hstatus
            -- the session is ended, so it was not read `PENDING`
            rcases ended_of_target htarget with htar | hpending
            · exact htar
            · simp [hpending, Ended] at hended
        · exact h.ended x hold status hstatus
      · rw [if_pos hsid, htarget] at hstatus
        obtain ⟨-, -, rfl⟩ := Option.map_eq_some_iff.mp hstatus
        exact .inl rfl

/-- A call of the worker keeps the agreement exactly when it finds the session ended. -/
theorem agrees_worker_iff {sid : UUID} {item : PersistedFlag} {c : PersistChoices}
    (h : Agrees db) :
    Agrees (persistOne db sid item c).db ↔ FindsEnded db (.worker sid item c) := by
  simp only [FindsEnded]
  cases hs : db.getExamSession sid with
  | none => simpa [persistOne_dropped hs] using h
  | some examSession =>
    obtain rfl := Database.getExamSession_id hs
    have hsome : (db.getExamSession examSession.id).isSome := by simp [hs]
    simp only [Option.some.injEq, forall_eq']
    -- the flag's transaction moves no status and no record
    have hflag : ∀ {db₂}, CommitsFlag db examSession item c db₂ → Agrees db₂ := by
      intro db₂ hc
      apply agrees_iff.mpr
      intro x hx status hstatus
      have hf := (hc.effect hsome).examSessions x.examSessionId
      refine h.ended x (hc.terminationRecords hsome ▸ hx) status ?_
      simpa [statusOf, hf, Function.comp_def] using hstatus
    have heff : PersistEffect db examSession item c (persistOne db examSession.id item c) :=
      persistOne_effect hs
    generalize persistOne db examSession.id item c = r at heff ⊢
    cases heff with
    | refused hnot => simpa [hnot] using h
    | flagged hp hc ht => simpa [ht] using hflag hc
    | unfired hp hc ht hnot => simpa [hnot] using hflag hc
    -- The record is new, and the status beside it is whatever the flag found.
    | @terminated db₂ db₃ hp hc ht hfirst hins =>
      simp only [ht, hp, hfirst, true_implies]
      have hf := (hc.effect hsome).examSessions examSession.id
      have hstatus : statusOf db₃ examSession.id = some examSession.status := by
        simp [statusOf, insertTerminationRecord_getExamSession hins, hf, hs]
      constructor
      · intro hagrees
        exact hagrees.ended (killSwitchRecord examSession.id item.decision c)
          ((mem_insertTerminationRecord hins).mpr (.inr rfl)) _ hstatus
      · intro hended
        apply agrees_iff.mpr
        intro x hx status hx'
        rcases (mem_insertTerminationRecord hins).mp hx with hold | rfl
        · refine (hflag hc).ended x hold status ?_
          simpa [statusOf, insertTerminationRecord_getExamSession hins] using hx'
        · obtain rfl : examSession.status = status := Option.some.inj (hstatus.symm.trans hx')
          exact hended

theorem agrees_step_iff {a : Step} (h : Agrees db) : Agrees (step db a) ↔ FindsEnded db a := by
  cases a with
  | request r => exact iff_of_true (agrees_request h) trivial
  | worker sid item c => exact agrees_worker_iff h

end

/-- **Records and statuses agree along a run exactly when the worker never terminates a session that
    is not ended.** Over every sequence of connects, terminates, reviews and worker calls, from any
    database. The other two writers set the status in the transaction of the record; the worker
    inserts the record alone, and `FindsEnded` is about the status it finds. -/
theorem agreement_iff (db : Database) (steps : List Step) :
    Run.Always step Agrees db steps ↔ Agrees db ∧ Run.EachStep step FindsEnded db steps :=
  Run.always_iff_head_and_eachStep fun _ _ h => agrees_step_iff h

/-- One terminating decision of an `ACTIVE` session. -/
def killSwitch : List Step := [.worker 1 (terminatingItem "second_person" 10) ⟨20, 30, true⟩]

/-- The record is there, the status still `ACTIVE`, and the student may reconnect. -/
theorem killSwitch_disagrees : ¬ Run.Always step Agrees activeDatabase killSwitch := by
  intro h
  have hrecord : (⟨30, 1, some 20, "second_person", .pending, .pending⟩ : TerminationRecord) ∈
      (Run.final step activeDatabase killSwitch).terminationRecords := by decide +kernel
  have hadmitted : (lookupSession (Run.final step activeDatabase killSwitch) 1).isSome := by
    decide +kernel
  have hrefused := h.final.refused _ hrecord
  exact absurd hrefused (Option.isSome_iff_ne_none.mp hadmitted)

end TerminationAgreement
end ProctorEngine
