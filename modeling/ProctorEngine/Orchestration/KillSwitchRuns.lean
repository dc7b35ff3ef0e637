import ProctorEngine.Lib.Run
import ProctorEngine.Orchestration.FlagPersistenceWorker

/-!
# Repeated terminating decisions

The aggregator can emit several terminating decisions for one session, and the worker
handles each in the order they were queued. `_handle_kill_switch` says what it means to do
with the second: "if one already exists, we update the `triggering_flag_id` to point at the
latest one rather than failing the duplicate insert". The record has the immutability
listener the comment there says it does not have, so the update raises — after the flag was
committed and before the callback is invoked.

**Half of the intention holds unconditionally**: a session has one record, and nothing ever
changes it (`worker_records_append_only`). The other half, that every terminating decision
whose flag commits also fires its kill-switch, holds exactly in the runs where no
terminating decision follows another.
-/

set_option autoImplicit false

namespace ProctorEngine
namespace KillSwitchRuns

/-- A queued item with what the environment answers while it is processed. -/
abbrev Job := PersistedFlag × PersistChoices

/-- The worker of session `sid` processes one job. -/
def step (sid : UUID) (db : Database) (job : Job) : Database :=
  (persistOne db sid job.1 job.2).db

/-- Processing a job is harmless to what was there and complete about what it adds. -/
structure RepeatHarmless (sid : UUID) (db : Database) (job : Job) : Prop where
  one_record : ∀ x ∈ (step sid db job).terminationRecords,
    ∀ y ∈ (step sid db job).terminationRecords,
      x.examSessionId = sid → y.examSessionId = sid → x = y
  unchanged : ∀ x ∈ db.terminationRecords, x ∈ (step sid db job).terminationRecords
  /-- A terminating decision whose flag row commits raises nothing and calls back once. -/
  fires : job.1.decision.triggeredTermination = true →
    (∃ f ∈ (step sid db job).flags, f ∉ db.flags) →
      (persistOne db sid job.1 job.2).raised = none ∧
        (persistOne db sid job.1 job.2).killSwitches.length = 1

/-- The condition: a terminating decision whose flag can be persisted is the session's first
    termination. -/
def FirstIfTerminating (sid : UUID) (db : Database) (job : Job) : Prop :=
  job.1.decision.triggeredTermination = true →
    ∀ s, db.getExamSession sid = some s → Persistable db s job.1 job.2 →
      FirstTermination db sid job.1.decision job.2

section
variable {db db₂ : Database} {examSession : ExamSession} {sid : UUID} {job : Job}

/-- One record per session is the table's unique constraint. -/
theorem one_record_per_session {x y : TerminationRecord} (hx : x ∈ db.terminationRecords)
    (hy : y ∈ db.terminationRecords) (h : x.examSessionId = y.examSessionId) : x = y :=
  Table.eq_of_clash hx hy (.inr h)

/-- No call changes or removes a record. -/
theorem worker_records_append_only {x : TerminationRecord} (hx : x ∈ db.terminationRecords) :
    x ∈ (step sid db job).terminationRecords := by
  unfold step
  cases hs : db.getExamSession sid with
  | none => rwa [persistOne_dropped hs]
  | some examSession =>
    have hsome : (db.getExamSession examSession.id).isSome := by
      simp [Database.getExamSession_id hs, hs]
    have heff : PersistEffect db examSession job.1 job.2 (persistOne db sid job.1 job.2) :=
      persistOne_effect hs
    generalize persistOne db sid job.1 job.2 = r at heff ⊢
    cases heff with
    | refused hnot => exact hx
    | flagged hp hc ht => rwa [hc.terminationRecords hsome]
    | unfired hp hc ht hnot => rwa [hc.terminationRecords hsome]
    | terminated hp hc ht hfirst hins =>
      exact (mem_insertTerminationRecord hins).mpr (.inl (hc.terminationRecords hsome ▸ hx))

/-- A flag transaction adds a flag that was not there. -/
theorem commitsFlag_adds_flag (h : CommitsFlag db examSession job.1 job.2 db₂)
    (hs : (db.getExamSession examSession.id).isSome) : ∃ f ∈ db₂.flags, f ∉ db.flags := by
  obtain ⟨severity, -, hinsert⟩ := (h.effect hs).flags
  obtain ⟨hfresh, -⟩ := Table.insert?_eq_some_iff.mp hinsert
  refine ⟨_, (Table.mem_insert? hinsert).mpr (.inr rfl), ?_⟩
  intro hmem
  exact hfresh _ hmem rfl

/-- One job is harmless exactly when it is not a repetition. -/
theorem repeatHarmless_iff : RepeatHarmless sid db job ↔ FirstIfTerminating sid db job := by
  have hone : ∀ x ∈ (step sid db job).terminationRecords,
      ∀ y ∈ (step sid db job).terminationRecords,
        x.examSessionId = sid → y.examSessionId = sid → x = y :=
    fun x hx y hy hxs hys => one_record_per_session hx hy (hxs.trans hys.symm)
  have hkeep : ∀ x ∈ db.terminationRecords, x ∈ (step sid db job).terminationRecords :=
    fun x hx => worker_records_append_only hx
  -- Two of the three parts hold of every job; the condition is about the third.
  suffices hfires : (job.1.decision.triggeredTermination = true →
      (∃ f ∈ (step sid db job).flags, f ∉ db.flags) →
        (persistOne db sid job.1 job.2).raised = none ∧
          (persistOne db sid job.1 job.2).killSwitches.length = 1) ↔
      FirstIfTerminating sid db job from
    ⟨fun h => hfires.mp h.fires, fun h => ⟨hone, hkeep, hfires.mpr h⟩⟩
  unfold step FirstIfTerminating
  apply forall_congr'
  intro htrig
  cases hs : db.getExamSession sid with
  | none =>
    simp [persistOne_dropped hs]
  | some examSession =>
    obtain rfl := Database.getExamSession_id hs
    have hsome : (db.getExamSession examSession.id).isSome := by simp [hs]
    have heff : PersistEffect db examSession job.1 job.2
        (persistOne db examSession.id job.1 job.2) := persistOne_effect hs
    generalize persistOne db examSession.id job.1 job.2 = r at heff ⊢
    simp only [Option.some.injEq, forall_eq']
    cases heff with
    | refused hnot => simp [hnot]
    | flagged hp hc ht => exact absurd (htrig.symm.trans ht) (by simp)
    | unfired hp hc ht hnot => simp [hp, hnot, commitsFlag_adds_flag hc hsome]
    | terminated hp hc ht hfirst hins => simp [hfirst]

end

/-- **Repeated terminating decisions are harmless exactly in the runs without them.** From any
    database, over every sequence of jobs handed to the worker of a session. A second decision would
    have to update the record, which the listener on it refuses, and the exception takes the
    callback with it. -/
theorem repeats_harmless_iff (sid : UUID) (db : Database) (jobs : List Job) :
    Run.EachStep (step sid) (RepeatHarmless sid) db jobs ↔
      Run.EachStep (step sid) (FirstIfTerminating sid) db jobs :=
  Run.eachStep_iff_eachStep (I := fun _ => True) (fun _ _ _ => trivial)
    (fun _ _ _ => repeatHarmless_iff) trivial

/-- A second person is confirmed; later the accumulated score crosses its threshold. -/
def secondTermination : List Job :=
  [(terminatingItem "second_person" 10, ⟨20, 30, true⟩),
   (terminatingItem "accumulated_score" 11, ⟨21, 31, true⟩)]

/-- The second flag commits, but processing it raises and its kill-switch is never fired. -/
theorem secondTermination_not_harmless :
    ¬ Run.EachStep (step 1) (RepeatHarmless 1) activeDatabase secondTermination := by
  rintro ⟨-, hsecond, -⟩
  have hnew : ∃ f ∈ (step 1 (step 1 activeDatabase secondTermination[0])
        secondTermination[1]).flags,
      f ∉ (step 1 activeDatabase secondTermination[0]).flags := by
    refine ⟨flagOf secondTermination[1].1.decision
      { ExamSession.launched 1 2 3 "midterm" 0 with status := .active } .critical 21, ?_, ?_⟩ <;>
      decide +kernel
  have hraised : (persistOne (step 1 activeDatabase secondTermination[0]) 1
      secondTermination[1].1 secondTermination[1].2).raised = some .immutableRecord := by
    decide +kernel
  exact absurd (hraised.symm.trans (hsecond.fires rfl hnew).1) (by simp)

end KillSwitchRuns
end ProctorEngine
