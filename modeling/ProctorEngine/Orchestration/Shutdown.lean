import ProctorEngine.Orchestration.Pipeline

/-!
# What a shutdown leaves behind

The `finally` block of the handler stops the persistence worker first and the dispatcher second, and
each of the two loops tests its flag before it looks at its work. Nothing puts a decision back, so
**once a consumer has left with work in front of it that work is lost for good** (`Stranded`), and a
finished connection has lost nothing exactly when none of its steps stranded anything
(`complete_iff_orderly`).

Three moves strand work:

* the worker leaves its loop while the queue holds a decision;
* the dispatcher puts a decision on the queue of a worker that has left;
* the dispatcher leaves in the middle of a batch.

The second is what the order of the two stops makes possible. The worker is told to stop while the
dispatcher is still at work, finds an empty queue and leaves, and what the dispatcher raises
afterwards has nobody to take it.

Stranded work is a property of a state, and the three moves are conditions on the state before a
move. The equivalence is the step lemma `stranded_act_iff` together with the fact that work once
stranded stays stranded, so that the last state knows about all the steps.
-/

set_option autoImplicit false

namespace ProctorEngine

/-! ## 1. Stranded work, and the steps that strand it

For one connection and one move. Most moves leave the threads where they are or are made by a thread
that has not left. -/

namespace Connection

/-- A thread has left with work in front of it. -/
def Stranded (conn : Connection) : Prop :=
  (conn.workerPc = .exited ∧ conn.flagDecisions ≠ []) ∨
    (conn.dispatcherPc = .exited ∧ conn.batch ≠ [])

instance {conn : Connection} : Decidable conn.Stranded := inferInstanceAs (Decidable (_ ∨ _))

/-- The move strands nothing. -/
def Orderly (conn : Connection) : Action → Prop
  | .checkWorkerStop => conn.workerPc = .top → conn.workerStop = true → conn.flagDecisions = []
  | .putFlag => conn.outbox ≠ [] → conn.workerPc ≠ .exited
  | .dispatchNext _ _ =>
    conn.dispatcherPc = .inBatch → conn.outbox = [] → conn.dispatcherStop = true →
      conn.batch = []
  | _ => True

section
variable {py : Pydantic} {sh : Shared} {conn : Connection}

/-- A worker that has left takes nothing any more. -/
theorem act_worker_exited (py : Pydantic) (sh : Shared) (hpc : conn.workerPc = .exited)
    (action : Action) :
    (conn.act py sh action).2.workerPc = .exited ∧
      ∃ flags, (conn.act py sh action).2.flagDecisions = conn.flagDecisions ++ flags := by
  have hsame : ∃ flags, conn.flagDecisions = conn.flagDecisions ++ flags := ⟨[], by simp⟩
  cases action <;>
    simp only [Connection.act, receive, disconnect, joinWorker, joinDispatcher,
      checkDispatcherStop, drain, dispatchNext, putFlag, checkWorkerStop, getFlag, loadSession,
      commitFlag, beginShutdown] <;>
    repeat' split
  all_goals first
    | exact ⟨hpc, hsame⟩
    | exact ⟨hpc, _, rfl⟩
    -- the guard of the move contradicts `hpc`
    | simp_all

/-- A dispatcher that has left keeps what is left of its batch. -/
theorem act_dispatcher_exited (py : Pydantic) (sh : Shared)
    (hpc : conn.dispatcherPc = .exited) (action : Action) :
    (conn.act py sh action).2.dispatcherPc = .exited ∧
      (conn.act py sh action).2.batch = conn.batch := by
  cases action <;>
    simp only [Connection.act, receive, disconnect, joinWorker, joinDispatcher,
      checkDispatcherStop, drain, dispatchNext, putFlag, checkWorkerStop, getFlag, loadSession,
      commitFlag, beginShutdown] <;>
    repeat' split
  all_goals first
    | exact ⟨hpc, rfl⟩
    | simp_all

/-- **Stranded work stays stranded.** -/
theorem Stranded.act (h : conn.Stranded) (action : Action) :
    (conn.act py sh action).2.Stranded := by
  rcases h with ⟨hpc, hqueue⟩ | ⟨hpc, hbatch⟩
  · obtain ⟨hpc', flags, hqueue'⟩ := act_worker_exited py sh hpc action
    refine .inl ⟨hpc', ?_⟩
    rw [hqueue']
    exact fun hnil => hqueue (List.append_eq_nil_iff.mp hnil).1
  · obtain ⟨hpc', hbatch'⟩ := act_dispatcher_exited py sh hpc action
    exact .inr ⟨hpc', hbatch' ▸ hbatch⟩

/-- A move that changes neither thread's place nor its work strands nothing. -/
theorem not_stranded_of_eq {conn' : Connection} (hnot : ¬ conn.Stranded)
    (hworker : conn'.workerPc = .exited → conn.workerPc = .exited ∧
      conn'.flagDecisions = conn.flagDecisions)
    (hdispatcher : conn'.dispatcherPc = .exited → conn.dispatcherPc = .exited ∧
      conn'.batch = conn.batch) : ¬ conn'.Stranded := by
  rintro (⟨hpc, hqueue⟩ | ⟨hpc, hbatch⟩)
  · obtain ⟨hpc₀, hsame⟩ := hworker hpc
    exact hnot (.inl ⟨hpc₀, hsame ▸ hqueue⟩)
  · obtain ⟨hpc₀, hsame⟩ := hdispatcher hpc
    exact hnot (.inr ⟨hpc₀, hsame ▸ hbatch⟩)

theorem not_stranded_of_handler {action : Action} (hnot : ¬ conn.Stranded)
    (h : action.IsHandler) : ¬ (conn.act py sh action).2.Stranded := by
  have hframe : HandlerFrame conn (conn.act py sh action).2 := act_handlerFrame h
  apply not_stranded_of_eq hnot
  · intro hpc
    exact ⟨hframe.workerPc ▸ hpc, hframe.flagDecisions⟩
  · intro hpc
    exact ⟨hframe.dispatcherPc ▸ hpc, hframe.batch⟩

/-- The dispatcher strands what is left of its batch if it finds the stop. -/
theorem stranded_dispatchNext_iff (py : Pydantic) (sh : Shared) (hnot : ¬ conn.Stranded)
    (syntheticId : UUID) (answers : RunnerAnswers) :
    ¬ (conn.act py sh (.dispatchNext syntheticId answers)).2.Stranded ↔
      conn.Orderly (.dispatchNext syntheticId answers) := by
  simp only [Connection.act, dispatchNext, Orderly]
  by_cases hguard : conn.dispatcherPc = .inBatch ∧ conn.outbox = []
  · obtain ⟨hpc, houtbox⟩ := hguard
    have hworker : ¬ (conn.workerPc = .exited ∧ conn.flagDecisions ≠ []) :=
      fun hw => hnot (.inl hw)
    simp only [hpc, houtbox, and_self, if_true, true_implies]
    split
    · rename_i hbatch
      refine iff_of_true ?_ fun _ => hbatch
      rintro (hw | ⟨hexit, -⟩)
      · exact hworker hw
      · exact absurd hexit (by simp)
    · rename_i event batch hbatch
      cases hstop : conn.dispatcherStop with
      -- The stop is seen between two events, and the rest of the batch is left behind.
      | true =>
        refine iff_of_false (fun hn => hn (.inr ⟨rfl, ?_⟩)) ?_
        · simp [hbatch]
        · intro hempty
          exact absurd (hempty rfl) (by simp [hbatch])
      | false =>
        refine iff_of_true ?_ fun hfalse => absurd hfalse (by simp)
        rintro (hw | ⟨hexit, -⟩)
        · exact hworker hw
        · exact absurd hexit (by simp)
  · rw [if_neg hguard]
    exact iff_of_true hnot fun hpc houtbox => absurd ⟨hpc, houtbox⟩ hguard

/-- The dispatcher strands a flag it puts for a worker that has left. -/
theorem stranded_putFlag_iff (py : Pydantic) (sh : Shared) (hnot : ¬ conn.Stranded) :
    ¬ (conn.act py sh .putFlag).2.Stranded ↔ conn.Orderly .putFlag := by
  simp only [Connection.act, putFlag, Orderly]
  split
  · rename_i houtbox
    exact iff_of_true hnot fun hne => absurd houtbox hne
  · rename_i flag outbox houtbox
    have hdispatcher : ¬ (conn.dispatcherPc = .exited ∧ conn.batch ≠ []) :=
      fun hd => hnot (.inr hd)
    simp [Stranded, houtbox, hdispatcher]

/-- The worker strands what is queued if it finds the stop. -/
theorem stranded_checkWorkerStop_iff (py : Pydantic) (sh : Shared) (hnot : ¬ conn.Stranded) :
    ¬ (conn.act py sh .checkWorkerStop).2.Stranded ↔ conn.Orderly .checkWorkerStop := by
  simp only [Connection.act, checkWorkerStop, Orderly]
  by_cases hpc : conn.workerPc = .top
  · have hdispatcher : ¬ (conn.dispatcherPc = .exited ∧ conn.batch ≠ []) :=
      fun hd => hnot (.inr hd)
    cases hstop : conn.workerStop <;> simp [Stranded, hpc, hdispatcher]
  · rw [if_neg hpc]
    exact iff_of_true hnot fun htop => absurd htop hpc

/-- **A move strands work exactly when it is not orderly.** -/
theorem stranded_act_iff (py : Pydantic) (sh : Shared) (h : conn.Accounted)
    (hnot : ¬ conn.Stranded) (action : Action) :
    ¬ (conn.act py sh action).2.Stranded ↔ conn.Orderly action := by
  cases action with
  | receive now frame => exact iff_of_true (not_stranded_of_handler hnot trivial) trivial
  | disconnect => exact iff_of_true (not_stranded_of_handler hnot trivial) trivial
  | joinWorker timedOut => exact iff_of_true (not_stranded_of_handler hnot trivial) trivial
  | joinDispatcher timedOut => exact iff_of_true (not_stranded_of_handler hnot trivial) trivial
  -- the dispatcher leaves here too, but between two batches
  | checkDispatcherStop =>
    refine iff_of_true ?_ trivial
    simp only [Connection.act, checkDispatcherStop]
    split
    · rename_i hpc
      rintro (hstranded | ⟨-, hbatch⟩)
      · exact hnot (.inl hstranded)
      · exact hbatch (h.idleBatch (.inl hpc))
    · exact hnot
  | drain =>
    refine iff_of_true ?_ trivial
    simp only [Connection.act, drain]
    split
    · rintro (hstranded | ⟨hpc, -⟩)
      · exact hnot (.inl hstranded)
      · exact absurd hpc (by simp)
    · exact hnot
  | dispatchNext syntheticId answers =>
    exact stranded_dispatchNext_iff py sh hnot syntheticId answers
  | putFlag => exact stranded_putFlag_iff py sh hnot
  | checkWorkerStop => exact stranded_checkWorkerStop_iff py sh hnot
  -- the worker takes work and does not leave
  | getFlag =>
    refine iff_of_true (not_stranded_of_eq hnot ?_ ?_) trivial <;>
      simp only [Connection.act, getFlag] <;> repeat' split
    all_goals first
      | exact fun hpc => ⟨hpc, rfl⟩
      | exact fun hpc => absurd hpc (by simp)
  | loadSession =>
    refine iff_of_true (not_stranded_of_eq hnot ?_ ?_) trivial <;>
      simp only [Connection.act, loadSession] <;> repeat' split
    all_goals first
      | exact fun hpc => ⟨hpc, rfl⟩
      | exact fun hpc => absurd hpc (by simp)
  | commitFlag c =>
    refine iff_of_true (not_stranded_of_eq hnot ?_ ?_) trivial <;>
      simp only [Connection.act, commitFlag] <;> split
    all_goals first
      | exact fun hpc => ⟨hpc, rfl⟩
      | exact fun hpc => absurd hpc (by simp)

end

end Connection

/-! ## 2. What a finished connection must have done

`Complete` speaks of events, flags and rows, `Stranded` of threads and queues. Between them are the
accounts of the pipeline (`Accounted`), that the handler waits for its threads (`Joined`), and that
a commit that goes through is one row (`Recorded`). -/

namespace Connection

/-- Every attempt added one flag row, of its own and of the connection's session, and the row
    is in the database. -/
structure Recorded (sh : Shared) (conn : Connection) : Prop where
  rows : ∀ a ∈ conn.attempts, ∃ severity examSession flagId, examSession.id = conn.claims.sid ∧
    a.flags = [flagOf a.item.decision examSession severity flagId]
  stored : ∀ a ∈ conn.attempts, ∀ f ∈ a.flags, f ∈ sh.db.flags
  distinct : (conn.attempts.flatMap (·.flags)).Nodup

/-- Nothing was lost: every event drained was dispatched, every flag put was persisted by
    exactly one attempt, and nothing waits. -/
structure Complete (sh : Shared) (conn : Connection) : Prop extends Recorded sh conn where
  dispatched : conn.dispatched.map (·.toBufferedEvent) = conn.drained
  outbox : conn.outbox = []
  queue : conn.flagDecisions = []
  persisted : conn.attempts.map (·.item) = conn.put

/-- Without a timeout the handler waits for its threads. -/
structure Joined (conn : Connection) : Prop where
  worker : conn.handler = .joiningDispatcher ∨ conn.handler = .finished →
    conn.workerPc = .exited
  dispatcher : conn.handler = .finished → conn.dispatcherPc = .exited

section
variable {py : Pydantic} {sh : Shared} {conn : Connection}

theorem act_joining {action : Action}
    (h : (conn.act py sh action).2.handler = .joiningDispatcher ∨
      (conn.act py sh action).2.handler = .finished) :
    conn.handler = .joiningDispatcher ∨ conn.handler = .finished ∨
      ∃ timedOut, action = .joinWorker timedOut ∧
        (conn.workerPc = .exited ∨ timedOut = true) := by
  cases action <;>
    simp only [Connection.act, receive, disconnect, joinWorker, joinDispatcher,
      checkDispatcherStop, drain, dispatchNext, putFlag, checkWorkerStop, getFlag, loadSession,
      commitFlag, beginShutdown] at h <;>
    repeat' split at h
  case joinWorker.isTrue timedOut hguard =>
    exact .inr (.inr ⟨timedOut, rfl, hguard.2⟩)
  all_goals first
    | exact h.imp_right .inl
    | simp_all

theorem act_finished {action : Action} (h : (conn.act py sh action).2.handler = .finished) :
    conn.handler = .finished ∨
      ∃ timedOut, action = .joinDispatcher timedOut ∧ conn.handler = .joiningDispatcher ∧
        (conn.dispatcherPc = .exited ∨ timedOut = true) := by
  cases action <;>
    simp only [Connection.act, receive, disconnect, joinWorker, joinDispatcher,
      checkDispatcherStop, drain, dispatchNext, putFlag, checkWorkerStop, getFlag, loadSession,
      commitFlag, beginShutdown] at h <;>
    repeat' split at h
  all_goals simp_all

theorem Joined.act (h : conn.Joined) (action : Action)
    (hworker : ∀ timedOut, action = .joinWorker timedOut → timedOut = false)
    (hdispatcher : ∀ timedOut, action = .joinDispatcher timedOut → timedOut = false) :
    (conn.act py sh action).2.Joined := by
  refine ⟨?_, ?_⟩
  · intro hpc
    have hexited : conn.workerPc = .exited := by
      rcases act_joining hpc with hjoin | hfin | ⟨timedOut, haction, hexit | htimeout⟩
      · exact h.worker (.inl hjoin)
      · exact h.worker (.inr hfin)
      · exact hexit
      · exact absurd (hworker timedOut haction) (by simp [htimeout])
    exact (act_worker_exited _ _ hexited action).1
  · intro hpc
    have hexited : conn.dispatcherPc = .exited := by
      rcases act_finished hpc with hfin | ⟨timedOut, haction, -, hexit | htimeout⟩
      · exact h.dispatcher hfin
      · exact hexit
      · exact absurd (hdispatcher timedOut haction) (by simp [htimeout])
    exact (act_dispatcher_exited _ _ hexited action).1

/-- Flags of other steps do not disturb the record. -/
theorem Recorded.mono {sh' : Shared} (h : Recorded sh conn)
    (hflags : ∀ f ∈ sh.db.flags, f ∈ sh'.db.flags) : Recorded sh' conn :=
  ⟨h.rows, fun a ha f hf => hflags f (h.stored a ha f hf), h.distinct⟩

/-- A commit that goes through adds a row nobody has recorded. -/
theorem Recorded.act (h : Recorded sh conn) (hlinked : Linked sh conn) (action : Action)
    (hflags : ∀ f ∈ sh.db.flags, f ∈ (conn.act py sh action).1.db.flags)
    (hpersistable : ∀ c, action = .commitFlag c → ∀ item examSession,
      conn.workerPc = .loaded item examSession → Persistable sh.db examSession item c) :
    Recorded (conn.act py sh action).1 (conn.act py sh action).2 := by
  obtain ⟨hclaims, -⟩ := act_fixed py sh conn action
  rcases act_attempts py hlinked action with
    ⟨hsame, -⟩ | ⟨c, item, examSession, haction, hpc, hdb, hnew⟩
  · have hkept := h.mono hflags
    exact ⟨by rw [hsame, hclaims]; exact hkept.rows, by rw [hsame]; exact hkept.stored,
      by rw [hsame]; exact hkept.distinct⟩
  · have hid := hlinked.loaded item examSession hpc
    have hs : (sh.db.getExamSession examSession.id).isSome := hid.symm ▸ hlinked.session
    have hrows : PersistedRows sh.db examSession item c
        (persistLoaded sh.db examSession item c).db :=
      (hpersistable c haction item examSession hpc).persistedRows hs
    obtain ⟨severity, hflag⟩ := hrows.newFlags
    refine ⟨?_, ?_, ?_⟩
    · rw [hnew, hclaims]
      intro a ha
      rcases List.mem_append.mp ha with ha | ha
      · exact h.rows a ha
      · rw [List.mem_singleton.mp ha]
        exact ⟨severity, examSession, c.flagId, hid, hflag⟩
    · rw [hnew]
      intro a ha f hf
      rcases List.mem_append.mp ha with ha | ha
      · exact hflags f (h.stored a ha f hf)
      · rw [List.mem_singleton.mp ha] at hf
        rw [hdb]
        exact Table.mem_rows.mp (List.mem_of_mem_filter hf)
    · rw [hnew, List.flatMap_append, List.nodup_append]
      refine ⟨h.distinct, ?_, ?_⟩
      · simp only [List.flatMap_singleton, PersistAttempt.between, hflag]
        exact List.nodup_singleton _
      · intro f hf g hg hfg
        obtain ⟨a, ha, hfa⟩ := List.mem_flatMap.mp hf
        have hold : f ∈ sh.db.flags := h.stored a ha f hfa
        -- the new row passed the filter that keeps what was not there
        have hfresh : g ∉ sh.db.flags := by
          simp only [List.flatMap_singleton, PersistAttempt.between] at hg
          simpa using List.of_mem_filter hg
        exact hfresh (hfg ▸ hold)

/-- **A finished connection is complete exactly when nothing of it is stranded.** -/
theorem complete_iff_not_stranded (hacc : conn.Accounted) (hjoined : conn.Joined)
    (hrec : Recorded sh conn) (hfinished : conn.handler = .finished) :
    Complete sh conn ↔ ¬ conn.Stranded := by
  have hworker : conn.workerPc = .exited := hjoined.worker (.inr hfinished)
  have hdispatcher : conn.dispatcherPc = .exited := hjoined.dispatcher hfinished
  constructor
  · rintro h (⟨-, hqueue⟩ | ⟨-, hbatch⟩)
    · exact hqueue h.queue
    · have hdrained := hacc.drained
      rw [h.dispatched] at hdrained
      exact hbatch (List.self_eq_append_right.mp hdrained)
  · intro hnot
    have hbatch : conn.batch = [] := by
      by_contra hne
      exact hnot (.inr ⟨hdispatcher, hne⟩)
    have hqueue : conn.flagDecisions = [] := by
      by_contra hne
      exact hnot (.inl ⟨hworker, hne⟩)
    refine ⟨hrec, ?_, hacc.idleOutbox (by simp [hdispatcher]), hqueue, ?_⟩
    · rw [hacc.drained, hbatch, List.append_nil]
    · rw [hacc.put, hworker, hqueue]
      simp [WorkerPc.inHand]

end

end Connection

namespace System

/-- The step strands no work of the `i`-th connection. -/
def Orderly (i : Nat) (w : System) : Step → Prop
  | .on j action => j = i → ∀ conn, w.connections[i]? = some conn → conn.Orderly action
  | .connect _ _ _ _ => True

/-- No join of the `i`-th connection times out, and the database takes what its worker brings. -/
def Unfailing (i : Nat) (w : System) : Step → Prop
  | .on j (.joinWorker timedOut) => j = i → timedOut = false
  | .on j (.joinDispatcher timedOut) => j = i → timedOut = false
  | .on j (.commitFlag c) => j = i → ∀ conn, w.connections[i]? = some conn →
    ∀ item examSession, conn.workerPc = .loaded item examSession →
      Persistable w.shared.db examSession item c
  | _ => True

instance {i : Nat} {w : System} : DecidablePred (Unfailing i w)
  | .on j (.joinWorker timedOut) => inferInstanceAs (Decidable (j = i → timedOut = false))
  | .on j (.joinDispatcher timedOut) => inferInstanceAs (Decidable (j = i → timedOut = false))
  | .on j (.commitFlag c) =>
    match hslot : w.connections[i]? with
    | none => isTrue fun _ conn hconn => absurd (hslot.symm.trans hconn) (by simp)
    | some conn =>
      match hpc : conn.workerPc with
      | .loaded item examSession =>
        decidable_of_iff (j = i → Persistable w.shared.db examSession item c) <| by
          simp [Unfailing, hslot, hpc]
      | .notStarted | .top | .getting | .holding _ | .exited =>
        isTrue <| by simp [Unfailing, hslot, hpc]
  | .connect _ _ _ _ => isTrue trivial
  | .on _ (.receive _ _) | .on _ .disconnect | .on _ .checkDispatcherStop | .on _ .drain
  | .on _ (.dispatchNext _ _) | .on _ .putFlag | .on _ .checkWorkerStop | .on _ .getFlag
  | .on _ .loadSession => isTrue trivial

/-- The `i`-th connection, if there is one, satisfies `P`. -/
def At (i : Nat) (P : Connection → Prop) (w : System) : Prop :=
  ∀ conn, w.connections[i]? = some conn → P conn

section
variable {py : Pydantic} {w : System} {i : Nat} {l : Step} {P : Connection → Prop}

/-- The rule for an invariant of one connection. -/
theorem at_step (hP : At i P w)
    (hstart : ∀ claims examSession underOverride, P (.start claims examSession underOverride))
    (hact : ∀ action conn, l = .on i action → w.connections[i]? = some conn → P conn →
      P (conn.act py w.shared action).2) : At i P (w.step py l) := by
  intro conn hconn
  have hstep := connectionStep py w i l
  rw [hconn] at hstep
  generalize hslot : w.connections[i]? = slot at hstep
  cases hstep with
  | kept _ => exact hP conn hslot
  | started => exact hstart _ _ _
  | acted => exact hact _ _ rfl hslot (hP _ hslot)

theorem accounted_step (h : At i Connection.Accounted w) :
    At i Connection.Accounted (w.step py l) :=
  at_step h (fun _ _ _ => Connection.accounted_start) fun action _ _ _ hconn => hconn.act action

/-- Work stranded in one step is stranded in every later state. -/
theorem not_stranded_of_step (h : At i (fun conn => ¬ conn.Stranded) (w.step py l)) :
    At i (fun conn => ¬ conn.Stranded) w := by
  intro conn hconn hstranded
  have hstep := connectionStep py w i l
  rw [hconn] at hstep
  generalize hslot : (w.step py l).connections[i]? = slot at hstep
  cases hstep with
  | kept _ => exact h conn hslot hstranded
  | acted => exact h _ hslot (hstranded.act _)

theorem stranded_step_iff (hacc : At i Connection.Accounted w)
    (hnot : At i (fun conn => ¬ conn.Stranded) w) :
    At i (fun conn => ¬ conn.Stranded) (w.step py l) ↔ Orderly i w l := by
  have hstep := connectionStep py w i l
  generalize hslot : w.connections[i]? = slot at hstep
  generalize hslot' : (w.step py l).connections[i]? = slot' at hstep
  cases hstep with
  -- A step of another connection strands nothing here.
  | kept hkept =>
    refine iff_of_true (fun conn hconn => hnot conn (by rw [hslot, ← hslot', hconn])) ?_
    cases l with
    | connect => trivial
    | on j action =>
      intro hji conn hconn
      rw [hkept action (hji ▸ rfl)] at hslot
      exact absurd (hslot.symm.trans hconn) (by simp)
  | started =>
    refine iff_of_true ?_ trivial
    intro conn hconn
    obtain rfl := Option.some.inj (hslot'.symm.trans hconn)
    rintro (⟨hpc, hqueue⟩ | ⟨hpc, hbatch⟩)
    · exact hqueue rfl
    · exact hbatch rfl
  | @acted action conn =>
    have hiff := Connection.stranded_act_iff py w.shared (hacc conn hslot)
      (hnot conn hslot) action
    constructor
    · intro h _ conn' hconn'
      obtain rfl := Option.some.inj (hslot.symm.trans hconn')
      exact hiff.mp (h _ hslot')
    · intro horderly conn' hconn'
      obtain rfl := Option.some.inj (hslot'.symm.trans hconn')
      exact hiff.mpr (horderly rfl conn hslot)

theorem joined_step (h : At i Connection.Joined w) (hunfailing : Unfailing i w l) :
    At i Connection.Joined (w.step py l) := by
  refine at_step h ?_ ?_
  · intro _ _ underOverride
    cases underOverride <;> exact ⟨fun hpc => absurd hpc (by simp [Connection.start]),
      fun hpc => absurd hpc (by simp [Connection.start])⟩
  · intro action conn hl _ hconn
    subst hl
    refine hconn.act action ?_ ?_
    · rintro timedOut rfl
      exact hunfailing rfl
    · rintro timedOut rfl
      exact hunfailing rfl

theorem recorded_step (hlinked : w.Each Connection.Linked)
    (h : At i (Connection.Recorded w.shared) w) (hunfailing : Unfailing i w l) :
    At i (Connection.Recorded (w.step py l).shared) (w.step py l) := by
  have hmono := fun f => flags_mono py (f := f) l hlinked
  intro conn hconn
  have hstep := connectionStep py w i l
  rw [hconn] at hstep
  generalize hslot : w.connections[i]? = slot at hstep
  cases hstep with
  | kept _ => exact (h conn hslot).mono hmono
  | started => exact ⟨fun a ha => absurd ha List.not_mem_nil,
      fun a ha => absurd ha List.not_mem_nil, List.nodup_nil⟩
  | @acted action before =>
    have hshared : (w.step py (.on i action)).shared = (before.act py w.shared action).1 := by
      simp only [step, hslot]
    rw [hshared]
    refine (h before hslot).act (hlinked before (List.mem_of_getElem? hslot)) action
      (fun f hf => hshared ▸ hmono f hf) ?_
    rintro c rfl item examSession hpc
    exact hunfailing rfl before hslot item examSession hpc

/-! ## 3. The verdict

The three invariants hold in every state of a run without timeouts and database failures, and in a
finished state they turn the one property into the other. -/

/-- What holds of the `i`-th connection in every state of an unfailing run. -/
structure Sound (i : Nat) (w : System) : Prop where
  linked : w.Each Connection.Linked
  accounted : At i Connection.Accounted w
  joined : At i Connection.Joined w
  recorded : At i (Connection.Recorded w.shared) w

theorem sound_idle {eventBuffer : TelemetryEventBuffer} {db : Database} :
    Sound i (idle eventBuffer db) where
  linked _ hconn := absurd hconn List.not_mem_nil
  accounted _ hconn := absurd hconn (by simp [idle])
  joined _ hconn := absurd hconn (by simp [idle])
  recorded _ hconn := absurd hconn (by simp [idle])

theorem sound_step (h : Sound i w) (hunfailing : Unfailing i w l) : Sound i (w.step py l) where
  linked := linked_step l h.linked
  accounted := accounted_step h.accounted
  joined := joined_step h.joined hunfailing
  recorded := recorded_step h.linked h.recorded hunfailing

end

open Run in
/-- **Without timeouts and database failures, a connection whose handler has finished has lost
    nothing exactly when none of its steps stranded any work.** The handler stops the worker first
    and the dispatcher second, so either can leave something behind that nobody takes up. -/
theorem complete_iff_orderly {py : Pydantic} {eventBuffer : TelemetryEventBuffer} {db : Database}
    {steps : List Step} {i : Nat} {conn : Connection}
    (hunfailing : EachStep (step py) (Unfailing i) (idle eventBuffer db) steps)
    (hconn : (final (step py) (idle eventBuffer db) steps).connections[i]? = some conn)
    (hfinished : conn.handler = .finished) :
    conn.Complete (final (step py) (idle eventBuffer db) steps).shared ↔
      EachStep (step py) (Orderly i) (idle eventBuffer db) steps := by
  have hsound : Sound i (final (step py) (idle eventBuffer db) steps) :=
    (always_of_eachStep (fun w l h hl => sound_step h hl) sound_idle hunfailing).final
  rw [Connection.complete_iff_not_stranded (hsound.accounted conn hconn)
    (hsound.joined conn hconn) (hsound.recorded conn hconn) hfinished]
  -- not stranded at the end, never stranded, no step stranding anything
  have hend : ¬ conn.Stranded ↔
      At i (fun conn => ¬ conn.Stranded) (final (step py) (idle eventBuffer db) steps) := by
    constructor
    · intro h conn' hconn'
      exact Option.some.inj (hconn.symm.trans hconn') ▸ h
    · exact fun h => h conn hconn
  rw [hend, ← always_iff_final fun w l => not_stranded_of_step]
  exact always_iff_eachStep (I := At i Connection.Accounted)
    (fun w l h => accounted_step h) (fun w l h hnot => stranded_step_iff h hnot)
    (fun _ hconn => absurd hconn (by simp [idle])) (fun _ hconn => absurd hconn (by simp [idle]))

/-- A `blur` that is persisted before the client leaves. -/
def orderlySteps : List Step :=
  [.connect firstClaims true 0 0, .on 0 (.receive 0 (some blurFrame)),
    .on 0 .checkDispatcherStop, .on 0 .drain, .on 0 (.dispatchNext 10 .unused), .on 0 .putFlag,
    .on 0 .checkWorkerStop, .on 0 .getFlag, .on 0 .loadSession, .on 0 (.commitFlag ⟨20, 0, true⟩),
    .on 0 (.dispatchNext 0 .unused), .on 0 .disconnect, .on 0 .checkWorkerStop,
    .on 0 (.joinWorker false), .on 0 .checkDispatcherStop, .on 0 (.joinDispatcher false)]

open Run in
theorem orderlySteps_complete :
    ∃ conn, (final (step .strict) (idle appEventBuffer activeDatabase)
        orderlySteps).connections[0]? = some conn ∧ conn.attempts.length = 1 ∧
      (conn.Complete (final (step .strict) (idle appEventBuffer activeDatabase)
          orderlySteps).shared ↔
        EachStep (step .strict) (Orderly 0) (idle appEventBuffer activeDatabase) orderlySteps) := by
  have hrun : ((final (step .strict) (idle appEventBuffer activeDatabase)
      orderlySteps).connections[0]?).any fun conn =>
        conn.handler = .finished ∧ conn.attempts.length = 1 := by decide +kernel
  obtain ⟨conn, hconn, hend⟩ := (Option.any_eq_true _ _).mp hrun
  obtain ⟨hfinished, hattempts⟩ := of_decide_eq_true hend
  exact ⟨conn, hconn, hattempts, complete_iff_orderly (by decide +kernel) hconn hfinished⟩

/-- The same `blur` dispatched while the client leaves: the worker finds its flag set and an
    empty queue, and the decision is put on the queue afterwards. -/
def overtakenSteps : List Step :=
  [.connect firstClaims true 0 0, .on 0 (.receive 0 (some blurFrame)),
    .on 0 .checkDispatcherStop, .on 0 .drain, .on 0 (.dispatchNext 10 .unused), .on 0 .disconnect,
    .on 0 .checkWorkerStop, .on 0 .putFlag, .on 0 (.joinWorker false),
    .on 0 (.dispatchNext 0 .unused), .on 0 .checkDispatcherStop, .on 0 (.joinDispatcher false)]

open Run in
/-- The worker is stopped before the dispatcher, so what the dispatcher raises in between stays
    on the queue. -/
theorem overtakenSteps_not_complete :
    ¬ ∀ (py : Pydantic) (eventBuffer : TelemetryEventBuffer) (db : Database) (steps : List Step)
      (i : Nat) (conn : Connection),
      EachStep (step py) (Unfailing i) (idle eventBuffer db) steps →
      (final (step py) (idle eventBuffer db) steps).connections[i]? = some conn →
      conn.handler = .finished →
        conn.Complete (final (step py) (idle eventBuffer db) steps).shared := by
  intro h
  have hrun : ((final (step .strict) (idle appEventBuffer activeDatabase)
      overtakenSteps).connections[0]?).any fun conn =>
        conn.handler = .finished ∧ conn.flagDecisions ≠ [] := by decide +kernel
  obtain ⟨conn, hconn, hend⟩ := (Option.any_eq_true _ _).mp hrun
  obtain ⟨hfinished, hqueue⟩ := of_decide_eq_true hend
  have hcomplete := h .strict appEventBuffer activeDatabase overtakenSteps 0 conn
    (by decide +kernel) hconn hfinished
  exact hqueue hcomplete.queue

end System

end ProctorEngine
