import ProctorEngine.Orchestration.Pipeline

/-!
# One buffer, many sessions

`api.py` wires one `TelemetryEventBuffer` for the process, every connection pushes into it, and
every dispatcher drains *all* of it: the event a student sends is judged by whichever
dispatcher gets there first, and its rows are stamped with that dispatcher's session. The rows
are therefore right whenever the dispatch was (`Filed`), and **isolation is a matter of what
the buffer holds when it is drained**: `OwnDrain` says that everything in it was received on
connections of the draining dispatcher's session.
-/

set_option autoImplicit false

namespace ProctorEngine

/-! ## 1. Isolation

`Isolated` is what the sessions are promised, `OwnDrain` the condition on a step, and `Separated`
the invariant between the two. -/

/-- Every envelope received on a connection of session `s` is dispatched only to aggregators of
    `s`, and the rows persisted because of it are rows of `s`: the flags of the decisions it
    contributes to, and its own telemetry row. -/
structure System.Isolated (w : System) : Prop where
  dispatched : ∀ r ∈ w.shared.received, ∀ conn ∈ w.connections, ∀ event ∈ conn.dispatched,
    event.toBufferedEvent = r.2 → conn.claims.sid = r.1
  flags : ∀ r ∈ w.shared.received, ∀ conn ∈ w.connections, ∀ event ∈ conn.dispatched,
    event.toBufferedEvent = r.2 → ∀ a ∈ conn.attempts,
      event.syntheticId ∈ a.item.decision.contributingEventIds →
        ∀ f ∈ a.flags, f.examSessionId = r.1
  telemetryEvents : ∀ r ∈ w.shared.received, ∀ conn ∈ w.connections, ∀ event ∈ conn.dispatched,
    event.toBufferedEvent = r.2 → ∀ a ∈ conn.attempts, event ∈ a.item.contributingEvents →
      ∀ row ∈ a.telemetryEvents, row.examSessionId = r.1

/-- A drain finds nothing in the buffer but what was received on connections of its own
    session. -/
def System.OwnDrain (w : System) : Step → Prop
  | .on i .drain => ∀ conn, w.connections[i]? = some conn → conn.dispatcherPc = .draining →
    ∀ r ∈ w.shared.received, r.2 ∈ w.shared.eventBuffer.buffer → r.1 = conn.claims.sid
  | _ => True

instance {w : System} : DecidablePred w.OwnDrain
  | .on i .drain =>
    match hslot : w.connections[i]? with
    | none => isTrue fun _ hconn => absurd (hslot.symm.trans hconn) (by simp)
    | some conn =>
      decidable_of_iff (conn.dispatcherPc = .draining → ∀ r ∈ w.shared.received,
        r.2 ∈ w.shared.eventBuffer.buffer → r.1 = conn.claims.sid) <| by
          simp [System.OwnDrain, hslot]
  | .connect _ _ _ _ => isTrue trivial
  | .on _ (.receive _ _) | .on _ .disconnect | .on _ (.joinWorker _) | .on _ (.joinDispatcher _)
  | .on _ .checkDispatcherStop | .on _ (.dispatchNext _ _) | .on _ .putFlag
  | .on _ .checkWorkerStop | .on _ .getFlag | .on _ .loadSession | .on _ (.commitFlag _) =>
    isTrue trivial

/-! ## 2. Events

An event carries the number it was pushed with, and the log says for which session it was received.
The log only grows, so what it says of an event stays true. -/

/-- Sequence numbers in the buffer are behind its counter. -/
def Shared.Stamped (sh : Shared) : Prop :=
  ∀ e ∈ sh.eventBuffer.buffer, e.seq < sh.eventBuffer.seq

namespace Connection

/-- Everything the connection has drained was received on connections of its session. -/
def Owns (sh : Shared) (conn : Connection) : Prop :=
  ∀ e ∈ conn.drained, e.seq < sh.eventBuffer.seq ∧
    ∀ s, (s, e) ∈ sh.received → s = conn.claims.sid

section
variable {py : Pydantic} {sh sh' : Shared} {conn other : Connection} {action : Action}

theorem SharedEffect.stamped (h : SharedEffect sh conn action sh') (hstamped : sh.Stamped) :
    sh'.Stamped := by
  cases h with
  | none => exact hstamped
  | pushed message =>
    intro e he
    simp only [TelemetryEventBuffer.push_seq]
    rcases TelemetryEventBuffer.mem_push he with he | rfl
    · exact Nat.lt_succ_of_lt (hstamped e he)
    · exact Nat.lt_succ_self _
  | drained _ => exact fun e he => absurd he List.not_mem_nil
  | committed _ => exact hstamped

/-- A push is a new event, and so does not change whose the drained ones are. -/
theorem SharedEffect.owns (h : SharedEffect sh conn action sh') (howns : Owns sh other) :
    Owns sh' other := by
  cases h with
  | none => exact howns
  | pushed message =>
    intro e he
    obtain ⟨hseq, hsession⟩ := howns e he
    refine ⟨?_, ?_⟩
    · simp only [TelemetryEventBuffer.push_seq]
      exact Nat.lt_succ_of_lt hseq
    · intro s hs
      rcases List.mem_append.mp hs with hs | hs
      · exact hsession s hs
      · exfalso
        obtain ⟨e', he', heq⟩ := List.mem_map.mp hs
        obtain ⟨-, rfl⟩ := Prod.mk.inj heq
        have hle : sh.eventBuffer.seq ≤ e'.seq := by simpa using List.of_mem_filter he'
        omega
  | drained _ => exact howns
  | committed _ => exact howns

/-- Only a drain adds to what was drained. -/
theorem act_drained (py : Pydantic) (sh : Shared) (conn : Connection) (action : Action) :
    (conn.act py sh action).2.drained = conn.drained ∨
      (action = .drain ∧ conn.dispatcherPc = .draining ∧
        (conn.act py sh action).2.drained = conn.drained ++ sh.eventBuffer.buffer) := by
  cases action <;>
    simp only [Connection.act, receive, disconnect, joinWorker, joinDispatcher,
      checkDispatcherStop, drain, dispatchNext, putFlag, checkWorkerStop, getFlag, loadSession,
      commitFlag, beginShutdown]
  case drain =>
    split
    · rename_i hpc
      exact .inr ⟨trivial, hpc, rfl⟩
    · exact .inl rfl
  all_goals
    repeat' split
    all_goals exact .inl rfl

/-! ## 3. Rows

The worker stamps what it writes with its own session. No step writes rows of a session that is not
its connection's. -/

/-- What the worker has written is filed under its session. -/
def Filed (conn : Connection) : Prop :=
  ∀ a ∈ conn.attempts, (∀ f ∈ a.flags, f.examSessionId = conn.claims.sid) ∧
    ∀ row ∈ a.telemetryEvents, row.examSessionId = conn.claims.sid

/-- The rows a worker adds carry the session it loaded. -/
theorem filed_between {db : Database} {examSession : ExamSession} {item : PersistedFlag}
    {c : PersistChoices} (hs : (db.getExamSession examSession.id).isSome) :
    (∀ f ∈ (PersistAttempt.between db (persistLoaded db examSession item c).db item).flags,
        f.examSessionId = examSession.id) ∧
      ∀ row ∈
          (PersistAttempt.between db (persistLoaded db examSession item c).db item).telemetryEvents,
        row.examSessionId = examSession.id := by
  rcases persistLoaded_db item c hs with ⟨-, hdb⟩ | ⟨-, hrows⟩
  -- nothing was committed, so nothing is new
  · rw [hdb]
    constructor
    · intro f hf
      obtain ⟨hmem, hnew⟩ := List.mem_filter.mp hf
      exact absurd (Table.mem_rows.mp hmem) (by simpa using hnew)
    · intro row hrow
      obtain ⟨hmem, hnew⟩ := List.mem_filter.mp hrow
      exact absurd (Table.mem_rows.mp hmem) (by simpa using hnew)
  · constructor
    · obtain ⟨severity, hflags⟩ := hrows.newFlags
      intro f hf
      rw [PersistAttempt.between, hflags] at hf
      rw [List.mem_singleton.mp hf]
      rfl
    · intro row hrow
      obtain ⟨hmem, hnew⟩ := List.mem_filter.mp hrow
      rcases hrows.telemetryEvents row hmem with hold | ⟨e, -, hbuild⟩
      · exact absurd hold (by simpa using hnew)
      · exact (buildTelemetryEventRow_eq_some hbuild).2

theorem Filed.act (h : conn.Filed) (hlinked : Linked sh conn) (action : Action) :
    (conn.act py sh action).2.Filed := by
  obtain ⟨hclaims, -⟩ := act_fixed py sh conn action
  intro a ha
  rw [hclaims]
  rcases act_attempts py hlinked action with
    ⟨hsame, -⟩ | ⟨c, item, examSession, -, hpc, -, hnew⟩
  · exact h a (hsame ▸ ha)
  · have hid := hlinked.loaded item examSession hpc
    rw [hnew] at ha
    rcases List.mem_append.mp ha with ha | ha
    · exact h a ha
    · rw [List.mem_singleton.mp ha, ← hid]
      exact filed_between (hid.symm ▸ hlinked.session)

end

end Connection

/-! ## 4. The verdict

What `Separated` says of connections, `Isolated` says of dispatches and rows. -/

namespace System

/-- The invariant of a run whose drains are all own drains. -/
structure Separated (w : System) : Prop where
  stamped : w.shared.Stamped
  linked : w.Each Connection.Linked
  accounted : w.Each fun _ conn => conn.Accounted
  owns : w.Each Connection.Owns
  filed : w.Each fun _ conn => conn.Filed

section
variable {py : Pydantic} {w : System} {l : Step}

theorem stamped_step (h : w.shared.Stamped) : (w.step py l).shared.Stamped := by
  have heffect := step_effect py w l
  generalize w.step py l = w' at heffect
  cases heffect with
  | idle _ => exact h
  | blocked _ => exact h
  | admitted _ _ => exact h
  | acted _ => exact (Connection.act_sharedEffect py _ h _).stamped h

theorem separated_step (h : w.Separated) (hown : w.OwnDrain l) : (w.step py l).Separated where
  stamped := stamped_step h.stamped
  linked := linked_step l h.linked
  accounted := each_step l h.accounted (fun _ _ _ hconn => hconn)
    (fun _ _ _ _ _ _ => Connection.accounted_start) (fun _ action _ _ _ hconn => hconn.act action)
    fun _ _ _ _ _ _ _ hother => hother
  owns := by
    refine each_step l h.owns (fun _ _ _ hconn => hconn) ?_ ?_ ?_
    · exact fun _ _ _ _ _ _ e he => absurd he List.not_mem_nil
    · intro i action conn hl hi hconn
      have hkept := (Connection.act_sharedEffect py conn h.stamped action).owns
        hconn
      obtain ⟨hclaims, -⟩ := Connection.act_fixed py w.shared conn action
      -- only a drain gives a connection events it did not have
      rcases Connection.act_drained py w.shared conn action with hsame | ⟨haction, hpc, hmore⟩
      · intro e he
        rw [hclaims]
        exact hkept e (hsame ▸ he)
      · -- the drain takes the buffer, which the guard says is the session's own
        subst hl haction
        intro e he
        rw [hmore] at he
        rw [hclaims]
        rcases List.mem_append.mp he with he | he
        · exact hkept e he
        · have hshared : (conn.act py w.shared .drain).1 =
              { w.shared with eventBuffer := w.shared.eventBuffer.drain.2 } := by
            simp only [Connection.act, Connection.drain, hpc, if_true]
          rw [hshared]
          exact ⟨h.stamped e he, fun s hs => hown conn hi hpc (s, e) hs he⟩
    · exact fun _ action _ _ _ other _ hother =>
        (Connection.act_sharedEffect py _ h.stamped action).owns hother
  filed := each_step l h.filed (fun _ _ _ hconn => hconn)
    (fun _ _ _ _ _ _ _ ha => absurd ha List.not_mem_nil)
    (fun _ action conn _ hi hconn =>
      hconn.act (h.linked conn (List.mem_of_getElem? hi)) action)
    fun _ _ _ _ _ _ _ hother => hother

theorem Separated.isolated (h : w.Separated) : w.Isolated := by
  have hdispatched : ∀ r ∈ w.shared.received, ∀ conn ∈ w.connections,
      ∀ event ∈ conn.dispatched, event.toBufferedEvent = r.2 → conn.claims.sid = r.1 := by
    intro r hr conn hconn event hevent heq
    have hdrained : r.2 ∈ conn.drained := by
      rw [(h.accounted conn hconn).drained, ← heq]
      exact List.mem_append_left _ (List.mem_map_of_mem hevent)
    exact ((h.owns conn hconn r.2 hdrained).2 r.1 hr).symm
  refine ⟨hdispatched, ?_, ?_⟩
  · intro r hr conn hconn event hevent heq a ha _ f hf
    rw [← hdispatched r hr conn hconn event hevent heq]
    exact (h.filed conn hconn a ha).1 f hf
  · intro r hr conn hconn event hevent heq a ha _ row hrow
    rw [← hdispatched r hr conn hconn event hevent heq]
    exact (h.filed conn hconn a ha).2 row hrow

end

open Run in
/-- **Sessions stay apart in every run in which no dispatcher drains another session's events.**
    There is one buffer for the whole process, and a dispatcher that drains it takes whatever is in
    it; so what `Separated` needs is exactly what a drain finds. -/
theorem isolated_of_ownDrains {py : Pydantic} {maxlen : Nat} {hmaxlen : 0 < maxlen}
    {db : Database} {steps : List Step}
    (hown : EachStep (step py) OwnDrain (idle (.new maxlen hmaxlen) db) steps) :
    Always (step py) Isolated (idle (.new maxlen hmaxlen) db) steps := by
  have hidle : (idle (.new maxlen hmaxlen) db).Separated :=
    ⟨fun _ he => absurd he List.not_mem_nil, fun _ hconn => absurd hconn List.not_mem_nil,
      fun _ hconn => absurd hconn List.not_mem_nil, fun _ hconn => absurd hconn List.not_mem_nil,
      fun _ hconn => absurd hconn List.not_mem_nil⟩
  exact (always_of_eachStep (fun w l h hl => separated_step h hl) hidle hown).mono
    fun w h => h.isolated

/-- The first session of `activeDatabase` and a second one beside it. -/
def twoSessions : Database :=
  { activeDatabase with
    examSessions :=
      { rows := [{ ExamSession.launched 1 2 3 "midterm" 0 with status := .active },
          { ExamSession.launched 4 5 3 "midterm" 0 with status := .active }]
        distinct := by decide } }

/-- The token of session 4. -/
def secondClaims : SessionClaims := ⟨"00000000-0000-0000-0000-000000000004", 4⟩

/-- A `blur` of session 1, drained by its own dispatcher and persisted, with session 4
    connected. -/
def ownSteps : List Step :=
  [.connect firstClaims true 0 0, .connect secondClaims true 0 0,
    .on 0 (.receive 0 (some blurFrame)), .on 0 .checkDispatcherStop, .on 0 .drain,
    .on 0 (.dispatchNext 10 .unused), .on 0 .putFlag, .on 0 .checkWorkerStop, .on 0 .getFlag,
    .on 0 .loadSession, .on 0 (.commitFlag ⟨20, 0, true⟩)]

open Run in
theorem ownSteps_isolated :
    Always (step .strict) Isolated (idle appEventBuffer twoSessions) ownSteps :=
  isolated_of_ownDrains (by decide +kernel)

/-- The same `blur`, with the dispatcher of session 4 faster. -/
def foreignSteps : List Step :=
  [.connect firstClaims true 0 0, .connect secondClaims true 0 0,
    .on 0 (.receive 0 (some blurFrame)), .on 1 .checkDispatcherStop, .on 1 .drain,
    .on 1 (.dispatchNext 10 .unused)]

open Run in
/-- Session 4 is charged with what the student of session 1 did. -/
theorem foreignSteps_not_isolated :
    ¬ ∀ (py : Pydantic) (db : Database) (steps : List Step),
      Always (step py) Isolated (idle appEventBuffer db) steps := by
  intro h
  have hend := (h .strict twoSessions foreignSteps).final.dispatched
  have hrun : (final (step .strict) (idle appEventBuffer twoSessions)
      foreignSteps).shared.received.any (fun r =>
        (final (step .strict) (idle appEventBuffer twoSessions)
          foreignSteps).connections.any fun conn =>
            conn.dispatched.any fun event =>
              event.toBufferedEvent = r.2 ∧ conn.claims.sid ≠ r.1) := by decide +kernel
  simp only [List.any_eq_true, decide_eq_true_eq] at hrun
  obtain ⟨r, hr, conn, hconn, event, hevent, heq, hne⟩ := hrun
  exact hne (hend r hr conn hconn event hevent heq)

end System

end ProctorEngine
