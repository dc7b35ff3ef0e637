import ProctorEngine.Lib.Run
import ProctorEngine.Orchestration.FrameDispatcher
import ProctorEngine.Websocket.Admission
import ProctorEngine.Websocket.MessageLoop
import ProctorEngine.Websocket.SessionPolicy

/-!
# The telemetry pipeline

One process, any number of connections. A connection is three threads of control over a queue: the
WebSocket handler, which pushes what the client sends into the *process-wide* event buffer and later
runs the shutdown; the dispatcher thread, which drains that buffer; and the persistence worker,
which empties the connection's `flag_decisions` queue into the database.

A step of the system is one thread of one connection moving between two points where another thread
can observe it. The loops of the source test their stop flag at the top and act afterwards, and a
flag may be set in between, so test and act are separate steps: **a worker that saw its flag clear
may still take an item after the flag is set, and a dispatcher may still drain**.

The lists at the end of `Connection` and of `Shared` are history; no step reads them.

An event passes through five places before it is a row, and every step moves work from one place to
the next:

* `Shared.eventBuffer` — pushed by the handler, drained by whichever dispatcher comes first;
* `Connection.batch` — drained and not dispatched;
* `Connection.outbox` — decided on and not put;
* `Connection.flagDecisions` — put and not taken;
* `WorkerPc.inHand` — taken and not committed.

`Accounted` says that nothing is lost or doubled on the way through one connection, and `Linked`
ties its worker to the one session it writes for. Both hold of any connection whatever the others
do, so each is proved of `act`, one move of one thread, and carried to the system by `Effect`.
-/

set_option autoImplicit false

namespace ProctorEngine

/-! ## 1. Threads and connections

The program counters have one value for each point where the thread can be seen by another: between
the test of a flag and what is done on it, between an item taken and an item written. -/

/-- Where the handler coroutine stands. -/
inductive HandlerPc where
  | serving
  /-- In `persistence_worker.stop`, joining. -/
  | joiningWorker
  /-- In `dispatcher.stop`, joining. -/
  | joiningDispatcher
  | finished
  /-- `dispatcher.start` raised, before the `try` whose `finally` stops the threads. -/
  | crashed
deriving DecidableEq, Repr

/-- Where the loop of `FrameDispatcher._run_loop` stands. -/
inductive DispatcherPc where
  | top | draining | inBatch | exited
deriving DecidableEq, Repr

/-- Where the loop of `FlagPersistenceWorker._run_loop` stands. -/
inductive WorkerPc where
  | notStarted | top | getting
  | holding (item : PersistedFlag)
  | loaded (item : PersistedFlag) (examSession : ExamSession)
  | exited
deriving DecidableEq

/-- The item a worker has taken and not finished. -/
def WorkerPc.inHand : WorkerPc → List PersistedFlag
  | .holding item | .loaded item _ => [item]
  | .notStarted | .top | .getting | .exited => []

/-- A `_persist_one` that ended: its item and the rows it added to the committed tables. -/
structure PersistAttempt where
  item : PersistedFlag
  flags : List Flag
  telemetryEvents : List TelemetryEvent
deriving DecidableEq

/-- The attempt on an item that took the committed tables from `before` to `after`. -/
def PersistAttempt.between (before after : Database) (item : PersistedFlag) : PersistAttempt where
  item := item
  flags := after.flags.rows.filter (· ∉ before.flags)
  telemetryEvents := after.telemetryEvents.rows.filter (· ∉ before.telemetryEvents)

/-- `SessionClaims.session_id`, as text and as the UUID the text denotes. -/
structure SessionClaims where
  sessionId : String
  sid : UUID
deriving DecidableEq, Repr

structure Connection where
  claims : SessionClaims
  handler : HandlerPc
  delivery : DeliveryService
  dispatcher : FrameDispatcher
  dispatcherStop : Bool
  dispatcherPc : DispatcherPc
  /-- What is left of the batch; a batch the loop has left keeps its rest here. -/
  batch : List BufferedEvent
  /-- The decisions of the current `_dispatch_event` not yet put on the queue. -/
  outbox : List PersistedFlag
  flagDecisions : List PersistedFlag
  workerStop : Bool
  workerPc : WorkerPc
  /-- Every event this dispatcher ever drained. -/
  drained : List BufferedEvent
  dispatched : List DispatchedEvent
  /-- Everything ever put on `flag_decisions`. -/
  put : List PersistedFlag
  attempts : List PersistAttempt

structure Shared where
  eventBuffer : TelemetryEventBuffer
  db : Database
  /-- Every event ever pushed, with the session of the connection it was received on. -/
  received : List (UUID × BufferedEvent)

structure System where
  shared : Shared
  connections : List Connection

/-! ## 2. The threads

Each move is a function of its own and does nothing when it is not the thread's turn. A join may
time out, and then the shutdown goes on while the thread still runs. -/

namespace Connection

/-- What `websocket_endpoint` builds for an admitted session. `dispatcher.start` runs the
    thread and then, under an override, reads `self._decision_queue`, which does not exist. -/
def start (claims : SessionClaims) (examSession : ExamSession) (underOverride : Bool) :
    Connection where
  claims := claims
  handler := if underOverride then .crashed else .serving
  delivery := .new
  dispatcher := .new
    { policySnapshot := endpointSnapshot, context := endpointContext examSession
      identityBackendUnavailable := underOverride } false
  dispatcherStop := false
  dispatcherPc := .top
  batch := []
  outbox := []
  flagDecisions := []
  workerStop := false
  workerPc := if underOverride then .notStarted else .top
  drained := []
  dispatched := []
  put := []
  attempts := []

/-- The `finally` block up to its first join. -/
def beginShutdown (conn : Connection) : Connection :=
  { conn with handler := .joiningWorker, workerStop := true }

/-- One frame through `_message_loop`; one that is not answered ends the loop. What it pushed into
    the buffer is logged with the session of the connection. -/
def receive (py : Pydantic) (sh : Shared) (conn : Connection) (now : DateTime)
    (frame : Option Json) : Shared × Connection :=
  if conn.handler = .serving then
    let turn := receiveFrame py conn.claims.sessionId ⟨conn.delivery, sh.eventBuffer⟩ now frame
    let conn := { conn with delivery := turn.2.delivery }
    ({ sh with
        eventBuffer := turn.2.eventBuffer
        received := sh.received ++
          (turn.2.eventBuffer.buffer.filter (sh.eventBuffer.seq ≤ ·.seq)).map
            (conn.claims.sid, ·) },
      if turn.1.Answered then conn else conn.beginShutdown)
  else (sh, conn)

/-- The client is gone: `WebSocketDisconnect`. -/
def disconnect (conn : Connection) : Connection :=
  if conn.handler = .serving then conn.beginShutdown else conn

/-- `persistence_worker.stop` returns and `dispatcher.stop` sets its flag. -/
def joinWorker (conn : Connection) (timedOut : Bool) : Connection :=
  if conn.handler = .joiningWorker ∧ (conn.workerPc = .exited ∨ timedOut) then
    { conn with handler := .joiningDispatcher, dispatcherStop := true }
  else conn

/-- `dispatcher.stop` returns. -/
def joinDispatcher (conn : Connection) (timedOut : Bool) : Connection :=
  if conn.handler = .joiningDispatcher ∧ (conn.dispatcherPc = .exited ∨ timedOut) then
    { conn with handler := .finished }
  else conn

/-- The test at the top of the dispatcher's loop. -/
def checkDispatcherStop (conn : Connection) : Connection :=
  if conn.dispatcherPc = .top then
    { conn with dispatcherPc := if conn.dispatcherStop then .exited else .draining }
  else conn

/-- `self._buffer.drain()`: the whole buffer, whoever pushed it. -/
def drain (sh : Shared) (conn : Connection) : Shared × Connection :=
  if conn.dispatcherPc = .draining then
    ({ sh with eventBuffer := sh.eventBuffer.drain.2 },
      { conn with
        dispatcherPc := .inBatch
        batch := sh.eventBuffer.drain.1
        drained := conn.drained ++ sh.eventBuffer.drain.1 })
  else (sh, conn)

/-- The `for` loop over the batch, once everything the last event raised is on the queue. A
    flag set in mid-batch breaks out of both loops. -/
def dispatchNext (conn : Connection) (syntheticId : UUID) (answers : RunnerAnswers) :
    Connection :=
  if conn.dispatcherPc = .inBatch ∧ conn.outbox = [] then
    match conn.batch with
    | [] => { conn with dispatcherPc := .top }
    | event :: batch =>
      if conn.dispatcherStop then { conn with dispatcherPc := .exited }
      else
        let result := conn.dispatcher.dispatchEvent event syntheticId answers
        { conn with
          batch := batch
          dispatcher := result.2
          outbox := result.1
          dispatched := conn.dispatched ++ [{ event with syntheticId }] }
  else conn

/-- `flag_decisions.put`. -/
def putFlag (conn : Connection) : Connection :=
  match conn.outbox with
  | [] => conn
  | flag :: outbox =>
    { conn with
      outbox := outbox
      flagDecisions := conn.flagDecisions ++ [flag]
      put := conn.put ++ [flag] }

/-- The test at the top of the worker's loop. -/
def checkWorkerStop (conn : Connection) : Connection :=
  if conn.workerPc = .top then
    { conn with workerPc := if conn.workerStop then .exited else .getting }
  else conn

/-- `flag_decisions.get(timeout=0.05)`, which raises `Empty` only on an empty queue. -/
def getFlag (conn : Connection) : Connection :=
  if conn.workerPc = .getting then
    match conn.flagDecisions with
    | [] => { conn with workerPc := .top }
    | item :: rest => { conn with workerPc := .holding item, flagDecisions := rest }
  else conn

/-- `_resolve_session`, by the session of the dispatcher's context; a decision for a session
    that does not exist is dropped. -/
def loadSession (sh : Shared) (conn : Connection) : Connection :=
  match conn.workerPc with
  | .holding item =>
    match sh.db.getExamSession conn.dispatcher.config.context.examSessionId with
    | none => { conn with workerPc := .top, attempts := conn.attempts ++ [⟨item, [], []⟩] }
    | some examSession => { conn with workerPc := .loaded item examSession }
  | _ => conn

/-- The rest of `_persist_one`, on the row as it was loaded. -/
def commitFlag (sh : Shared) (conn : Connection) (c : PersistChoices) : Shared × Connection :=
  match conn.workerPc with
  | .loaded item examSession =>
    let db := (persistLoaded sh.db examSession item c).db
    ({ sh with db := db },
      { conn with
        workerPc := .top
        attempts := conn.attempts ++ [.between sh.db db item] })
  | _ => (sh, conn)

end Connection

/-! ## 3. The system

The system is what all connections share, with the connections in the order they were let in. -/

/-- What one thread of a connection does next. -/
inductive Action where
  | receive (now : DateTime) (frame : Option Json)
  | disconnect
  | joinWorker (timedOut : Bool)
  | joinDispatcher (timedOut : Bool)
  | checkDispatcherStop
  | drain
  | dispatchNext (syntheticId : UUID) (answers : RunnerAnswers)
  | putFlag
  | checkWorkerStop
  | getFlag
  | loadSession
  | commitFlag (c : PersistChoices)
deriving DecidableEq

def Connection.act (py : Pydantic) (sh : Shared) (conn : Connection) :
    Action → Shared × Connection
  | .receive now frame => conn.receive py sh now frame
  | .disconnect => (sh, conn.disconnect)
  | .joinWorker timedOut => (sh, conn.joinWorker timedOut)
  | .joinDispatcher timedOut => (sh, conn.joinDispatcher timedOut)
  | .checkDispatcherStop => (sh, conn.checkDispatcherStop)
  | .drain => conn.drain sh
  | .dispatchNext syntheticId answers => (sh, conn.dispatchNext syntheticId answers)
  | .putFlag => (sh, conn.putFlag)
  | .checkWorkerStop => (sh, conn.checkWorkerStop)
  | .getFlag => (sh, conn.getFlag)
  | .loadSession => (sh, conn.loadSession sh)
  | .commitFlag c => conn.commitFlag sh c

inductive Step where
  /-- A handshake with a valid learner token. The worker writes nothing the handshake reads, so
      its read and its commit are one step. -/
  | connect (claims : SessionClaims) (backendAvailable : Bool) (now : DateTime) (recordId : UUID)
  | on (i : Nat) (action : Action)
deriving DecidableEq

namespace System

/-- The process before the first connection. `event_buffer` is built by the application. -/
def idle (eventBuffer : TelemetryEventBuffer) (db : Database) : System :=
  ⟨⟨eventBuffer, db, []⟩, []⟩

/-- The admission of a connection: a rejected one leaves no trace, a blocked one leaves the
    database its block wrote. -/
def connect (w : System) (claims : SessionClaims) (backendAvailable : Bool) (now : DateTime)
    (recordId : UUID) : System :=
  match readAdmission w.shared.db claims.sid backendAvailable now with
  | .error _ => w
  | .ok (examSession, admission) =>
    match commitAdmission w.shared.db examSession recordId admission with
    | none => w
    | some db =>
      { shared := { w.shared with db := db }
        connections :=
          if admission = .block then w.connections
          else w.connections ++
            [.start claims examSession (admission = .proceedUnderOverride)] }

/-- A handshake gets a connection: it is neither rejected nor blocked. -/
def letsIn (w : System) (claims : SessionClaims) (backendAvailable : Bool) (now : DateTime)
    (recordId : UUID) : Bool :=
  match readAdmission w.shared.db claims.sid backendAvailable now with
  | .error _ => false
  | .ok (examSession, admission) =>
    admission ≠ .block && (commitAdmission w.shared.db examSession recordId admission).isSome

def step (py : Pydantic) (w : System) : Step → System
  | .connect claims backendAvailable now recordId =>
    w.connect claims backendAvailable now recordId
  | .on i action =>
    match w.connections[i]? with
    | none => w
    | some conn =>
      let result := conn.act py w.shared action
      ⟨result.1, w.connections.set i result.2⟩

/-! ## 4. One step, said once

`Effect` is read instead of `step` by everything that follows: what a handshake may have done to the
database is in `AdmissionFrame`, and what a connection did is in `act`. -/

/-- Everything one step can do to the system. -/
inductive Effect (py : Pydantic) (w : System) : Step → System → Prop
  /-- A rejected handshake, or a step of a connection there is not. -/
  | idle {l : Step} (absent : ∀ i action, l = .on i action → w.connections[i]? = none) :
      Effect py w l w
  | blocked {claims : SessionClaims} {backendAvailable : Bool} {now : DateTime} {recordId : UUID}
      {db : Database} (frame : AdmissionFrame w.shared.db db) :
      Effect py w (.connect claims backendAvailable now recordId)
        ⟨{ w.shared with db := db }, w.connections⟩
  | admitted {claims : SessionClaims} {backendAvailable : Bool} {now : DateTime}
      {recordId : UUID} {db : Database} {examSession : ExamSession} {underOverride : Bool}
      (session : w.shared.db.getExamSession claims.sid = some examSession)
      (frame : AdmissionFrame w.shared.db db)
      (letIn : w.letsIn claims backendAvailable now recordId = true) :
      Effect py w (.connect claims backendAvailable now recordId)
        ⟨{ w.shared with db := db },
          w.connections ++ [.start claims examSession underOverride]⟩
  | acted {i : Nat} {action : Action} {conn : Connection} (at_i : w.connections[i]? = some conn) :
      Effect py w (.on i action)
        ⟨(conn.act py w.shared action).1, w.connections.set i (conn.act py w.shared action).2⟩

section
variable {py : Pydantic} {w : System} {P : Shared → Connection → Prop}

theorem step_effect (py : Pydantic) (w : System) (l : Step) : Effect py w l (w.step py l) := by
  cases l with
  | connect claims backendAvailable now recordId =>
    simp only [step, connect]
    cases hread : readAdmission w.shared.db claims.sid backendAvailable now with
    | error e => exact .idle fun _ _ h => absurd h (by simp)
    | ok r =>
      obtain ⟨examSession, admission⟩ := r
      simp only
      cases hcommit : commitAdmission w.shared.db examSession recordId admission with
      | none => exact .idle fun _ _ h => absurd h (by simp)
      | some db =>
        have hframe : AdmissionFrame w.shared.db db := commitAdmission_frame hcommit
        by_cases hblock : admission = .block
        · simp only [hblock, if_true]
          exact .blocked hframe
        · simp only [hblock, if_false]
          exact .admitted (readAdmission_eq_ok hread).1 hframe
            (by simp [letsIn, hread, hcommit, hblock])
  | on i action =>
    simp only [step]
    cases hi : w.connections[i]? with
    | none =>
      refine .idle ?_
      intro j action' h
      obtain ⟨rfl, -⟩ := Step.on.inj h
      exact hi
    | some conn => exact .acted hi

/-- `P` holds of every connection beside the shared state. -/
def Each (P : Shared → Connection → Prop) (w : System) : Prop :=
  ∀ conn ∈ w.connections, P w.shared conn

/-- The rule for an invariant of the connections: a handshake and the other connections'
    threads keep it, a new connection has it, and the connection's own threads keep it. -/
theorem each_step (l : Step) (hP : Each P w)
    (hconnect : ∀ db, AdmissionFrame w.shared.db db →
      ∀ conn, P w.shared conn → P { w.shared with db := db } conn)
    (hstart : ∀ db claims examSession underOverride, AdmissionFrame w.shared.db db →
        w.shared.db.getExamSession claims.sid = some examSession →
          P { w.shared with db := db } (.start claims examSession underOverride))
    (hown : ∀ i action conn, l = .on i action → w.connections[i]? = some conn →
      P w.shared conn → P (conn.act py w.shared action).1 (conn.act py w.shared action).2)
    (hother : ∀ i action conn, l = .on i action → w.connections[i]? = some conn →
      ∀ other ∈ w.connections, P w.shared other →
        P (conn.act py w.shared action).1 other) :
    Each P (w.step py l) := by
  have heffect := step_effect py w l
  generalize w.step py l = w' at heffect
  cases heffect with
  | idle _ => exact hP
  | blocked hframe => exact fun conn hconn => hconnect _ hframe conn (hP conn hconn)
  | admitted hsession hframe =>
    intro conn hconn
    rcases List.mem_append.mp hconn with hconn | hconn
    · exact hconnect _ hframe conn (hP conn hconn)
    · rw [List.mem_singleton.mp hconn]
      exact hstart _ _ _ _ hframe hsession
  | acted hi =>
    intro conn hconn
    rcases List.mem_or_eq_of_mem_set hconn with hconn | rfl
    · exact hother _ _ _ rfl hi conn hconn (hP conn hconn)
    · exact hown _ _ _ rfl hi (hP _ (List.mem_of_getElem? hi))

end

/-- What one step does to the `i`-th connection. -/
inductive ConnectionStep (py : Pydantic) (w : System) (i : Nat) :
    Step → Option Connection → Option Connection → Prop
  | kept {l : Step} {slot : Option Connection} (not_i : ∀ action, l = .on i action → slot = none) :
      ConnectionStep py w i l slot slot
  | started {claims : SessionClaims} {backendAvailable : Bool} {now : DateTime} {recordId : UUID}
      {examSession : ExamSession} {underOverride : Bool} :
      ConnectionStep py w i (.connect claims backendAvailable now recordId) none
        (some (.start claims examSession underOverride))
  | acted {action : Action} {conn : Connection} :
      ConnectionStep py w i (.on i action) (some conn) (some (conn.act py w.shared action).2)

theorem connectionStep (py : Pydantic) (w : System) (i : Nat) (l : Step) :
    ConnectionStep py w i l w.connections[i]? (w.step py l).connections[i]? := by
  have heffect := step_effect py w l
  generalize w.step py l = w' at heffect
  cases heffect with
  | idle habsent => exact .kept fun action h => habsent i action h
  | blocked hframe => exact .kept fun action h => absurd h (by simp)
  | admitted hsession hframe =>
    -- The new connection is the last one; the slots before it keep theirs.
    rcases lt_trichotomy i w.connections.length with hi | hi | hi
    · rw [List.getElem?_append_left hi]
      exact .kept fun action h => absurd h (by simp)
    · subst hi
      simp only [List.getElem?_concat_length, List.getElem?_eq_none (le_refl _)]
      exact .started
    · have hbefore : w.connections[i]? = none := List.getElem?_eq_none hi.le
      simp only [hbefore, List.getElem?_append_right hi.le]
      rw [List.getElem?_eq_none (by simp only [List.length_singleton]; omega)]
      exact .kept fun _ _ => rfl
  | @acted j action conn hj =>
    by_cases hij : j = i
    · subst hij
      have hlt : j < w.connections.length := (List.getElem?_eq_some_iff.mp hj).1
      rw [hj, List.getElem?_set_self hlt]
      exact .acted
    · rw [List.getElem?_set_ne hij]
      refine .kept ?_
      intro action' h
      exact absurd (Step.on.inj h).1 hij

end System

/-! ## 5. What a thread can do to the shared state -/

namespace Connection

/-- Three of the threads' moves touch what the connections share. -/
inductive SharedEffect (sh : Shared) (conn : Connection) : Action → Shared → Prop
  | none {action : Action} : SharedEffect sh conn action sh
  | pushed {frame : Option Json} {now : DateTime} (message : ClientMessage) :
      SharedEffect sh conn (.receive now frame)
        { sh with
          eventBuffer := sh.eventBuffer.push message now
          received := sh.received ++
            ((sh.eventBuffer.push message now).buffer.filter (sh.eventBuffer.seq ≤ ·.seq)).map
              (conn.claims.sid, ·) }
  | drained (pc : conn.dispatcherPc = .draining) :
      SharedEffect sh conn .drain { sh with eventBuffer := sh.eventBuffer.drain.2 }
  | committed {item : PersistedFlag} {examSession : ExamSession} {c : PersistChoices}
      (pc : conn.workerPc = .loaded item examSession) :
      SharedEffect sh conn (.commitFlag c)
        { sh with db := (persistLoaded sh.db examSession item c).db }

section
variable {py : Pydantic} {sh : Shared} {conn : Connection}

theorem act_sharedEffect (py : Pydantic) (conn : Connection)
    (hold : ∀ e ∈ sh.eventBuffer.buffer, e.seq < sh.eventBuffer.seq)
    (action : Action) : SharedEffect sh conn action (conn.act py sh action).1 := by
  cases action with
  | receive now frame =>
    simp only [act, receive]
    split
    · rcases receiveFrame_eventBuffer py conn.claims.sessionId
        ⟨conn.delivery, sh.eventBuffer⟩ now frame with h | ⟨message, h⟩
      · -- nothing new in the buffer, so nothing new received
        have hnone : sh.eventBuffer.buffer.filter (sh.eventBuffer.seq ≤ ·.seq) = [] := by
          rw [List.filter_eq_nil_iff]
          intro e he
          simpa using hold e he
        simp only [h, hnone, List.map_nil, List.append_nil]
        exact .none
      · simp only [h]
        exact .pushed message
    · exact .none
  -- Of the rest only the drain and the commit touch what the connections share.
  | drain =>
    simp only [act, drain]
    split
    · exact .drained ‹_›
    · exact .none
  | commitFlag c =>
    simp only [act, commitFlag]
    split
    · exact .committed ‹_›
    · exact .none
  | disconnect => exact .none
  | joinWorker timedOut => exact .none
  | joinDispatcher timedOut => exact .none
  | checkDispatcherStop => exact .none
  | dispatchNext syntheticId answers => exact .none
  | putFlag => exact .none
  | checkWorkerStop => exact .none
  | getFlag => exact .none
  | loadSession => exact .none

/-- A connection keeps its claims and its configuration. -/
theorem act_fixed (py : Pydantic) (sh : Shared) (conn : Connection) (action : Action) :
    (conn.act py sh action).2.claims = conn.claims ∧
      (conn.act py sh action).2.dispatcher.config = conn.dispatcher.config := by
  cases action <;>
    simp only [act, receive, disconnect, joinWorker, joinDispatcher, checkDispatcherStop, drain,
      dispatchNext, putFlag, checkWorkerStop, getFlag, loadSession, commitFlag, beginShutdown] <;>
    repeat' split
  all_goals first
    | exact ⟨rfl, rfl⟩
    | exact ⟨rfl, FrameDispatcher.dispatchEvent_config⟩

end

/-! ## 6. A worker and its session

A worker loads its session by the id in the dispatcher's context and keeps the row while other
workers commit. The row it has in hand may be old, but it is a row of the right session. -/

/-- What ties a connection to the database: its session is there, its configuration is the
    endpoint's for that session, and a row its worker has loaded is that session's. -/
structure Linked (sh : Shared) (conn : Connection) : Prop where
  session : (sh.db.getExamSession conn.claims.sid).isSome
  policySnapshot : conn.dispatcher.config.policySnapshot = endpointSnapshot
  context : conn.dispatcher.config.context.examSessionId = conn.claims.sid
  loaded : ∀ item examSession, conn.workerPc = .loaded item examSession →
    examSession.id = conn.claims.sid

section
variable {py : Pydantic} {sh : Shared} {conn : Connection}

/-- Only a successful lookup brings the worker to a loaded row. -/
theorem act_loaded {action : Action} {item : PersistedFlag} {examSession : ExamSession}
    (h : (conn.act py sh action).2.workerPc = .loaded item examSession) :
    conn.workerPc = .loaded item examSession ∨
      (action = .loadSession ∧ conn.workerPc = .holding item ∧
        sh.db.getExamSession conn.dispatcher.config.context.examSessionId = some examSession) := by
  cases action <;>
    simp only [act, receive, disconnect, joinWorker, joinDispatcher, checkDispatcherStop, drain,
      dispatchNext, putFlag, checkWorkerStop, getFlag, loadSession, commitFlag,
      beginShutdown] at h
  -- the lookup, which is by the context the dispatcher was built with
  case loadSession =>
    split at h
    · rename_i item' hpc
      split at h
      · exact absurd h (by simp)
      · rename_i s hs
        obtain ⟨rfl, rfl⟩ := WorkerPc.loaded.inj h
        exact .inr ⟨rfl, hpc, hs⟩
    · exact .inl h
  -- every other move leaves a loaded row where it is, or takes it away
  all_goals
    repeat' split at h
    all_goals first
      | exact .inl h
      | exact absurd h (by simp)

/-- A decision persisted for one session leaves every session where it is. -/
theorem persistLoaded_isSome {db : Database} {examSession : ExamSession} {item : PersistedFlag}
    {c : PersistChoices} {id : UUID} (hs : (db.getExamSession examSession.id).isSome) :
    ((persistLoaded db examSession item c).db.getExamSession id).isSome =
      (db.getExamSession id).isSome := by
  rcases persistLoaded_db item c hs with ⟨-, h⟩ | ⟨-, h⟩
  · rw [h]
  · rw [h.examSessions id, Option.isSome_map]

/-- A linked worker always finds its session, so its attempts are its commits. -/
theorem act_attempts (py : Pydantic) (h : Linked sh conn) (action : Action) :
    ((conn.act py sh action).2.attempts = conn.attempts ∧
        (conn.act py sh action).1.db = sh.db) ∨
      ∃ c item examSession, action = .commitFlag c ∧ conn.workerPc = .loaded item examSession ∧
        (conn.act py sh action).1.db = (persistLoaded sh.db examSession item c).db ∧
        (conn.act py sh action).2.attempts = conn.attempts ++
          [.between sh.db (persistLoaded sh.db examSession item c).db item] := by
  cases action with
  | receive now frame =>
    simp only [Connection.act, receive]
    repeat' split
    all_goals exact .inl ⟨by trivial, by trivial⟩
  | commitFlag c =>
    simp only [Connection.act, commitFlag]
    split
    · rename_i item examSession hpc
      exact .inr ⟨c, item, examSession, rfl, hpc, rfl, rfl⟩
    · exact .inl ⟨by trivial, by trivial⟩
  -- a lookup that fails would be an attempt without a commit; a linked worker has none
  | loadSession =>
    simp only [Connection.act, loadSession]
    split
    · split
      · rename_i hnone
        rw [h.context] at hnone
        exact absurd h.session (by simp [hnone])
      · exact .inl ⟨by trivial, by trivial⟩
    · exact .inl ⟨by trivial, by trivial⟩
  | _ =>
    simp only [Connection.act, disconnect, joinWorker, joinDispatcher, checkDispatcherStop, drain,
      dispatchNext, putFlag, checkWorkerStop, getFlag, beginShutdown]
    repeat' split
    all_goals exact .inl ⟨by trivial, by trivial⟩

theorem Linked.act (h : Linked sh conn) (action : Action) :
    Linked (conn.act py sh action).1 (conn.act py sh action).2 := by
  obtain ⟨hclaims, hconfig⟩ := act_fixed py sh conn action
  refine ⟨?_, by rw [hconfig]; exact h.policySnapshot, by rw [hclaims, hconfig]; exact h.context,
    ?_⟩
  -- the session is there: only a commit writes, and it removes no session
  · rw [hclaims]
    cases action with
    | receive now frame =>
      simp only [Connection.act, receive]
      split <;> exact h.session
    | drain =>
      simp only [Connection.act, drain]
      split <;> exact h.session
    | commitFlag c =>
      simp only [Connection.act, commitFlag]
      split
      · rename_i item examSession hpc
        have hs : (sh.db.getExamSession examSession.id).isSome :=
          (h.loaded item examSession hpc).symm ▸ h.session
        rw [persistLoaded_isSome hs]
        exact h.session
      · exact h.session
    | _ => exact h.session
  -- the row: only a lookup loads one, and the context names the session of the claims
  · intro item examSession hpc
    rw [hclaims]
    rcases act_loaded hpc with hpc | ⟨-, -, hload⟩
    · exact h.loaded item examSession hpc
    · exact (Database.getExamSession_id hload).trans h.context

/-- A handshake leaves the link, and so does another connection's worker. -/
theorem Linked.of_isSome {sh' : Shared} (h : Linked sh conn)
    (hs : (sh'.db.getExamSession conn.claims.sid).isSome =
      (sh.db.getExamSession conn.claims.sid).isSome) : Linked sh' conn :=
  ⟨hs ▸ h.session, h.policySnapshot, h.context, h.loaded⟩

theorem Linked.other {other : Connection} (h : Linked sh other) (hconn : Linked sh conn)
    (action : Action) : Linked (conn.act py sh action).1 other := by
  cases action with
  | receive now frame =>
    simp only [Connection.act, receive]
    split <;> exact h.of_isSome rfl
  | drain =>
    simp only [Connection.act, drain]
    split <;> exact h.of_isSome rfl
  | commitFlag c =>
    simp only [Connection.act, commitFlag]
    split
    · rename_i item examSession hpc
      exact h.of_isSome (persistLoaded_isSome
        ((hconn.loaded item examSession hpc).symm ▸ hconn.session))
    · exact h
  | _ => exact h

theorem linked_start {db : Database} {claims : SessionClaims} {examSession : ExamSession}
    {underOverride : Bool} (hsession : sh.db.getExamSession claims.sid = some examSession)
    (hframe : AdmissionFrame sh.db db) :
    Linked { sh with db := db } (.start claims examSession underOverride) := by
  refine ⟨?_, rfl, Database.getExamSession_id hsession, ?_⟩
  · show (db.getExamSession claims.sid).isSome
    rw [← Database.isSome_scoreOf, hframe.scoreOf, Database.isSome_scoreOf, hsession]
    rfl
  · intro item row hpc
    exfalso
    cases underOverride <;> exact absurd hpc (by simp [start])

end

end Connection

/-- **Every connection stays linked to its session.** -/
theorem System.linked_step {py : Pydantic} {w : System} (l : Step)
    (h : w.Each Connection.Linked) : (w.step py l).Each Connection.Linked := by
  refine each_step l h ?_ ?_ ?_ ?_
  · intro db hframe conn hconn
    refine hconn.of_isSome ?_
    rw [← Database.isSome_scoreOf, hframe.scoreOf, Database.isSome_scoreOf]
  · intro db claims examSession underOverride hframe hsession
    exact Connection.linked_start hsession hframe
  · intro i action conn _ _ hconn
    exact hconn.act action
  · intro i action conn _ hi other _ hother
    exact hother.other (h conn (List.mem_of_getElem? hi)) action

/-- No step removes a flag. -/
theorem System.flags_mono (py : Pydantic) {w : System} (l : Step)
    (h : w.Each Connection.Linked) {f : Flag} (hf : f ∈ w.shared.db.flags) :
    f ∈ (w.step py l).shared.db.flags := by
  have heffect := step_effect py w l
  generalize w.step py l = w' at heffect
  cases heffect with
  | idle _ => exact hf
  | blocked hframe => exact hframe.flags ▸ hf
  | admitted _ hframe => exact hframe.flags ▸ hf
  | @acted i action conn hi =>
    have hlinked := h conn (List.mem_of_getElem? hi)
    cases action with
    | receive now frame =>
      simp only [Connection.act, Connection.receive]
      split <;> exact hf
    | drain =>
      simp only [Connection.act, Connection.drain]
      split <;> exact hf
    -- the one move that writes, and it appends
    | commitFlag c =>
      simp only [Connection.act, Connection.commitFlag]
      split
      · rename_i item examSession hpc
        have hs : (w.shared.db.getExamSession examSession.id).isSome :=
          (hlinked.loaded item examSession hpc).symm ▸ hlinked.session
        rcases persistLoaded_db item c hs with ⟨-, hdb⟩ | ⟨-, hrows⟩
        · exact hdb.symm ▸ hf
        · obtain ⟨severity, hflags⟩ := hrows.flags
          rw [← Table.mem_rows, hflags]
          exact List.mem_append_left _ hf
      · exact hf
    | _ => exact hf

/-! ## 7. The bookkeeping of a connection

The four equations of `Accounted` are what is conserved while work moves through a connection. The
handler's moves change none of its places, the dispatcher's and the worker's one at a time. -/

/-- The moves of the handler's own thread. -/
def Action.IsHandler : Action → Prop
  | .receive _ _ | .disconnect | .joinWorker _ | .joinDispatcher _ => True
  | _ => False

namespace Connection

/-- What was drained is dispatched or still in the batch, and
    what was put is attempted, in hand or queued. -/
structure Accounted (conn : Connection) : Prop where
  idleBatch : conn.dispatcherPc = .top ∨ conn.dispatcherPc = .draining → conn.batch = []
  idleOutbox : conn.dispatcherPc ≠ .inBatch → conn.outbox = []
  drained : conn.drained = conn.dispatched.map (·.toBufferedEvent) ++ conn.batch
  put : conn.put = conn.attempts.map (·.item) ++ conn.workerPc.inHand ++ conn.flagDecisions

/-- The other threads are where they were, with the work they had. -/
structure HandlerFrame (conn conn' : Connection) : Prop where
  dispatcherPc : conn'.dispatcherPc = conn.dispatcherPc
  batch : conn'.batch = conn.batch
  outbox : conn'.outbox = conn.outbox
  flagDecisions : conn'.flagDecisions = conn.flagDecisions
  workerPc : conn'.workerPc = conn.workerPc
  drained : conn'.drained = conn.drained
  dispatched : conn'.dispatched = conn.dispatched
  put : conn'.put = conn.put
  attempts : conn'.attempts = conn.attempts

section
variable {py : Pydantic} {sh : Shared} {conn : Connection}

/-- The handler's own moves touch neither the batch nor the queue. -/
theorem act_handlerFrame {action : Action} (h : action.IsHandler) :
    HandlerFrame conn (conn.act py sh action).2 := by
  have hsame : HandlerFrame conn conn := ⟨rfl, rfl, rfl, rfl, rfl, rfl, rfl, rfl, rfl⟩
  cases action with
  | receive now frame =>
    simp only [Connection.act, receive]
    split
    · split <;> exact ⟨rfl, rfl, rfl, rfl, rfl, rfl, rfl, rfl, rfl⟩
    · exact hsame
  | disconnect =>
    simp only [Connection.act, disconnect]
    split
    · exact ⟨rfl, rfl, rfl, rfl, rfl, rfl, rfl, rfl, rfl⟩
    · exact hsame
  | joinWorker timedOut =>
    simp only [Connection.act, joinWorker]
    split
    · exact ⟨rfl, rfl, rfl, rfl, rfl, rfl, rfl, rfl, rfl⟩
    · exact hsame
  | joinDispatcher timedOut =>
    simp only [Connection.act, joinDispatcher]
    split
    · exact ⟨rfl, rfl, rfl, rfl, rfl, rfl, rfl, rfl, rfl⟩
    · exact hsame
  | _ => cases h

theorem accounted_start {claims : SessionClaims} {examSession : ExamSession}
    {underOverride : Bool} : (start claims examSession underOverride).Accounted := by
  refine ⟨fun _ => rfl, fun _ => rfl, rfl, ?_⟩
  cases underOverride <;> rfl

theorem Accounted.handler {conn' : Connection} (h : conn.Accounted)
    (hframe : HandlerFrame conn conn') : conn'.Accounted := by
  constructor
  case idleBatch =>
    rw [hframe.dispatcherPc, hframe.batch]
    exact h.idleBatch
  case idleOutbox =>
    rw [hframe.dispatcherPc, hframe.outbox]
    exact h.idleOutbox
  case drained =>
    rw [hframe.drained, hframe.dispatched, hframe.batch]
    exact h.drained
  case put =>
    rw [hframe.put, hframe.attempts, hframe.workerPc, hframe.flagDecisions]
    exact h.put

/-- The worker takes an item from the queue into its hand, and from there to its attempts. -/
theorem Accounted.worker {pc : WorkerPc} {queue : List PersistedFlag}
    {attempts : List PersistAttempt} (h : conn.Accounted)
    (hmoved : attempts.map (·.item) ++ pc.inHand ++ queue =
      conn.attempts.map (·.item) ++ conn.workerPc.inHand ++ conn.flagDecisions) :
    Accounted { conn with workerPc := pc, flagDecisions := queue, attempts := attempts } :=
  ⟨h.idleBatch, h.idleOutbox, h.drained, h.put.trans hmoved.symm⟩

/-- A drain fills a batch that is empty. -/
theorem Accounted.drain (h : conn.Accounted) : (conn.drain sh).2.Accounted := by
  unfold Connection.drain
  split
  · rename_i hpc
    refine ⟨fun hidle => absurd hidle (by simp), fun hout => absurd rfl hout, ?_, h.put⟩
    have hbatch : conn.batch = [] := h.idleBatch (.inr hpc)
    show conn.drained ++ _ = _
    rw [h.drained, hbatch, List.append_nil]
  · exact h

/-- The dispatcher takes the next event of the batch. -/
theorem Accounted.dispatchNext (h : conn.Accounted) (syntheticId : UUID)
    (answers : RunnerAnswers) : (conn.dispatchNext syntheticId answers).Accounted := by
  unfold Connection.dispatchNext
  split
  · rename_i hguard
    obtain ⟨hpc, houtbox⟩ := hguard
    split
    -- the batch is used up
    · exact ⟨fun _ => ‹_›, fun _ => houtbox, h.drained, h.put⟩
    · rename_i event batch hbatch
      split
      -- the flag was set in mid-batch: the rest stays in the batch for good
      · exact ⟨fun hidle => absurd hidle (by simp), fun _ => houtbox, h.drained, h.put⟩
      · refine ⟨fun hidle => absurd hidle (by simp [hpc]), fun hout => absurd hpc hout, ?_,
          h.put⟩
        show conn.drained = _
        rw [h.drained, hbatch]
        simp
  · exact h

/-- The dispatcher puts a flag of its outbox into the queue. -/
theorem Accounted.putFlag (h : conn.Accounted) : conn.putFlag.Accounted := by
  unfold Connection.putFlag
  split
  · exact h
  · rename_i flag outbox houtbox
    refine ⟨h.idleBatch, ?_, h.drained, ?_⟩
    · intro hpc
      exact absurd (h.idleOutbox hpc) (by simp [houtbox])
    · show conn.put ++ [flag] = _
      rw [h.put, List.append_assoc _ conn.flagDecisions]

/-- The worker takes a flag out of the queue, if there is one. -/
theorem Accounted.getFlag (h : conn.Accounted) : conn.getFlag.Accounted := by
  unfold Connection.getFlag
  split
  · rename_i hpc
    split
    · apply h.worker
      rw [hpc]
      rfl
    · rename_i item rest hqueue
      apply h.worker
      rw [hpc, hqueue]
      simp [WorkerPc.inHand]
  · exact h

/-- The flag in its hand is given up where the session is not found, and kept where it is. -/
theorem Accounted.loadSession (h : conn.Accounted) : (conn.loadSession sh).Accounted := by
  unfold Connection.loadSession
  split
  · rename_i item hpc
    split
    · apply h.worker
      simp [hpc, WorkerPc.inHand]
    · apply h.worker
      rw [hpc]
      rfl
  · exact h

/-- The other threads move an event or a flag from one place to the next. -/
theorem Accounted.act (h : conn.Accounted) (action : Action) :
    (conn.act py sh action).2.Accounted := by
  cases action with
  -- What the handler does leaves the books of the two threads alone.
  | receive now frame => exact h.handler (act_handlerFrame trivial)
  | disconnect => exact h.handler (act_handlerFrame trivial)
  | joinWorker timedOut => exact h.handler (act_handlerFrame trivial)
  | joinDispatcher timedOut => exact h.handler (act_handlerFrame trivial)
  | checkDispatcherStop =>
    simp only [Connection.act, checkDispatcherStop]
    split
    · rename_i hpc
      exact ⟨fun _ => h.idleBatch (.inl hpc), fun _ => h.idleOutbox (by simp [hpc]), h.drained,
        h.put⟩
    · exact h
  | drain => exact h.drain
  | dispatchNext syntheticId answers => exact h.dispatchNext syntheticId answers
  | putFlag => exact h.putFlag
  | checkWorkerStop =>
    simp only [Connection.act, checkWorkerStop]
    split
    · rename_i hpc
      apply h.worker
      rw [hpc]
      cases conn.workerStop <;> rfl
    · exact h
  | getFlag => exact h.getFlag
  | loadSession => exact h.loadSession
  | commitFlag c =>
    simp only [Connection.act, commitFlag]
    split
    · rename_i item examSession hpc
      apply h.worker
      simp [hpc, WorkerPc.inHand, PersistAttempt.between]
    · exact h

end

end Connection

/-! ## 8. A process to run -/

/-- The buffer `api.py` wires. -/
def appEventBuffer : TelemetryEventBuffer := .new 4096 (by decide)

/-- The token of session 1. -/
def firstClaims : SessionClaims := ⟨"00000000-0000-0000-0000-000000000001", 1⟩

/-- A `blur` of session 1, as its client sends it. -/
def blurFrame : Json :=
  .obj [("type", .str "browser_event"), ("session_id", .str firstClaims.sessionId),
    ("captured_at", .str "1970-01-01T00:00:00.000Z"),
    ("payload", .obj [("event_type", .str "blur")])]

end ProctorEngine
