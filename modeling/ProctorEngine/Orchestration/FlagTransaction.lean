import ProctorEngine.Lib.Transaction
import ProctorEngine.Orchestration.FlagPersistenceWorker

/-!
# The flag's transaction, statement by statement

`FlagPersistenceWorker._persist_one` up to the commit of `persist_flag_decision`, over an explicit
transaction: a savepoint for each telemetry row, the two flushes of the flag and its links, the
read-modify-write of the score and the commit. **Any flush, and the commit, may fail** by an
exception of the environment (`Faults`), on top of the failures the rows themselves cause.

`ProctorEngine.persistOne` is the same call with the outcomes only. The two meet in
`inserts_eq_ok_iff`: a faulted transaction that reaches its end is the plain transaction on the
events whose insert was not faulted.

A statement is a computation over `Transaction Database`, with a committed and a working copy. That
nothing is committed before the one commit is a property of the statements by their shape,
`Transaction.KeepsCommitted`, and with `rollingBack` around them it makes the call atomic. What is
left is to say what a transaction that does reach its end has written.

All or nothing fails in two ways, and neither is a lost rollback. A savepoint swallows an
`IntegrityError`, so that an event that is in no row disappears without a trace unless the links of
the flag name it; and the column of the score rounds. `AddsExactly` excludes the two.
-/

set_option autoImplicit false

namespace ProctorEngine.FlagTransaction

/-- The places where the environment may fail. The commit flushes the score first. -/
inductive FlushPoint where
  | telemetry (position : Nat)
  | flag
  | links
  | commit
deriving DecidableEq

inductive FlushFault where
  | integrity
  /-- Any exception that is no `IntegrityError`. -/
  | driver
deriving DecidableEq

inductive CallError where
  | persist (e : PersistError)
  | driver
deriving DecidableEq

/-- What the environment does at each point of one call. -/
abbrev Faults := FlushPoint → Option FlushFault

/-- No point fails by itself. -/
def noFaults : Faults := fun _ => none

abbrev Statement (α : Type) := EStateM CallError (Transaction Database) α

/-! ## 1. The call

The statements in the order of the source. A fault is looked up at its point and takes the place of
what the database would have answered. -/

/-- The insert of one telemetry row inside its savepoint. An `IntegrityError` is caught there:
    the savepoint is gone, and the row is expunged, which may itself raise. -/
def telemetryWrite (sid : UUID) (expungeRaises : Bool) (fault : Option FlushFault)
    (event : DispatchedEvent) (db : Database) : Except CallError Database :=
  match fault with
  | none =>
    match ProctorEngine.insertTelemetryEvent db sid event expungeRaises with
    | .ok db' => .ok db'
    | .error e => .error (.persist e)
  | some fault =>
    match buildTelemetryEventRow event sid with
    -- the builder raises before anything is flushed
    | none => .error (.persist .valueError)
    | some _ =>
      match fault with
      | .driver => .error .driver
      | .integrity => if expungeRaises then .error (.persist .invalidRequest) else .ok db

/-- `_insert_telemetry_event`, for each contributing event in turn. -/
def insertTelemetryEvents (sid : UUID) (expungeRaises : Bool) (faults : Faults) :
    Nat → List DispatchedEvent → Statement PUnit
  | _, [] => pure ⟨⟩
  | position, event :: events =>
    Transaction.flush (telemetryWrite sid expungeRaises (faults (.telemetry position)) event) >>=
      fun _ => insertTelemetryEvents sid expungeRaises faults (position + 1) events

/-- A flush outside the savepoints. Where it fails the session rolls back, and the function
    raises `refused` for an `IntegrityError`. -/
def flush (fault : Option FlushFault) (refused : PersistError)
    (insert : Database → Option Database) : Statement PUnit :=
  Transaction.rollingBack <| Transaction.flush fun db =>
    match fault with
    | some .integrity => .error (.persist refused)
    | some .driver => .error .driver
    | none =>
      match insert db with
      | some db' => .ok db'
      | none => .error (.persist refused)

/-- `persist_flag_decision` before its commit. The statements of `persistFlagDecision` one by one,
    each with a fault of its own to fail by. -/
def flagInserts (decision : FlagDecision) (examSession : ExamSession) (flagId : UUID)
    (faults : Faults) : Statement Flag :=
  match FlagSeverity.ofValue? decision.severity with
  | none => throw (.persist .unknownSeverity)
  | some severity => do
    let flag := flagOf decision examSession severity flagId
    flush (faults .flag) .flagIntegrity fun db => db.insertFlag flag
    flush (faults .links) .linkIntegrity fun db =>
      db.insertLinks flagId 0 decision.contributingEventIds
    flush (faults .commit) .scoreOutOfRange fun db => writeScore db decision examSession
    pure flag

/-- `persist_flag_decision`. -/
def persistFlagDecision (decision : FlagDecision) (examSession : ExamSession) (flagId : UUID)
    (faults : Faults) : Statement Flag :=
  flagInserts decision examSession flagId faults >>= fun flag =>
    Transaction.committing >>= fun _ => pure flag

/-- `_persist_one` with the session it loaded, up to the commit of its callee; every `except`
    clause rolls back and raises again. -/
def persistLoaded (examSession : ExamSession) (item : PersistedFlag) (c : PersistChoices)
    (faults : Faults) : Statement Flag :=
  Transaction.rollingBack <|
    insertTelemetryEvents examSession.id c.expungeRaises faults 0 item.contributingEvents >>=
      fun _ => persistFlagDecision item.decision examSession c.flagId faults

/-- What `_persist_one` has committed by the time its callee returns or an exception leaves. -/
def persistOne (db : Database) (sid : UUID) (item : PersistedFlag) (c : PersistChoices)
    (faults : Faults) : Database :=
  match db.getExamSession sid with
  | none => db
  | some examSession => Transaction.committedBy (persistLoaded examSession item c faults) db

/-! ## 2. A faulted transaction that reaches its end

Read from its end: if the whole transaction went through, then each statement did, on a working copy
that the plain functions would have reached as well. -/

/-- The events whose insert the environment lets through to the database. -/
def kept (faults : Faults) : Nat → List DispatchedEvent → List DispatchedEvent
  | _, [] => []
  | position, event :: events =>
    if faults (.telemetry position) = none then event :: kept faults (position + 1) events
    else kept faults (position + 1) events

section
variable {faults : Faults} {position : Nat} {events : List DispatchedEvent}
  {e : DispatchedEvent} {sid : UUID} {expungeRaises : Bool} {db db' db₂ : Database}
  {t t' : Transaction Database}

theorem mem_kept :
    e ∈ kept faults position events ↔
      ∃ i, events[i]? = some e ∧ faults (.telemetry (position + i)) = none := by
  induction events generalizing position with
  | nil => simp [kept]
  | cons event events ih =>
    -- The position of an event is counted from the start of the list, not of what is kept.
    have hstep : e ∈ kept faults position (event :: events) ↔
        (faults (.telemetry position) = none ∧ e = event) ∨
          e ∈ kept faults (position + 1) events := by
      simp only [kept]
      split
      · rename_i h
        simp [h]
      · rename_i h
        simp [h]
    rw [hstep, ih]
    constructor
    · intro h
      cases h with
      | inl h => exact ⟨0, by simp [h.2], h.1⟩
      | inr h =>
        obtain ⟨i, hi, hf⟩ := h
        exact ⟨i + 1, by simpa using hi, by rw [← hf]; congr 2; omega⟩
    · intro h
      obtain ⟨i, hi, hf⟩ := h
      cases i with
      | zero => exact .inl ⟨hf, by simpa using hi.symm⟩
      | succ i => exact .inr ⟨i, by simpa using hi, by rw [← hf]; congr 2; omega⟩

theorem kept_of_noFault (h : ∀ i < events.length, faults (.telemetry (position + i)) = none) :
    kept faults position events = events := by
  induction events generalizing position with
  | nil => rfl
  | cons event events ih =>
    have hhead : faults (.telemetry position) = none := h 0 (by simp)
    have htail : kept faults (position + 1) events = events := by
      apply ih
      intro i hi
      have := h (i + 1) (by simpa using hi)
      rw [← this]
      congr 2
      omega
    simp only [kept, if_pos hhead, htail]

/-- One insert that went through: it was not faulted and the database took or swallowed the
    row, or the `IntegrityError` was injected and swallowed. -/
theorem telemetryWrite_eq_ok_iff {fault : Option FlushFault} :
    telemetryWrite sid expungeRaises fault e db = .ok db' ↔
      (fault = none ∧ ProctorEngine.insertTelemetryEvent db sid e expungeRaises = .ok db') ∨
        (fault = some .integrity ∧ expungeRaises = false ∧ e.IsTelemetry ∧ db' = db) := by
  cases fault with
  | none =>
    simp only [telemetryWrite]
    cases ProctorEngine.insertTelemetryEvent db sid e expungeRaises <;> simp
  | some fault =>
    rw [← buildTelemetryEventRow_isSome_iff e sid]
    cases hrow : buildTelemetryEventRow e sid with
    | none => simp [telemetryWrite, hrow]
    | some row =>
      cases fault with
      | driver => simp [telemetryWrite, hrow]
      | integrity => cases expungeRaises <;> simp [telemetryWrite, hrow, eq_comm]

theorem isTelemetry_of_insert
    (h : ProctorEngine.insertTelemetryEvent db sid e expungeRaises = .ok db') :
    e.IsTelemetry := by
  rw [← buildTelemetryEventRow_isSome_iff e sid]
  cases hrow : buildTelemetryEventRow e sid with
  | none => simp [ProctorEngine.insertTelemetryEvent, hrow] at h
  | some row => rfl

/-- No point of the loop fails other than by a swallowed `IntegrityError`. -/
def Swallowed (expungeRaises : Bool) (faults : Faults) (position : Nat)
    (events : List DispatchedEvent) : Prop :=
  ∀ i < events.length, faults (.telemetry (position + i)) = none ∨
    (faults (.telemetry (position + i)) = some .integrity ∧ expungeRaises = false)

theorem swallowed_cons :
    Swallowed expungeRaises faults position (e :: events) ↔
      (faults (.telemetry position) = none ∨
        (faults (.telemetry position) = some .integrity ∧ expungeRaises = false)) ∧
      Swallowed expungeRaises faults (position + 1) events := by
  unfold Swallowed
  constructor
  · intro h
    refine ⟨h 0 (by simp), ?_⟩
    intro i hi
    have := h (i + 1) (by simpa using hi)
    rwa [show position + (i + 1) = position + 1 + i by omega] at this
  · intro h i hi
    cases i with
    | zero => exact h.1
    | succ i =>
      rw [show position + (i + 1) = position + 1 + i by omega]
      exact h.2 i (by simpa using hi)

/-- **The loop over the events, faults and all, is the plain loop over the events it was let
    insert.** -/
theorem insertTelemetryEvents_eq_ok_iff :
    insertTelemetryEvents sid expungeRaises faults position events t = .ok ⟨⟩ t' ↔
      (∀ e ∈ events, e.IsTelemetry) ∧ Swallowed expungeRaises faults position events ∧
        ∃ s, ProctorEngine.insertTelemetryEvents t.working sid expungeRaises
            (kept faults position events) = .ok s ∧ t' = t.write s := by
  induction events generalizing position t with
  | nil =>
    show EStateM.Result.ok PUnit.unit t = .ok ⟨⟩ t' ↔ _
    simp [Swallowed, kept, ProctorEngine.insertTelemetryEvents, Transaction.write, eq_comm]
  | cons event events ih =>
    simp only [insertTelemetryEvents, Transaction.bind_eq_ok_iff, swallowed_cons, kept,
      List.forall_mem_cons]
    constructor
    · rintro ⟨⟨⟩, t₁, h₁, h₂⟩
      obtain ⟨s₁, hs₁, rfl⟩ := Transaction.flush_eq_ok_iff.mp h₁
      obtain ⟨htel, hsw, s, hs, rfl⟩ := ih.mp h₂
      obtain ⟨hnone, hins⟩ | ⟨hint, hx, hte, rfl⟩ := telemetryWrite_eq_ok_iff.mp hs₁
      -- this insert was not faulted
      · refine ⟨⟨isTelemetry_of_insert hins, htel⟩, ⟨.inl hnone, hsw⟩, s, ?_, rfl⟩
        simp only [if_pos hnone, ProctorEngine.insertTelemetryEvents, hins]
        exact hs
      -- it was, and the savepoint swallowed it
      · refine ⟨⟨hte, htel⟩, ⟨.inr ⟨hint, hx⟩, hsw⟩, s, ?_, rfl⟩
        simp only [hint, reduceCtorEq, if_false]
        exact hs
    · rintro ⟨⟨hte, htel⟩, ⟨hfault, hsw⟩, s, hs, rfl⟩
      cases hfault with
      | inl hnone =>
        simp only [if_pos hnone, ProctorEngine.insertTelemetryEvents] at hs
        cases hins : ProctorEngine.insertTelemetryEvent t.working sid event expungeRaises with
        | error e => simp [hins] at hs
        | ok s₁ =>
          simp only [hins] at hs
          refine ⟨⟨⟩, t.write s₁, ?_, ih.mpr ⟨htel, hsw, s, hs, rfl⟩⟩
          exact Transaction.flush_eq_ok_iff.mpr
            ⟨s₁, telemetryWrite_eq_ok_iff.mpr (.inl ⟨hnone, hins⟩), rfl⟩
      | inr hint =>
        simp only [hint.1, reduceCtorEq, if_false] at hs
        refine ⟨⟨⟩, t.write t.working, ?_, ih.mpr ⟨htel, hsw, s, hs, rfl⟩⟩
        exact Transaction.flush_eq_ok_iff.mpr
          ⟨t.working, telemetryWrite_eq_ok_iff.mpr (.inr ⟨hint.1, hint.2, hte, rfl⟩), rfl⟩

theorem flush_eq_ok_iff {fault : Option FlushFault} {refused : PersistError}
    {insert : Database → Option Database} {u : PUnit} :
    flush fault refused insert t = .ok u t' ↔
      fault = none ∧ ∃ s, insert t.working = some s ∧ t' = t.write s := by
  cases fault with
  | none =>
    cases hs : insert t.working with
    | none => simp [flush, Transaction.rollingBack, Transaction.flush, hs]
    | some s => simp [flush, Transaction.rollingBack, Transaction.flush, hs, eq_comm]
  | some fault => cases fault <;> simp [flush, Transaction.rollingBack, Transaction.flush]

/-- What `persist_flag_decision` writes is written when none of its points fails. -/
theorem flagInserts_eq_ok_iff {decision : FlagDecision} {examSession : ExamSession}
    {flagId : UUID} {flag : Flag} :
    flagInserts decision examSession flagId faults t = .ok flag t' ↔
      (faults .flag = none ∧ faults .links = none ∧ faults .commit = none) ∧
        ∃ s, ProctorEngine.persistFlagDecision t.working decision examSession flagId =
          .ok (s, flag) ∧ t' = t.write s := by
  cases hsev : FlagSeverity.ofValue? decision.severity with
  | none =>
    simp only [flagInserts, ProctorEngine.persistFlagDecision, hsev, reduceCtorEq, false_and,
      exists_false, and_false, iff_false]
    intro h
    cases h
  | some severity =>
    simp only [flagInserts, hsev, Transaction.bind_eq_ok_iff, flush_eq_ok_iff]
    constructor
    · rintro ⟨⟨⟩, t₁, ⟨hf₁, db₁, h₁, rfl⟩, ⟨⟩, t₂, ⟨hf₂, db₂, h₂, rfl⟩, ⟨⟩, t₃,
        ⟨hf₃, db₃, h₃, rfl⟩, hpure⟩
      cases hpure
      refine ⟨⟨hf₁, hf₂, hf₃⟩, db₃, ?_, rfl⟩
      simp only [Transaction.write_working] at h₂ h₃
      simp only [ProctorEngine.persistFlagDecision, hsev, h₁, h₂, h₃]
    · rintro ⟨⟨hf₁, hf₂, hf₃⟩, s, hs, rfl⟩
      obtain ⟨severity', db₁, db₂, hsev', rfl, h₁, h₂, h₃⟩ := persistFlagDecision_eq_ok hs
      obtain rfl : severity = severity' := Option.some.inj (hsev.symm.trans hsev')
      exact ⟨⟨⟩, t.write db₁, ⟨hf₁, db₁, h₁, rfl⟩, ⟨⟩, t.write db₂, ⟨hf₂, db₂, h₂, rfl⟩, ⟨⟩,
        t.write s, ⟨hf₃, s, h₃, rfl⟩, rfl⟩

end

/-! ## 3. The whole transaction

The two halves together, and what is committed of them. -/

/-- Everything `_persist_one` writes before the commit. -/
def inserts (examSession : ExamSession) (item : PersistedFlag) (c : PersistChoices)
    (faults : Faults) : Statement Flag :=
  insertTelemetryEvents examSession.id c.expungeRaises faults 0 item.contributingEvents >>=
    fun _ => flagInserts item.decision examSession c.flagId faults

/-- The item as far as the environment let its events through. -/
def keptItem (item : PersistedFlag) (faults : Faults) : PersistedFlag :=
  { item with contributingEvents := kept faults 0 item.contributingEvents }

@[simp] theorem keptItem_decision (item : PersistedFlag) (faults : Faults) :
    (keptItem item faults).decision = item.decision := rfl

/-- What the environment and the builder must not do for the transaction to reach its end. -/
structure Undisturbed (item : PersistedFlag) (c : PersistChoices) (faults : Faults) : Prop where
  telemetry : ∀ e ∈ item.contributingEvents, e.IsTelemetry
  swallowed : Swallowed c.expungeRaises faults 0 item.contributingEvents
  flag : faults .flag = none
  links : faults .links = none
  commit : faults .commit = none

section
variable {db db₂ : Database} {examSession : ExamSession} {item : PersistedFlag}
  {c : PersistChoices} {faults : Faults} {t : Transaction Database}

theorem keepsCommitted_insertTelemetryEvents (sid : UUID) (expungeRaises : Bool) (faults : Faults)
    (position : Nat) (events : List DispatchedEvent) :
    Transaction.KeepsCommitted
      (insertTelemetryEvents sid expungeRaises faults position events) := by
  induction events generalizing position with
  | nil => exact Transaction.KeepsCommitted.pure _
  | cons event events ih =>
    exact (Transaction.KeepsCommitted.flush _).bind fun _ => ih _

theorem keepsCommitted_flush (fault : Option FlushFault) (refused : PersistError)
    (insert : Database → Option Database) :
    Transaction.KeepsCommitted (flush fault refused insert) :=
  (Transaction.KeepsCommitted.flush _).rollingBack

/-- Nothing is committed before the one commit. -/
theorem keepsCommitted_inserts (examSession : ExamSession) (item : PersistedFlag)
    (c : PersistChoices) (faults : Faults) :
    Transaction.KeepsCommitted (inserts examSession item c faults) := by
  apply Transaction.KeepsCommitted.bind (keepsCommitted_insertTelemetryEvents _ _ _ _ _)
  intro _
  unfold flagInserts
  cases FlagSeverity.ofValue? item.decision.severity with
  | none => exact Transaction.KeepsCommitted.throw _
  | some severity =>
    apply Transaction.KeepsCommitted.bind (keepsCommitted_flush _ _ _)
    intro _
    apply Transaction.KeepsCommitted.bind (keepsCommitted_flush _ _ _)
    intro _
    apply Transaction.KeepsCommitted.bind (keepsCommitted_flush _ _ _)
    intro _
    exact Transaction.KeepsCommitted.pure _

/-- **A transaction reaches its end exactly when nothing disturbs it and the plain transaction
    on the events it was let insert does.** -/
theorem inserts_eq_ok_iff :
    (∃ flag, inserts examSession item c faults (.begin db) = .ok flag t) ↔
      Undisturbed item c faults ∧
        ∃ db₂, CommitsFlag db examSession (keptItem item faults) c db₂ ∧ t = ⟨db, db₂⟩ := by
  simp only [inserts, Transaction.bind_eq_ok_iff]
  constructor
  · rintro ⟨flag, ⟨⟩, t₁, h₁, h₂⟩
    obtain ⟨htel, hsw, db₁, hdb₁, rfl⟩ := insertTelemetryEvents_eq_ok_iff.mp h₁
    obtain ⟨⟨hf, hl, hc⟩, s, hs, rfl⟩ := flagInserts_eq_ok_iff.mp h₂
    exact ⟨⟨htel, hsw, hf, hl, hc⟩, s, ⟨db₁, flag, hdb₁, hs⟩, rfl⟩
  · rintro ⟨⟨htel, hsw, hf, hl, hc⟩, db₂, ⟨db₁, flag, h₁, h₂⟩, rfl⟩
    exact ⟨flag, ⟨⟩, _, insertTelemetryEvents_eq_ok_iff.mpr ⟨htel, hsw, db₁, h₁, rfl⟩,
      flagInserts_eq_ok_iff.mpr ⟨⟨hf, hl, hc⟩, db₂, h₂, rfl⟩⟩

/-- **What is committed is all of the transaction or nothing.** -/
theorem persistLoaded_committed (db : Database) (examSession : ExamSession)
    (item : PersistedFlag) (c : PersistChoices) (faults : Faults) :
    (Undisturbed item c faults ∧ CommitsFlag db examSession (keptItem item faults) c
        (Transaction.committedBy (persistLoaded examSession item c faults) db)) ∨
      (¬ (Undisturbed item c faults ∧
          ∃ db₂, CommitsFlag db examSession (keptItem item faults) c db₂) ∧
        Transaction.committedBy (persistLoaded examSession item c faults) db = db) := by
  -- the rollback of the callee and that of the caller are one
  have hshape : persistLoaded examSession item c faults =
      Transaction.rollingBack (inserts examSession item c faults >>= fun flag =>
        Transaction.committing >>= fun _ => pure flag) := by
    simp only [persistLoaded, inserts, persistFlagDecision, bind_assoc]
  rw [hshape, Transaction.committedBy]
  obtain ⟨flag, t, hok, hrun⟩ | ⟨e, t, herr, hrun⟩ :=
    Transaction.committed_atomically (keepsCommitted_inserts examSession item c faults) db
  · obtain ⟨hun, db₂, hcommit, rfl⟩ := inserts_eq_ok_iff.mp ⟨flag, hok⟩
    rw [hrun]
    exact .inl ⟨hun, hcommit⟩
  · rw [hrun]
    refine .inr ⟨?_, rfl⟩
    rintro ⟨hun, db₂, hcommit⟩
    obtain ⟨flag, hok⟩ := inserts_eq_ok_iff.mpr ⟨hun, db₂, hcommit, rfl⟩
    rw [herr] at hok
    cases hok

end

/-! ## 4. All or nothing

`Gained` is the whole of an item in the database. It is what a committed transaction leaves, where
nothing was swallowed that mattered and the sum fits the column; and if it is left at every failure
pattern, then it is left at the two that test these. -/

/-- What the database gains from one persisted item: the flag, its links in order, a row for
    each contributing event that had none, and the decision's delta on the session's score. -/
structure Gained (db : Database) (examSession : ExamSession) (item : PersistedFlag)
    (flagId : UUID) (db' : Database) : Prop where
  flags : ∃ severity,
    db'.flags.rows = db.flags.rows ++ [flagOf item.decision examSession severity flagId]
  links : db'.flagTelemetryEvents.rows = db.flagTelemetryEvents.rows ++
    item.decision.contributingEventIds.mapIdx fun position id => ⟨flagId, id, position⟩
  telemetry_kept : ∀ x ∈ db.telemetryEvents, x ∈ db'.telemetryEvents
  telemetry_new : ∀ x ∈ db'.telemetryEvents, x ∉ db.telemetryEvents →
    x.id ∉ db.telemetryIds ∧
      ∃ e ∈ item.contributingEvents, buildTelemetryEventRow e examSession.id = some x
  telemetry_each : ∀ e ∈ item.contributingEvents,
    ∃! x, x ∈ db'.telemetryEvents ∧ x.id = e.syntheticId
  score : ∀ id, db'.getExamSession id = (db.getExamSession id).map fun s =>
    { s with
      accumulatedMediumScore :=
        if id = examSession.id then s.accumulatedMediumScore + max item.decision.scoreDelta 0
        else s.accumulatedMediumScore }
  rest : ∃ examSessions telemetryEvents flags flagTelemetryEvents,
    db' = { db with examSessions, telemetryEvents, flags, flagTelemetryEvents }

/-- The call left the database as it was, or it left all of the item in it. -/
def AllOrNothing (db : Database) (sid : UUID) (item : PersistedFlag) (flagId : UUID)
    (db' : Database) : Prop :=
  db' = db ∨ ∃ examSession, db.getExamSession sid = some examSession ∧
    Gained db examSession item flagId db'

/-- What a persistable item must meet to be added as it is: the column can hold the sum
    without rounding, and an event whose `IntegrityError` could be swallowed has its row
    already or is named by the decision, whose links then fail without it. -/
structure AddsExactly (db : Database) (examSession : ExamSession) (item : PersistedFlag)
    (c : PersistChoices) : Prop where
  decimals : 0 < item.decision.scoreDelta →
    ∃ n : Int, examSession.accumulatedMediumScore + item.decision.scoreDelta = n / 10000
  named : c.expungeRaises = false → ∀ e ∈ item.contributingEvents,
    e.syntheticId ∈ db.telemetryIds ∨ e.syntheticId ∈ item.decision.contributingEventIds

section
variable {db db₂ : Database} {examSession : ExamSession} {item : PersistedFlag}
  {c : PersistChoices} {faults : Faults} {sid : UUID}

/-- Two telemetry rows of one key are one row. -/
theorem telemetryRow_unique {t : Table TelemetryEvent (SameKey TelemetryEvent.id)}
    {x y : TelemetryEvent} (hx : x ∈ t) (hy : y ∈ t) (h : x.id = y.id) : x = y := by
  have hclash : SameKey TelemetryEvent.id x y := h
  exact Table.eq_of_clash hx hy hclash

/-- The score column of the session after an exact sum. -/
theorem scoreAfter_exact (hsome : 0 < item.decision.scoreDelta →
      (numeric104 (examSession.accumulatedMediumScore + item.decision.scoreDelta)).isSome)
    (hexact : 0 < item.decision.scoreDelta →
      ∃ n : Int, examSession.accumulatedMediumScore + item.decision.scoreDelta = n / 10000) :
    scoreAfter item.decision examSession examSession.id examSession.accumulatedMediumScore =
      examSession.accumulatedMediumScore + max item.decision.scoreDelta 0 := by
  unfold scoreAfter
  by_cases hdelta : 0 < item.decision.scoreDelta
  · obtain ⟨n, hn⟩ := hexact hdelta
    rw [if_pos ⟨rfl, hdelta⟩, numeric104_of_four_decimals hn (hsome hdelta),
      max_eq_left (le_of_lt hdelta)]
    rfl
  · rw [if_neg (fun h => hdelta h.2), max_eq_right (not_lt.mp hdelta), add_zero]

/-- Conversely a sum the column holds as it is has four decimals. -/
theorem decimals_of_scoreAfter
    (hsome : (numeric104
      (examSession.accumulatedMediumScore + item.decision.scoreDelta)).isSome)
    (hdelta : 0 < item.decision.scoreDelta)
    (h : scoreAfter item.decision examSession examSession.id examSession.accumulatedMediumScore =
      examSession.accumulatedMediumScore + max item.decision.scoreDelta 0) :
    ∃ n : Int, examSession.accumulatedMediumScore + item.decision.scoreDelta = n / 10000 := by
  obtain ⟨stored, hstored⟩ := Option.isSome_iff_exists.mp hsome
  rw [scoreAfter, if_pos ⟨rfl, hdelta⟩, hstored, max_eq_left (le_of_lt hdelta)] at h
  obtain ⟨n, hn⟩ := four_decimals_of_numeric104 hstored
  exact ⟨n, h.symm.trans hn⟩

/-- A committed transaction has left all of the item, where every event has its row. -/
theorem gained_of_commitsFlag (hs : db.getExamSession examSession.id = some examSession)
    (h : CommitsFlag db examSession (keptItem item faults) c db₂)
    (hexact : 0 < item.decision.scoreDelta →
      ∃ n : Int, examSession.accumulatedMediumScore + item.decision.scoreDelta = n / 10000)
    (heach : ∀ e ∈ item.contributingEvents, e.syntheticId ∈ db₂.telemetryIds) :
    Gained db examSession item c.flagId db₂ := by
  have hsome : (db.getExamSession examSession.id).isSome := by simp [hs]
  have hrows := h.persistedRows hsome
  have hpersistable := (persistable_iff hsome).mpr ⟨db₂, h⟩
  have heffect := h.effect hsome
  have hkept := heffect.telemetry_kept
  refine ⟨hrows.flags, heffect.links, hkept, ?_, ?_, ?_, ?_⟩
  -- a new row is a row of one of the events
  · intro x hx hnew
    constructor
    · intro hid
      obtain ⟨y, hy, he⟩ := List.mem_map.mp hid
      have hxy : y = x := telemetryRow_unique (hkept y (Table.mem_rows.mp hy)) hx he
      exact hnew (hxy ▸ Table.mem_rows.mp hy)
    · obtain hold | ⟨e, he, hrow⟩ := hrows.telemetryEvents x hx
      · exact absurd hold hnew
      · obtain ⟨i, hi, -⟩ := mem_kept.mp he
        exact ⟨e, List.mem_of_getElem? hi, hrow⟩
  -- every event has one row
  · intro e he
    obtain ⟨x, hx, hid⟩ := List.mem_map.mp (heach e he)
    refine ⟨x, ⟨Table.mem_rows.mp hx, hid⟩, ?_⟩
    rintro y ⟨hy, hyid⟩
    exact telemetryRow_unique hy (Table.mem_rows.mp hx) (hyid.trans hid.symm)
  -- the score
  · intro id
    rw [hrows.examSessions id]
    cases hfind : db.getExamSession id with
    | none => rfl
    | some s =>
      by_cases hid : id = examSession.id
      · subst hid
        obtain rfl : examSession = s := Option.some.inj (hs.symm.trans hfind)
        have hsum : scoreAfter item.decision examSession examSession.id
            examSession.accumulatedMediumScore =
              examSession.accumulatedMediumScore + max item.decision.scoreDelta 0 :=
          scoreAfter_exact hpersistable.score hexact
        simp only [Option.map_some, if_true, keptItem_decision, hsum]
      · simp only [Option.map_some, if_neg hid]
        simp [scoreAfter, hid]
  · obtain ⟨t, t₃, t₄, t₅, hframe⟩ := heffect.frame
    exact ⟨t₅, t, t₃, t₄, hframe⟩

/-- What could be persisted with some events kept from the database could be without. -/
theorem persistable_of_kept (hun : Undisturbed item c faults)
    (h : Persistable db examSession (keptItem item faults) c) :
    Persistable db examSession item c := by
  have hsub : ∀ i, i ∈ (keptItem item faults).contributingEvents.map (·.syntheticId) →
      i ∈ item.contributingEvents.map (·.syntheticId) := by
    intro i hi
    obtain ⟨e, he, rfl⟩ := List.mem_map.mp hi
    obtain ⟨n, hn, -⟩ := mem_kept.mp he
    exact List.mem_map_of_mem (List.mem_of_getElem? hn)
  refine ⟨hun.telemetry, ?_, h.severity, h.flag, fun i hi => (h.rows i hi).imp_right (hsub i),
    h.nodup, h.unlinked, h.score⟩
  intro hx
  have hall : kept faults 0 item.contributingEvents = item.contributingEvents := by
    apply kept_of_noFault
    intro i hi
    cases hun.swallowed i hi with
    | inl hnone => exact hnone
    | inr hint => exact absurd (hx.symm.trans hint.2) (by decide)
  have hkeys := h.keys hx
  simp only [keptItem, hall] at hkeys
  exact hkeys

/-- The environment that fails the inserts of one event and nothing else. -/
def skipping (events : List DispatchedEvent) (id : UUID) : Faults
  | .telemetry position =>
    if (events[position]?).any fun e => e.syntheticId = id then some .integrity else none
  | _ => none

theorem mem_kept_skipping {events : List DispatchedEvent} {id : UUID} {e : DispatchedEvent} :
    e ∈ kept (skipping events id) 0 events ↔ e ∈ events ∧ e.syntheticId ≠ id := by
  rw [mem_kept]
  constructor
  · rintro ⟨i, hi, hf⟩
    refine ⟨List.mem_of_getElem? hi, ?_⟩
    intro he
    simp [skipping, hi, he] at hf
  · rintro ⟨hmem, hne⟩
    obtain ⟨i, hi⟩ := List.mem_iff_getElem?.mp hmem
    exact ⟨i, hi, by simp [skipping, hi, hne]⟩

/-- The decision is persistable without an event it does not name. -/
theorem persistable_skipping {id : UUID} (hx : c.expungeRaises = false)
    (hunnamed : id ∉ item.decision.contributingEventIds)
    (h : Persistable db examSession item c) :
    Persistable db examSession (keptItem item (skipping item.contributingEvents id)) c := by
  refine ⟨fun x hmem => h.telemetry x (mem_kept_skipping.mp hmem).1,
    fun hraises => absurd (hx.symm.trans hraises) (by decide), h.severity, h.flag, ?_, h.nodup,
    h.unlinked, h.score⟩
  intro i hi
  refine (h.rows i hi).imp_right ?_
  intro hmem
  obtain ⟨x, hxmem, rfl⟩ := List.mem_map.mp hmem
  refine List.mem_map_of_mem (mem_kept_skipping.mpr ⟨hxmem, ?_⟩)
  intro hsame
  exact hunnamed (hsame ▸ hi)

theorem undisturbed_skipping {id : UUID} (hx : c.expungeRaises = false)
    (htelemetry : ∀ e ∈ item.contributingEvents, e.IsTelemetry) :
    Undisturbed item c (skipping item.contributingEvents id) := by
  refine ⟨htelemetry, ?_, rfl, rfl, rfl⟩
  intro i _
  by_cases h : (item.contributingEvents[0 + i]?).any fun x => x.syntheticId = id
  · exact .inr ⟨if_pos h, hx⟩
  · exact .inl (if_neg h)

@[simp] theorem keptItem_noFaults (item : PersistedFlag) : keptItem item noFaults = item := by
  have hnone : ∀ i < item.contributingEvents.length, noFaults (.telemetry (0 + i)) = none :=
    fun _ _ => rfl
  simp only [keptItem, kept_of_noFault hnone]

theorem undisturbed_noFaults (htelemetry : ∀ e ∈ item.contributingEvents, e.IsTelemetry) :
    Undisturbed item c noFaults := ⟨htelemetry, fun _ _ => .inl rfl, rfl, rfl, rfl⟩

/-- A transaction that reaches its end adds a flag; if it is all-or-nothing it is all. -/
theorem Undisturbed.gained (hun : Undisturbed item c faults)
    (hfind : db.getExamSession examSession.id = some examSession)
    (hkept : Persistable db examSession (keptItem item faults) c)
    (h : AllOrNothing db examSession.id item c.flagId
      (persistOne db examSession.id item c faults)) :
    ∃ db₂, CommitsFlag db examSession (keptItem item faults) c db₂ ∧
      Gained db examSession item c.flagId db₂ := by
  have hsome : (db.getExamSession examSession.id).isSome := by simp [hfind]
  obtain ⟨-, hcommit⟩ | ⟨hnot, -⟩ := persistLoaded_committed db examSession item c faults
  · simp only [persistOne, hfind] at h
    obtain hsame | ⟨examSession', hfind', hg⟩ := h
    · obtain ⟨severity, hflags⟩ := (hcommit.persistedRows hsome).flags
      rw [hsame] at hflags
      exact absurd (congrArg List.length hflags) (by simp)
    · obtain rfl : examSession = examSession' := Option.some.inj (hfind.symm.trans hfind')
      exact ⟨_, hcommit, hg⟩
  · exact absurd ⟨hun, (persistable_iff hsome).mp hkept⟩ hnot

/-- What all-or-nothing at two failure patterns says about the item: no failure at all, and an
    `IntegrityError` at one event. -/
theorem addsExactly_of_allOrNothing
    (hfind : db.getExamSession examSession.id = some examSession)
    (hpersistable : Persistable db examSession item c)
    (hall : ∀ faults, AllOrNothing db examSession.id item c.flagId
      (persistOne db examSession.id item c faults)) :
    AddsExactly db examSession item c := by
  have hsome : (db.getExamSession examSession.id).isSome := by simp [hfind]
  refine ⟨?_, ?_⟩
  -- without any fault the sum is stored as it is
  · intro hdelta
    obtain ⟨db₂, hcommit, hg⟩ := (undisturbed_noFaults hpersistable.telemetry).gained hfind
      ((keptItem_noFaults item).symm ▸ hpersistable) (hall noFaults)
    have hscore := (hg.score examSession.id).symm.trans
      ((hcommit.persistedRows hsome).examSessions examSession.id)
    simp only [hfind, Option.map_some, if_true, Option.some.injEq] at hscore
    have hsum := congrArg ExamSession.accumulatedMediumScore hscore
    exact decimals_of_scoreAfter (hpersistable.score hdelta) hdelta hsum.symm
  -- an event that has no row and is not named: swallow its insert
  · intro hx e he
    by_contra hnot
    obtain ⟨habsent, hunnamed⟩ := not_or.mp hnot
    obtain ⟨db₂, hcommit, hg⟩ := (undisturbed_skipping hx hpersistable.telemetry).gained hfind
      (persistable_skipping hx hunnamed hpersistable) (hall _)
    obtain ⟨x, ⟨hmem, hid⟩, -⟩ := hg.telemetry_each e he
    have hids : e.syntheticId ∈ db₂.telemetryIds :=
      List.mem_map.mpr ⟨x, Table.mem_rows.mpr hmem, hid⟩
    obtain hold | hnew := ((hcommit.effect hsome).telemetry_ids _).mp hids
    · exact habsent hold
    · obtain ⟨e', he', hsame⟩ := List.mem_map.mp hnew
      exact (mem_kept_skipping.mp he').2 hsame

/-- An item that adds exactly is added as a whole or not at all, wherever a point fails. -/
theorem allOrNothing_of_addsExactly
    (hfind : db.getExamSession examSession.id = some examSession)
    (hexact : Persistable db examSession item c → AddsExactly db examSession item c)
    (faults : Faults) :
    AllOrNothing db examSession.id item c.flagId
      (persistOne db examSession.id item c faults) := by
  have hsome : (db.getExamSession examSession.id).isSome := by simp [hfind]
  simp only [persistOne, hfind]
  obtain ⟨hun, hcommit⟩ | ⟨-, hsame⟩ := persistLoaded_committed db examSession item c faults
  · have hkept := (persistable_iff hsome).mpr ⟨_, hcommit⟩
    have hadds := hexact (persistable_of_kept hun hkept)
    refine .inr ⟨examSession, hfind, gained_of_commitsFlag hfind hcommit hadds.decimals ?_⟩
    intro e he
    rw [(hcommit.effect hsome).telemetry_ids]
    obtain ⟨i, hi⟩ := List.mem_iff_getElem?.mp he
    have hlt : i < item.contributingEvents.length := (List.getElem?_eq_some_iff.mp hi).1
    cases hun.swallowed i hlt with
    | inl hnone => exact .inr (List.mem_map_of_mem (mem_kept.mpr ⟨i, hi, hnone⟩))
    | inr hint =>
      cases hadds.named hint.2 e he with
      | inl hold => exact .inl hold
      | inr hnamed => exact hkept.rows _ hnamed
  · exact .inl hsame

/-- **Persisting is all-or-nothing at every failure point exactly when a persistable item adds
    exactly.** The column keeps four decimals, so a sum with more is not what was added; and a
    savepoint may swallow the row of an event the decision does not name. -/
theorem allOrNothing_iff (db : Database) (sid : UUID) (item : PersistedFlag)
    (c : PersistChoices) :
    (∀ faults, AllOrNothing db sid item c.flagId (persistOne db sid item c faults)) ↔
      ∀ examSession, db.getExamSession sid = some examSession →
        Persistable db examSession item c → AddsExactly db examSession item c := by
  constructor
  · intro hall examSession hfind hpersistable
    obtain rfl : examSession.id = sid := Database.getExamSession_id hfind
    exact addsExactly_of_allOrNothing hfind hpersistable hall
  · intro hexact faults
    cases hfind : db.getExamSession sid with
    | none => exact .inl (by simp only [persistOne, hfind])
    | some examSession =>
      obtain rfl : examSession.id = sid := Database.getExamSession_id hfind
      exact allOrNothing_of_addsExactly hfind (hexact examSession hfind) faults

/-- A decision that raises the score by less than the column's last decimal. -/
def tinyItem : PersistedFlag where
  decision :=
    { ruleCode := "audio_anomaly", severity := "medium", confidence := .certain
      contributingEventIds := [10], scoreDelta := 1 / 100000 }
  contributingEvents := [faceEvent 10 2]

/-- The flag is committed, and the score stays where it was. -/
theorem tinyItem_not_allOrNothing :
    ¬ ∀ (db : Database) (sid : UUID) (item : PersistedFlag) (c : PersistChoices)
      (faults : Faults), AllOrNothing db sid item c.flagId (persistOne db sid item c faults) := by
  intro h
  have hlast := h activeDatabase 1 tinyItem ⟨20, 30, true⟩ noFaults
  have hflags : (persistOne activeDatabase 1 tinyItem ⟨20, 30, true⟩ noFaults).flags.rows.length
      = 1 := by decide +kernel
  have hscore : ((persistOne activeDatabase 1 tinyItem ⟨20, 30, true⟩ noFaults).getExamSession
      1).map (·.accumulatedMediumScore) = some 0 := by decide +kernel
  obtain hsame | ⟨examSession, hfind, hg⟩ := hlast
  · rw [hsame] at hflags
    exact absurd hflags (by decide)
  · have hid : examSession.id = 1 := Database.getExamSession_id hfind
    have hsum := hg.score 1
    rw [hfind, hid] at hsum
    rw [hsum] at hscore
    have hzero : examSession.accumulatedMediumScore = 0 := by
      have hstart : (activeDatabase.getExamSession 1).map (·.accumulatedMediumScore) = some 0 := by
        decide +kernel
      rw [hfind] at hstart
      exact Option.some.inj hstart
    simp [hzero, tinyItem] at hscore

end

/-! ## 5. The call without faults -/

section
variable {db : Database} {sid : UUID} {item : PersistedFlag} {c : PersistChoices}

/-- Where nothing fails by itself, a call that does not terminate leaves what the plain model
    of the worker says. -/
theorem persistOne_noFaults (htrigger : item.decision.triggeredTermination = false) :
    persistOne db sid item c noFaults = (ProctorEngine.persistOne db sid item c).db := by
  cases hfind : db.getExamSession sid with
  | none => simp only [persistOne, ProctorEngine.persistOne, hfind]
  | some examSession =>
    obtain rfl : examSession.id = sid := Database.getExamSession_id hfind
    have hsome : (db.getExamSession examSession.id).isSome := by simp [hfind]
    rw [persistOne_found hfind]
    simp only [persistOne, hfind]
    have heffect := persistLoaded_effect item c hsome
    generalize ProctorEngine.persistLoaded db examSession item c = result at heffect
    obtain ⟨hun, hcommit⟩ | ⟨hnot, hsame⟩ := persistLoaded_committed db examSession item c noFaults
    · rw [keptItem_noFaults] at hcommit
      cases heffect with
      | refused hrefused => exact absurd ((persistable_iff hsome).mpr ⟨_, hcommit⟩) hrefused
      | flagged _ hcommit' _ => exact hcommit.unique hcommit'
      | unfired _ _ htrue _ => exact absurd (htrigger.symm.trans htrue) (by decide)
      | terminated _ _ htrue _ _ => exact absurd (htrigger.symm.trans htrue) (by decide)
    · rw [keptItem_noFaults] at hnot
      cases heffect with
      | refused _ => exact hsame
      | flagged hpersistable hcommit' _ =>
        exact absurd ⟨undisturbed_noFaults hpersistable.telemetry, _, hcommit'⟩ hnot
      | unfired _ _ htrue _ => exact absurd (htrigger.symm.trans htrue) (by decide)
      | terminated _ _ htrue _ _ => exact absurd (htrigger.symm.trans htrue) (by decide)

end

end ProctorEngine.FlagTransaction
