import ProctorEngine.Orchestration.FlagPersistence
import ProctorEngine.Orchestration.TerminationRecords
import ProctorEngine.Websocket.Server

/-!
# The flag persistence worker

`FlagPersistenceWorker._persist_one`: the telemetry rows of one `PersistedFlag`, its flag row, and —
in a second transaction — the termination record of a terminating decision and the kill-switch
callback. **The flag is committed before the record is looked at**, so an exception from the second
transaction leaves a committed flag behind an unfired kill-switch.

What the environment decides for one call is in `PersistChoices`: the two keys `uuid4` draws, and
whether `Session.expunge` raises for a row whose flush failed inside the savepoint (the flush has
already expelled it).

A call is described twice over, and everything later uses the descriptions. `Persistable` and
`FirstTermination` are conditions on the database and the decision, before the call, under which the
first and the second transaction commit; `PersistEffect` lists the four outcomes of a call with the
condition that leads to each. `FlagEffect` says what the first transaction has done when it commits:
four tables change, and of each one it is said how.
-/

set_option autoImplicit false

namespace ProctorEngine

/-- A decision with the events that support it, as queued on `flag_decisions`. -/
structure PersistedFlag where
  decision : FlagDecision
  contributingEvents : List DispatchedEvent
deriving DecidableEq

structure PersistChoices where
  flagId : UUID
  recordId : UUID
  expungeRaises : Bool
deriving DecidableEq

/-! ## 1. Telemetry rows

One savepoint a row, so that a key that is taken costs that row and not the transaction. -/

/-- `_build_telemetry_event_row`, with the session the worker stamps on it. An acknowledgement
    is no telemetry: the builder raises. -/
def buildTelemetryEventRow (event : DispatchedEvent) (sid : UUID) : Option TelemetryEvent :=
  let row (modality : TelemetryModality) (eventType : String) (confidence : ℚ) (rawValue : Dict)
      (boundingBoxes : List (List ℚ)) : TelemetryEvent :=
    { id := event.syntheticId, examSessionId := sid, modality, eventType
      occurredAt := event.message.capturedAt, receivedAt := event.receivedAt
      confidence, rawValue, boundingBoxes }
  match event.message.payload with
  | .telemetryLight p =>
    some <| row .face
      (if 2 ≤ p.faceCount then "second_person" else if p.faceCount = 0 then "no_face"
        else "one_face")
      p.confidence.val
      (match p.bbox with
        | none => []
        | some b => [("bbox", .arr (b.components.map .num))])
      (p.bbox.toList.map (·.components))
  | .telemetryHeavyFrame p =>
    some <| row .system "heavy_frame_received" 1
      [("resolution", .arr [.num p.width, .num p.height]), ("encoding", .str p.encoding)] []
  | .audioChunk p =>
    some <| row .audio "audio_chunk_received" 1
      [("sample_rate_hz", .num p.sampleRateHz), ("duration_ms", .num p.durationMs)] []
  | .browserEvent p => some <| row .browser p.eventType 1 [("detail", .obj p.detail)] []
  | .killSwitchAck _ => none

/-- `_insert_telemetry_event`: one row in a savepoint. A refused insert rolls the savepoint
    back and then expunges the row. -/
def insertTelemetryEvent (db : Database) (sid : UUID) (event : DispatchedEvent)
    (expungeRaises : Bool) : Except PersistError Database :=
  match buildTelemetryEventRow event sid with
  | none => .error .valueError
  | some row =>
    match (if (db.getExamSession sid).isSome then db.telemetryEvents.insert? row else none) with
    | some t => .ok { db with telemetryEvents := t }
    | none => if expungeRaises then .error .invalidRequest else .ok db

def insertTelemetryEvents (db : Database) (sid : UUID) (expungeRaises : Bool) :
    List DispatchedEvent → Except PersistError Database
  | [] => .ok db
  | event :: events =>
    match insertTelemetryEvent db sid event expungeRaises with
    | .error e => .error e
    | .ok db' => insertTelemetryEvents db' sid expungeRaises events

/-! ## 2. The worker

The database is passed on from one part of the call to the next, and the result of a part that fails
is the database before it: that is the rollback. -/

/-- The record the kill-switch inserts. -/
def killSwitchRecord (sid : UUID) (decision : FlagDecision) (c : PersistChoices) :
    TerminationRecord where
  id := c.recordId
  examSessionId := sid
  triggeringFlagId := some c.flagId
  reason := decision.ruleCode

/-- `_handle_kill_switch` up to its commit. Where the session has a record the code assigns
    the new flag and reason to it, and the listener rejects the update. -/
def handleKillSwitch (db : Database) (sid : UUID) (decision : FlagDecision)
    (c : PersistChoices) : Except PersistError Database :=
  match db.terminationRecordOf sid with
  | none =>
    match db.insertTerminationRecord (killSwitchRecord sid decision c) with
    | none => .error .terminationIntegrity
    | some db' => .ok db'
  | some _ => .error .immutableRecord

/-- What one `_persist_one` leaves: the committed database, the exception that left it, and
    the kill-switch callbacks it made. The callback's own exceptions are caught. -/
structure PersistResult where
  db : Database
  raised : Option PersistError
  killSwitches : List (UUID × String)

/-- `_persist_one` once the exam session is loaded. Telemetry and flag are one transaction, the
    kill-switch another. The callback comes after both, so an exception in the second keeps it from
    being called. -/
def persistLoaded (db : Database) (examSession : ExamSession) (item : PersistedFlag)
    (c : PersistChoices) : PersistResult :=
  match insertTelemetryEvents db examSession.id c.expungeRaises item.contributingEvents with
  | .error e => ⟨db, some e, []⟩
  | .ok db₁ =>
    match persistFlagDecision db₁ item.decision examSession c.flagId with
    | .error e => ⟨db, some e, []⟩
    | .ok (db₂, flag) =>
      -- the flag is committed here; what follows is a transaction of its own
      if item.decision.triggeredTermination then
        match handleKillSwitch db₂ examSession.id item.decision c with
        | .error e => ⟨db₂, some e, []⟩
        | .ok db₃ => ⟨db₃, none, [(flag.id, item.decision.ruleCode)]⟩
      else ⟨db₂, none, []⟩

/-- `_persist_one`: a decision for a session that does not exist is dropped without an
    exception. -/
def persistOne (db : Database) (sid : UUID) (item : PersistedFlag) (c : PersistChoices) :
    PersistResult :=
  match db.getExamSession sid with
  | none => ⟨db, none, []⟩
  | some examSession => persistLoaded db examSession item c

/-! ## 3. When the telemetry rows go in

By induction over the events of the decision. The keys in the table afterwards do not depend on
`expungeRaises`, only whether the call gets that far. -/

/-- The event is telemetry, not an acknowledgement. -/
def DispatchedEvent.IsTelemetry (event : DispatchedEvent) : Prop :=
  ∀ p, event.message.payload ≠ .killSwitchAck p

section
variable {db db' : Database} {sid : UUID} {event : DispatchedEvent} {row : TelemetryEvent}
  {expungeRaises : Bool} {events : List DispatchedEvent}

theorem buildTelemetryEventRow_isSome_iff (event : DispatchedEvent) (sid : UUID) :
    (buildTelemetryEventRow event sid).isSome ↔ event.IsTelemetry := by
  unfold buildTelemetryEventRow DispatchedEvent.IsTelemetry
  cases event.message.payload <;> simp

/-- The row's key is the dispatcher's, its session the worker's. -/
theorem buildTelemetryEventRow_eq_some (h : buildTelemetryEventRow event sid = some row) :
    row.id = event.syntheticId ∧ row.examSessionId = sid := by
  unfold buildTelemetryEventRow at h
  cases hp : event.message.payload <;> simp only [hp, Option.some.injEq, reduceCtorEq] at h <;>
    subst h <;> exact ⟨rfl, rfl⟩

/-- One insert: the row is new, or its key is taken and the savepoint swallowed that. -/
theorem insertTelemetryEvent_cases (hs : (db.getExamSession sid).isSome)
    (h : insertTelemetryEvent db sid event expungeRaises = .ok db') :
    ∃ row, buildTelemetryEventRow event sid = some row ∧
      ((∃ t, db.telemetryEvents.insert? row = some t ∧
          db' = { db with telemetryEvents := t }) ∨
        (event.syntheticId ∈ db.telemetryIds ∧ expungeRaises = false ∧ db' = db)) := by
  unfold insertTelemetryEvent at h
  split at h
  · exact absurd h (by simp)
  · rename_i row hrow
    refine ⟨row, hrow, ?_⟩
    rw [if_pos hs] at h
    cases ht : db.telemetryEvents.insert? row with
    | some t =>
      simp only [ht, Except.ok.injEq] at h
      exact .inl ⟨t, rfl, h.symm⟩
    | none =>
      obtain ⟨x, hx, hid⟩ := Table.insert?_eq_none_iff.mp ht
      have hmem : event.syntheticId ∈ db.telemetryIds :=
        List.mem_map.mpr ⟨x, hx, hid.trans (buildTelemetryEventRow_eq_some hrow).1⟩
      cases expungeRaises with
      | true => simp [ht] at h
      | false =>
        simp only [ht, Bool.false_eq_true, if_false, Except.ok.injEq] at h
        exact .inr ⟨hmem, rfl, h.symm⟩

theorem insertTelemetryEvent_isOk_iff (hs : (db.getExamSession sid).isSome) :
    (∃ db', insertTelemetryEvent db sid event expungeRaises = .ok db') ↔
      event.IsTelemetry ∧ (expungeRaises → event.syntheticId ∉ db.telemetryIds) := by
  have hbuild : (buildTelemetryEventRow event sid).isSome ↔ event.IsTelemetry :=
    buildTelemetryEventRow_isSome_iff _ _
  rw [← hbuild]
  cases hrow : buildTelemetryEventRow event sid with
  | none => simp [insertTelemetryEvent, hrow]
  | some row =>
    have hid := (buildTelemetryEventRow_eq_some hrow).1
    cases ht : db.telemetryEvents.insert? row with
    | some t =>
      obtain ⟨hfresh, -⟩ := Table.insert?_eq_some_iff.mp ht
      have hnot : event.syntheticId ∉ db.telemetryIds := by
        intro hm
        obtain ⟨x, hx, he⟩ := List.mem_map.mp hm
        exact hfresh x hx (he.trans hid.symm)
      simp [insertTelemetryEvent, hrow, hs, ht, hnot]
    | none =>
      obtain ⟨x, hx, he⟩ := Table.insert?_eq_none_iff.mp ht
      have hmem : event.syntheticId ∈ db.telemetryIds := List.mem_map.mpr ⟨x, hx, he.trans hid⟩
      cases expungeRaises <;> simp [insertTelemetryEvent, hrow, hs, ht, hmem]

/-- The keys after an insert that went through. -/
theorem mem_telemetryIds_insertTelemetryEvent (hs : (db.getExamSession sid).isSome)
    (h : insertTelemetryEvent db sid event expungeRaises = .ok db') {i : UUID} :
    i ∈ db'.telemetryIds ↔ i ∈ db.telemetryIds ∨ i = event.syntheticId := by
  obtain ⟨row, hrow, ⟨t, ht, rfl⟩ | ⟨hmem, -, rfl⟩⟩ := insertTelemetryEvent_cases hs h
  · obtain ⟨-, hrows⟩ := Table.insert?_eq_some_iff.mp ht
    simp [Database.telemetryIds, hrows, (buildTelemetryEventRow_eq_some hrow).1, or_comm]
  · constructor
    · exact .inl
    · rintro (hi | rfl)
      · exact hi
      · exact hmem

/-- The events of a decision extend one table, by their own rows. -/
theorem insertTelemetryEvents_frame (hs : (db.getExamSession sid).isSome)
    (h : insertTelemetryEvents db sid expungeRaises events = .ok db') :
    ∃ t, db' = { db with telemetryEvents := t } ∧
      (∀ x, x ∈ t → x ∈ db.telemetryEvents ∨
        ∃ e ∈ events, buildTelemetryEventRow e sid = some x) ∧
      ∀ x ∈ db.telemetryEvents, x ∈ t := by
  induction events generalizing db with
  | nil =>
    obtain rfl := Except.ok.inj h
    exact ⟨_, rfl, fun x hx => .inl hx, fun x hx => hx⟩
  | cons event events ih =>
    simp only [insertTelemetryEvents] at h
    split at h
    · exact absurd h (by simp)
    · rename_i db₁ h₁
      obtain ⟨row, hrow, ⟨t, ht, rfl⟩ | ⟨-, -, rfl⟩⟩ := insertTelemetryEvent_cases hs h₁
      -- a row was inserted
      · have hs₁ : (({ db with telemetryEvents := t } : Database).getExamSession sid).isSome := hs
        obtain ⟨t', rfl, hsub, hsup⟩ := ih hs₁ h
        refine ⟨t', rfl, ?_, ?_⟩
        · intro x hx
          rcases hsub x hx with hx | ⟨e, he, hb⟩
          · rcases (Table.mem_insert? ht).mp hx with hx | rfl
            · exact .inl hx
            · exact .inr ⟨event, List.mem_cons_self, hrow⟩
          · exact .inr ⟨e, List.mem_cons_of_mem event he, hb⟩
        · intro x hx
          exact hsup x ((Table.mem_insert? ht).mpr (.inl hx))
      -- a duplicate was expunged, so the table is as before
      · obtain ⟨t', rfl, hsub, hsup⟩ := ih hs h
        refine ⟨t', rfl, ?_, hsup⟩
        intro x hx
        rcases hsub x hx with hx | ⟨e, he, hb⟩
        · exact .inl hx
        · exact .inr ⟨e, List.mem_cons_of_mem event he, hb⟩

theorem mem_telemetryIds_insertTelemetryEvents (hs : (db.getExamSession sid).isSome)
    (h : insertTelemetryEvents db sid expungeRaises events = .ok db') {i : UUID} :
    i ∈ db'.telemetryIds ↔ i ∈ db.telemetryIds ∨ i ∈ events.map (·.syntheticId) := by
  induction events generalizing db with
  | nil =>
    obtain rfl := Except.ok.inj h
    simp
  | cons event events ih =>
    simp only [insertTelemetryEvents] at h
    split at h
    · exact absurd h (by simp)
    · rename_i db₁ h₁
      have hs₁ : (db₁.getExamSession sid).isSome := by
        obtain ⟨row, -, ⟨t, -, rfl⟩ | ⟨-, -, rfl⟩⟩ := insertTelemetryEvent_cases hs h₁ <;> exact hs
      rw [ih hs₁ h, mem_telemetryIds_insertTelemetryEvent hs h₁, List.map_cons, List.mem_cons,
        or_assoc]

theorem insertTelemetryEvents_isOk_iff (hs : (db.getExamSession sid).isSome) :
    (∃ db', insertTelemetryEvents db sid expungeRaises events = .ok db') ↔
      (∀ e ∈ events, e.IsTelemetry) ∧
        (expungeRaises → (events.map (·.syntheticId)).Nodup ∧
          ∀ i ∈ events.map (·.syntheticId), i ∉ db.telemetryIds) := by
  induction events generalizing db with
  | nil => simp [insertTelemetryEvents]
  | cons event events ih =>
    -- The list stops at the first event that raises.
    by_cases h₁ : ∃ db₁, insertTelemetryEvent db sid event expungeRaises = .ok db₁
    · obtain ⟨db₁, h₁⟩ := h₁
      have hs₁ : (db₁.getExamSession sid).isSome := by
        obtain ⟨row, -, ⟨t, -, rfl⟩ | ⟨-, -, rfl⟩⟩ := insertTelemetryEvent_cases hs h₁ <;> exact hs
      obtain ⟨htel, hfresh⟩ := (insertTelemetryEvent_isOk_iff hs).mp ⟨db₁, h₁⟩
      simp only [insertTelemetryEvents, h₁, ih hs₁, List.mem_cons, List.map_cons,
        List.nodup_cons, forall_eq_or_imp, htel, true_and,
        mem_telemetryIds_insertTelemetryEvent hs h₁, not_or]
      refine and_congr_right fun _ => forall_congr' fun he => ?_
      -- the row of the first event counts as stored for the rest, hence `Nodup`
      constructor
      · rintro ⟨hnodup, hnot⟩
        exact ⟨⟨fun hm => (hnot _ hm).2 rfl, hnodup⟩, hfresh he, fun i hi => (hnot i hi).1⟩
      · rintro ⟨⟨hself, hnodup⟩, -, hnot⟩
        exact ⟨hnodup, fun i hi => ⟨hnot i hi, fun heq => hself (heq ▸ hi)⟩⟩
    · have hbad := mt (insertTelemetryEvent_isOk_iff hs).mpr h₁
      have herr :
          ¬ ∃ db', insertTelemetryEvents db sid expungeRaises (event :: events) = .ok db' := by
        rintro ⟨db', h⟩
        simp only [insertTelemetryEvents] at h
        split at h
        · exact absurd h (by simp)
        · rename_i db₁ hok
          exact h₁ ⟨db₁, hok⟩
      simp only [herr, false_iff]
      rintro ⟨htel, hfresh⟩
      exact hbad ⟨htel event List.mem_cons_self, fun he =>
        (hfresh he).2 event.syntheticId List.mem_cons_self⟩

end

/-! ## 4. When a flag commits, and what one call leaves

`Persistable` is the condition on the inputs under which the first transaction commits;
`CommitsFlag` is that transaction. -/

/-- Everything that is tested before the flag is committed. -/
structure Persistable (db : Database) (examSession : ExamSession) (item : PersistedFlag)
    (c : PersistChoices) : Prop where
  telemetry : ∀ e ∈ item.contributingEvents, e.IsTelemetry
  keys : c.expungeRaises → (item.contributingEvents.map (·.syntheticId)).Nodup ∧
    ∀ i ∈ item.contributingEvents.map (·.syntheticId), i ∉ db.telemetryIds
  severity : (FlagSeverity.ofValue? item.decision.severity).isSome
  flag : ∀ severity, FlagInsertable db (flagOf item.decision examSession severity c.flagId)
  rows : ∀ i ∈ item.decision.contributingEventIds,
    i ∈ db.telemetryIds ∨ i ∈ item.contributingEvents.map (·.syntheticId)
  nodup : item.decision.contributingEventIds.Nodup
  unlinked : ∀ l ∈ db.flagTelemetryEvents, l.flagId = c.flagId →
    l.telemetryEventId ∉ item.decision.contributingEventIds
  score : 0 < item.decision.scoreDelta →
    (numeric104 (examSession.accumulatedMediumScore + item.decision.scoreDelta)).isSome

instance {event : DispatchedEvent} : Decidable event.IsTelemetry :=
  decidable_of_iff _ (buildTelemetryEventRow_isSome_iff event 0)

-- `UUID` is finite, and a bounded quantifier over ids must not be decided by trying them all
instance {db : Database} {examSession : ExamSession} {item : PersistedFlag} {c : PersistChoices} :
    Decidable (Persistable db examSession item c) :=
  decidable_of_iff
    ((∀ e ∈ item.contributingEvents, e.IsTelemetry) ∧
      (c.expungeRaises → (item.contributingEvents.map (·.syntheticId)).Nodup ∧
        (item.contributingEvents.map (·.syntheticId)).all (· ∉ db.telemetryIds)) ∧
      (FlagSeverity.ofValue? item.decision.severity).isSome ∧
      -- the constraints do not look at the severity
      FlagInsertable db (flagOf item.decision examSession .low c.flagId) ∧
      item.decision.contributingEventIds.all (fun i =>
        i ∈ db.telemetryIds ∨ i ∈ item.contributingEvents.map (·.syntheticId)) ∧
      item.decision.contributingEventIds.Nodup ∧
      (∀ l ∈ db.flagTelemetryEvents.rows, l.flagId = c.flagId →
        l.telemetryEventId ∉ item.decision.contributingEventIds) ∧
      (0 < item.decision.scoreDelta →
        (numeric104 (examSession.accumulatedMediumScore + item.decision.scoreDelta)).isSome)) <| by
    simp only [List.all_eq_true, decide_eq_true_eq]
    exact ⟨fun ⟨h₁, h₂, h₃, h₄, h₅, h₆, h₇, h₈⟩ => ⟨h₁, h₂, h₃, fun _ => h₄, h₅, h₆, h₇, h₈⟩,
      fun h => ⟨h.telemetry, h.keys, h.severity, h.flag .low, h.rows, h.nodup, h.unlinked,
        h.score⟩⟩

/-- The first transaction of `_persist_one`. -/
def CommitsFlag (db : Database) (examSession : ExamSession) (item : PersistedFlag)
    (c : PersistChoices) (db₂ : Database) : Prop :=
  ∃ db₁ flag,
    insertTelemetryEvents db examSession.id c.expungeRaises item.contributingEvents = .ok db₁ ∧
      persistFlagDecision db₁ item.decision examSession c.flagId = .ok (db₂, flag)

section
variable {db db₂ : Database} {examSession : ExamSession} {item : PersistedFlag}
  {c : PersistChoices}

theorem persistable_iff (hs : (db.getExamSession examSession.id).isSome) :
    Persistable db examSession item c ↔ ∃ db₂, CommitsFlag db examSession item c db₂ := by
  constructor
  · intro h
    obtain ⟨db₁, h₁⟩ := (insertTelemetryEvents_isOk_iff hs).mpr ⟨h.telemetry, h.keys⟩
    have hids := fun i => mem_telemetryIds_insertTelemetryEvents (i := i) hs h₁
    obtain ⟨t, rfl, -, -⟩ := insertTelemetryEvents_frame hs h₁
    obtain ⟨⟨db₂, flag⟩, h₂⟩ := persistFlagDecision_isOk_iff.mpr
      (⟨h.severity, h.flag, fun i hi => (hids i).mpr (h.rows i hi), h.nodup, h.unlinked, h.score⟩ :
        FlagAccepted { db with telemetryEvents := t } item.decision examSession c.flagId)
    exact ⟨db₂, _, flag, h₁, h₂⟩
  · rintro ⟨db₂, db₁, flag, h₁, h₂⟩
    obtain ⟨htel, hkeys⟩ := (insertTelemetryEvents_isOk_iff hs).mp ⟨db₁, h₁⟩
    have hacc := persistFlagDecision_isOk_iff.mp ⟨_, h₂⟩
    have hids := fun i => mem_telemetryIds_insertTelemetryEvents (i := i) hs h₁
    obtain ⟨t, rfl, -, -⟩ := insertTelemetryEvents_frame hs h₁
    exact ⟨htel, hkeys, hacc.severity, hacc.flag, fun i hi => (hids i).mp (hacc.rows i hi),
      hacc.nodup, hacc.unlinked, hacc.score⟩

/-- The transaction has one outcome. -/
theorem CommitsFlag.unique {db₃ : Database} (h : CommitsFlag db examSession item c db₂)
    (h' : CommitsFlag db examSession item c db₃) : db₂ = db₃ := by
  obtain ⟨db₁, flag, h₁, h₂⟩ := h
  obtain ⟨db₁', flag', h₁', h₂'⟩ := h'
  obtain rfl : db₁ = db₁' := Except.ok.inj (h₁.symm.trans h₁')
  exact congrArg Prod.fst (Except.ok.inj (h₂.symm.trans h₂'))

/-- What the flag's transaction does to the database: four tables change, and of each one it is
    said how. Everything later is read off this; the transaction itself is opened here only. -/
structure FlagEffect (db : Database) (examSession : ExamSession) (item : PersistedFlag)
    (c : PersistChoices) (db₂ : Database) : Prop where
  frame : ∃ telemetryEvents flags flagTelemetryEvents examSessions,
    db₂ = { db with telemetryEvents, flags, flagTelemetryEvents, examSessions }
  telemetry_new : ∀ x ∈ db₂.telemetryEvents, x ∈ db.telemetryEvents ∨
    ∃ e ∈ item.contributingEvents, buildTelemetryEventRow e examSession.id = some x
  telemetry_kept : ∀ x ∈ db.telemetryEvents, x ∈ db₂.telemetryEvents
  telemetry_ids : ∀ i, i ∈ db₂.telemetryIds ↔
    i ∈ db.telemetryIds ∨ i ∈ item.contributingEvents.map (·.syntheticId)
  flags : ∃ severity, FlagSeverity.ofValue? item.decision.severity = some severity ∧
    db.flags.insert? (flagOf item.decision examSession severity c.flagId) = some db₂.flags
  links : db₂.flagTelemetryEvents.rows = db.flagTelemetryEvents.rows ++
    item.decision.contributingEventIds.mapIdx fun i telemetryId => ⟨c.flagId, telemetryId, i⟩
  examSessions : ∀ id, db₂.getExamSession id =
    (db.getExamSession id).map fun s =>
      { s with
        accumulatedMediumScore :=
          scoreAfter item.decision examSession id s.accumulatedMediumScore }

variable (h : CommitsFlag db examSession item c db₂)
  (hs : (db.getExamSession examSession.id).isSome)
include h hs

theorem CommitsFlag.effect : FlagEffect db examSession item c db₂ := by
  obtain ⟨db₁, flag, h₁, h₂⟩ := h
  obtain ⟨severity, db₃, db₄, hsev, rfl, hflag, hlinks, hscore⟩ := persistFlagDecision_eq_ok h₂
  -- what each statement adds, before the databases between them are forgotten
  have hids := fun i => mem_telemetryIds_insertTelemetryEvents (i := i) hs h₁
  have hrows := insertLinks_rows hlinks
  have hsessions : ∀ id, db₂.getExamSession id = _ := fun _ => writeScore_getExamSession hscore
  obtain ⟨t, rfl, hnew, hkept⟩ := insertTelemetryEvents_frame hs h₁
  obtain ⟨-, t₃, hinsert, rfl⟩ := insertFlag_eq_some_iff.mp hflag
  obtain ⟨t₄, rfl⟩ := insertLinks_frame hlinks
  obtain ⟨t₅, rfl⟩ := writeScore_frame hscore
  simp only [Nat.zero_add] at hrows
  exact ⟨⟨t, t₃, t₄, t₅, rfl⟩, hnew, hkept, hids, ⟨severity, hsev, hinsert⟩, hrows, hsessions⟩

/-- The flag's transaction touches no termination record. -/
theorem CommitsFlag.terminationRecords : db₂.terminationRecords = db.terminationRecords := by
  obtain ⟨-, -, -, -, rfl⟩ := (h.effect hs).frame
  rfl

theorem CommitsFlag.evidenceArtifacts : db₂.evidenceArtifacts = db.evidenceArtifacts := by
  obtain ⟨-, -, -, -, rfl⟩ := (h.effect hs).frame
  rfl

/-- The kill-switch transaction finds the flag it is about. -/
theorem CommitsFlag.getFlag_isSome : (db₂.getFlag c.flagId).isSome := by
  obtain ⟨severity, -, hinsert⟩ := (h.effect hs).flags
  rw [Database.getFlag, Table.find?_insert? hinsert]
  simp [flagOf]

end

/-! ## 5. The kill-switch transaction

It finds the database the first transaction has committed, with the flag in it, and looks for the
record of the session. -/

/-- The condition under which the kill-switch transaction goes through: the session has no
    record yet, the drawn key is free, and the rule code is not the reason reserved for
    records without a flag. -/
structure FirstTermination (db : Database) (sid : UUID) (decision : FlagDecision)
    (c : PersistChoices) : Prop where
  fresh : ∀ x ∈ db.terminationRecords, x.id ≠ c.recordId ∧ x.examSessionId ≠ sid
  reason : decision.ruleCode ≠ identityBackendUnavailableNoOverride

section
variable {db db₂ db₃ : Database} {examSession : ExamSession} {item : PersistedFlag}
  {c : PersistChoices} {decision : FlagDecision} {sid : UUID}

/-- A record of the session makes the lookup succeed and the update fail; without one the
    transaction is the insert. -/
theorem handleKillSwitch_eq_ok_iff :
    handleKillSwitch db sid decision c = .ok db₃ ↔
      db.insertTerminationRecord (killSwitchRecord sid decision c) = some db₃ := by
  cases hr : db.terminationRecordOf sid with
  | none =>
    simp only [handleKillSwitch, hr]
    cases db.insertTerminationRecord (killSwitchRecord sid decision c) <;> simp
  | some x =>
    obtain ⟨hx, hsid⟩ := Database.terminationRecordOf_eq_some_iff.mp hr
    have hnone : db.insertTerminationRecord (killSwitchRecord sid decision c) = none :=
      insertTerminationRecord_eq_none fun h => h.fresh x hx (.inr hsid)
    simp [handleKillSwitch, hr, hnone]

/-- After the flag's transaction, the kill-switch goes through exactly for a first
    termination. -/
theorem CommitsFlag.handleKillSwitch_isOk_iff (h : CommitsFlag db examSession item c db₂)
    (hs : (db.getExamSession examSession.id).isSome) :
    (∃ db₃, handleKillSwitch db₂ examSession.id item.decision c = .ok db₃) ↔
      FirstTermination db examSession.id item.decision c := by
  simp only [handleKillSwitch_eq_ok_iff, ← Option.isSome_iff_exists,
    insertTerminationRecord_isSome_iff]
  constructor
  · intro hins
    refine ⟨?_, fun hreason => by simpa [killSwitchRecord, hreason] using hins.reason⟩
    intro x hx
    have hx₂ : x ∈ db₂.terminationRecords := h.terminationRecords hs ▸ hx
    exact ⟨fun he => hins.fresh x hx₂ (.inl he), fun he => hins.fresh x hx₂ (.inr he)⟩
  · intro hfirst
    have hf := (h.effect hs).examSessions examSession.id
    refine ⟨?_, ?_, ?_, ?_⟩
    · show (db₂.getExamSession examSession.id).isSome
      simpa [hf] using hs
    · simpa [killSwitchRecord] using h.getFlag_isSome hs
    · simpa [killSwitchRecord] using hfirst.reason
    · intro x hx hclash
      have hx' : x ∈ db.terminationRecords := h.terminationRecords hs ▸ hx
      exact hclash.elim (hfirst.fresh x hx').1 (hfirst.fresh x hx').2

/-- Without a first termination the kill-switch transaction raises. -/
theorem CommitsFlag.handleKillSwitch_error (h : CommitsFlag db examSession item c db₂)
    (hs : (db.getExamSession examSession.id).isSome)
    (hnot : ¬ FirstTermination db examSession.id item.decision c) :
    ∃ e, handleKillSwitch db₂ examSession.id item.decision c = .error e := by
  cases hk : handleKillSwitch db₂ examSession.id item.decision c with
  | error e => exact ⟨e, rfl⟩
  | ok db₃ => exact absurd ((h.handleKillSwitch_isOk_iff hs).mp ⟨db₃, hk⟩) hnot

end

/-! ## 6. One call, said once

`persistLoaded_effect` is the one place where the call is taken apart; its users do a case analysis
on `PersistEffect`. -/

/-- Everything one `_persist_one` can do with a session it found. -/
inductive PersistEffect (db : Database) (examSession : ExamSession) (item : PersistedFlag)
    (c : PersistChoices) : PersistResult → Prop
  /-- The flag's transaction fails: nothing changes and the exception leaves the call. -/
  | refused {e : PersistError} (not_persistable : ¬ Persistable db examSession item c) :
      PersistEffect db examSession item c ⟨db, some e, []⟩
  | flagged {db₂ : Database} (persistable : Persistable db examSession item c)
      (commits : CommitsFlag db examSession item c db₂)
      (trigger : item.decision.triggeredTermination = false) :
      PersistEffect db examSession item c ⟨db₂, none, []⟩
  /-- The flag is committed, the record is refused and the kill-switch is not fired. -/
  | unfired {db₂ : Database} {e : PersistError} (persistable : Persistable db examSession item c)
      (commits : CommitsFlag db examSession item c db₂)
      (trigger : item.decision.triggeredTermination = true)
      (not_first : ¬ FirstTermination db examSession.id item.decision c) :
      PersistEffect db examSession item c ⟨db₂, some e, []⟩
  | terminated {db₂ db₃ : Database} (persistable : Persistable db examSession item c)
      (commits : CommitsFlag db examSession item c db₂)
      (trigger : item.decision.triggeredTermination = true)
      (first : FirstTermination db examSession.id item.decision c)
      (insert :
        db₂.insertTerminationRecord (killSwitchRecord examSession.id item.decision c) = some db₃) :
      PersistEffect db examSession item c ⟨db₃, none, [(c.flagId, item.decision.ruleCode)]⟩

section
variable {db : Database} {examSession : ExamSession} {item : PersistedFlag} {c : PersistChoices}
  {sid : UUID}

theorem persistLoaded_effect (item : PersistedFlag) (c : PersistChoices)
    (hs : (db.getExamSession examSession.id).isSome) :
    PersistEffect db examSession item c (persistLoaded db examSession item c) := by
  cases h₁ : insertTelemetryEvents db examSession.id c.expungeRaises item.contributingEvents with
  -- the telemetry rows are refused
  | error e =>
    simp only [persistLoaded, h₁]
    refine .refused ?_
    intro hp
    obtain ⟨db₂, db₁, flag, h, -⟩ := (persistable_iff hs).mp hp
    exact absurd (h₁.symm.trans h) (by simp)
  | ok db₁ =>
    cases h₂ : persistFlagDecision db₁ item.decision examSession c.flagId with
    -- the flag or one of its links is refused
    | error e =>
      simp only [persistLoaded, h₁, h₂]
      refine .refused ?_
      intro hp
      obtain ⟨db₂, db₁', flag, h, h'⟩ := (persistable_iff hs).mp hp
      obtain rfl : db₁ = db₁' := Except.ok.inj (h₁.symm.trans h)
      exact absurd (h₂.symm.trans h') (by simp)
    | ok r =>
      obtain ⟨db₂, flag⟩ := r
      have hcommit : CommitsFlag db examSession item c db₂ := ⟨db₁, flag, h₁, h₂⟩
      have hp : Persistable db examSession item c := (persistable_iff hs).mpr ⟨db₂, hcommit⟩
      have hid : flag.id = c.flagId := by
        obtain ⟨severity, -, -, -, rfl, -⟩ := persistFlagDecision_eq_ok h₂
        rfl
      cases htrig : item.decision.triggeredTermination with
      | false =>
        simp only [persistLoaded, h₁, h₂, htrig, Bool.false_eq_true, if_false]
        exact .flagged hp hcommit htrig
      | true =>
        -- the flag is committed, whatever becomes of the record
        by_cases hfirst : FirstTermination db examSession.id item.decision c
        · obtain ⟨db₃, h₃⟩ := (hcommit.handleKillSwitch_isOk_iff hs).mpr hfirst
          simp only [persistLoaded, h₁, h₂, htrig, if_true, h₃, hid]
          exact .terminated hp hcommit htrig hfirst (handleKillSwitch_eq_ok_iff.mp h₃)
        · obtain ⟨e, h₃⟩ := hcommit.handleKillSwitch_error hs hfirst
          simp only [persistLoaded, h₁, h₂, htrig, if_true, h₃]
          exact .unfired hp hcommit htrig hfirst

/-- **A call raises nothing exactly when the flag commits and, if it terminates, its record
    does.** -/
theorem persistLoaded_raised_iff (item : PersistedFlag) (c : PersistChoices)
    (hs : (db.getExamSession examSession.id).isSome) :
    (persistLoaded db examSession item c).raised = none ↔
      Persistable db examSession item c ∧ (item.decision.triggeredTermination = true →
        FirstTermination db examSession.id item.decision c) := by
  have heffect := persistLoaded_effect item c hs
  generalize persistLoaded db examSession item c = result at heffect
  cases heffect with
  | refused hnot => simp [hnot]
  | flagged hp _ htrig => simp [hp, htrig]
  | unfired hp _ htrig hnot => simp [htrig, hnot]
  | terminated hp _ _ hfirst _ => simp [hp, hfirst]

theorem persistOne_found (h : db.getExamSession sid = some examSession) :
    persistOne db sid item c = persistLoaded db examSession item c := by simp [persistOne, h]

theorem persistOne_effect (h : db.getExamSession sid = some examSession) :
    PersistEffect db examSession item c (persistOne db sid item c) := by
  have hid := Database.getExamSession_id h
  have hs : (db.getExamSession examSession.id).isSome := by simp [hid, h]
  rw [persistOne_found h]
  exact persistLoaded_effect item c hs

theorem persistOne_dropped (h : db.getExamSession sid = none) :
    persistOne db sid item c = ⟨db, none, []⟩ := by simp [persistOne, h]

end

/-! ## 7. What a persisted decision adds

The tables that a reader of the record cares for, in the form in which the run lemmas need them. -/

/-- The tables after a persisted decision; its termination record is not among them. -/
structure PersistedRows (db : Database) (examSession : ExamSession) (item : PersistedFlag)
    (c : PersistChoices) (db' : Database) : Prop where
  flags : ∃ severity,
    db'.flags.rows = db.flags.rows ++ [flagOf item.decision examSession severity c.flagId]
  telemetryEvents : ∀ x ∈ db'.telemetryEvents, x ∈ db.telemetryEvents ∨
    ∃ e ∈ item.contributingEvents, buildTelemetryEventRow e examSession.id = some x
  examSessions : ∀ id, db'.getExamSession id =
    (db.getExamSession id).map fun s =>
      { s with
        accumulatedMediumScore :=
          scoreAfter item.decision examSession id s.accumulatedMediumScore }

section
variable {db db₂ db₃ : Database} {examSession : ExamSession} {item : PersistedFlag}
  {c : PersistChoices} {r : TerminationRecord}

theorem CommitsFlag.persistedRows (h : CommitsFlag db examSession item c db₂)
    (hs : (db.getExamSession examSession.id).isSome) :
    PersistedRows db examSession item c db₂ := by
  obtain ⟨severity, -, hinsert⟩ := (h.effect hs).flags
  exact ⟨⟨severity, (Table.insert?_eq_some_iff.mp hinsert).2⟩, (h.effect hs).telemetry_new,
    (h.effect hs).examSessions⟩

/-- The flag the decision added is the one that was not there. -/
theorem PersistedRows.newFlags (h : PersistedRows db examSession item c db₂) :
    ∃ severity, db₂.flags.rows.filter (· ∉ db.flags) =
      [flagOf item.decision examSession severity c.flagId] := by
  obtain ⟨severity, hflags⟩ := h.flags
  refine ⟨severity, ?_⟩
  have hdistinct := db₂.flags.distinct
  rw [hflags] at hdistinct
  have hnew : flagOf item.decision examSession severity c.flagId ∉ db.flags := fun hmem =>
    (List.pairwise_append.mp hdistinct).2.2 _ hmem _ (List.mem_singleton_self _) rfl
  rw [hflags, List.filter_append, List.filter_eq_nil_iff.mpr, List.nil_append]
  · simp [hnew]
  · intro f hf
    simpa using Table.mem_rows.mp hf

theorem PersistedRows.insertTerminationRecord (h : PersistedRows db examSession item c db₂)
    (hinsert : db₂.insertTerminationRecord r = some db₃) :
    PersistedRows db examSession item c db₃ := by
  obtain ⟨-, t, -, rfl⟩ := insertTerminationRecord_eq_some_iff.mp hinsert
  exact ⟨h.flags, h.telemetryEvents, h.examSessions⟩

/-- **All or nothing, whatever the kill-switch does afterwards.** -/
theorem persistLoaded_db (item : PersistedFlag) (c : PersistChoices)
    (hs : (db.getExamSession examSession.id).isSome) :
    (¬ Persistable db examSession item c ∧ (persistLoaded db examSession item c).db = db) ∨
      (Persistable db examSession item c ∧
        PersistedRows db examSession item c (persistLoaded db examSession item c).db) := by
  have heffect := persistLoaded_effect item c hs
  generalize persistLoaded db examSession item c = result at heffect
  cases heffect with
  | refused hnot => exact .inl ⟨hnot, rfl⟩
  | flagged hp hc _ => exact .inr ⟨hp, hc.persistedRows hs⟩
  | unfired hp hc _ _ => exact .inr ⟨hp, hc.persistedRows hs⟩
  | terminated hp hc _ _ hinsert =>
    exact .inr ⟨hp, (hc.persistedRows hs).insertTerminationRecord hinsert⟩

theorem Persistable.persistedRows {item : PersistedFlag} {c : PersistChoices}
    (h : Persistable db examSession item c) (hs : (db.getExamSession examSession.id).isSome) :
    PersistedRows db examSession item c (persistLoaded db examSession item c).db := by
  rcases persistLoaded_db item c hs with ⟨hnot, -⟩ | ⟨-, hrows⟩
  · exact absurd h hnot
  · exact hrows

/-- Whatever the kill-switch does, the events of a decision that could be persisted have their
    rows. -/
theorem persistLoaded_telemetryIds (hs : (db.getExamSession examSession.id).isSome)
    (hpersistable : Persistable db examSession item c) {i : UUID} :
    i ∈ (persistLoaded db examSession item c).db.telemetryIds ↔
      i ∈ db.telemetryIds ∨ i ∈ item.contributingEvents.map (·.syntheticId) := by
  have heffect := persistLoaded_effect item c hs
  generalize persistLoaded db examSession item c = result at heffect
  cases heffect with
  | refused hnot => exact absurd hpersistable hnot
  | flagged _ hc _ => exact (hc.effect hs).telemetry_ids _
  | unfired _ hc _ _ => exact (hc.effect hs).telemetry_ids _
  | terminated _ hc _ _ hinsert =>
    obtain ⟨-, t, -, rfl⟩ := insertTerminationRecord_eq_some_iff.mp hinsert
    exact (hc.effect hs).telemetry_ids _

end

/-! ## 8. A session to run the worker on -/

/-- An active session under the default policy. -/
def activeDatabase : Database :=
  { Database.empty with
    policyConfigs := .single (PolicyConfig.default 3)
    examSessions := .single { ExamSession.launched 1 2 3 "midterm" 0 with status := .active } }

/-- A frame with `faceCount` faces, dispatched under the key `id`. -/
def faceEvent (id : UUID) (faceCount : Nat) : DispatchedEvent where
  message :=
    { sessionId := "00000000-0000-0000-0000-000000000001", capturedAt := 0
      payload := .telemetryLight
        ⟨faceCount, .one, none⟩
      sessionIdNonempty := by decide }
  receivedAt := 0
  seq := 0
  syntheticId := id

/-- A terminating decision supported by one frame. -/
def terminatingItem (ruleCode : String) (id : UUID) : PersistedFlag where
  decision :=
    { ruleCode, severity := "critical", confidence := .certain, triggeredTermination := true
      contributingEventIds := [id] }
  contributingEvents := [faceEvent id 2]

-- a first terminating decision is persisted, recorded and delivered
example : (persistOne activeDatabase 1 (terminatingItem "second_person" 10)
    ⟨20, 30, true⟩).killSwitches = [(20, "second_person")] := by decide +kernel

end ProctorEngine
