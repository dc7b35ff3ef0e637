import ProctorEngine.Lib.Run
import ProctorEngine.Orchestration.FrameDispatcher
import ProctorEngine.Websocket.SessionPolicy

/-!
# Starting a dispatcher

`FrameDispatcher.start` starts the thread that dispatches and then, still in the caller, emits the
mandatory-review flag of a session that runs under an override. That flag goes to
`self._decision_queue`, and **no such attribute exists**: `__init__` assigns `flag_decisions`,
and `_emit` puts `PersistedFlag`s on it, where the review flag would be a bare decision with an
event id nobody has.

The aggregator has a method for the same flag, but no message is dispatched to it. So a session
under an override has no review flag, whatever else happens in it (`no_review`).
-/

set_option autoImplicit false

namespace ProctorEngine

/-! ## 1. The instance

Attributes are looked up by name, since a name that was never assigned is the whole point. -/

/-- What is put on a queue of the dispatcher. -/
inductive QueueItem where
  /-- By `_emit`. -/
  | persistedFlag (flag : PersistedFlag)
  /-- By `_emit_identity_unavailable_flag`. -/
  | flagDecision (decision : FlagDecision)

/-- The attributes of an instance that hold a queue, by name. -/
abbrev QueueAttributes := List (String × List QueueItem)

/-- `self.<name>.put(item)`; `none` is the `AttributeError`. -/
def QueueAttributes.put (queues : QueueAttributes) (name : String) (item : QueueItem) :
    Option QueueAttributes :=
  if name ∈ queues.map (·.1) then
    some (queues.map fun queue => if queue.1 = name then (name, queue.2 ++ [item]) else queue)
  else none

inductive StartError where
  | attributeError (name : String)
deriving DecidableEq, Repr

structure DispatcherInstance where
  dispatcher : FrameDispatcher
  /-- Whether `_thread` is set. -/
  thread : Bool
  queues : QueueAttributes

/-- The decision of `_emit_identity_unavailable_flag`; `telemetryEventId` is a fresh key. -/
def identityUnavailableDecision (telemetryEventId : UUID) : FlagDecision where
  ruleCode := "identity_check_unavailable"
  severity := "medium"
  confidence := .certain
  triggeredTermination := false
  detail := [("reason", .str ("identity backend unavailable at session start; " ++
    "override exists, mandatory review required"))]
  contributingEventIds := [telemetryEventId]

namespace DispatcherInstance

/-- An instance as constructed. -/
def new (config : FrameDispatcherConfig) (livenessBackend : Bool) : DispatcherInstance where
  dispatcher := .new config livenessBackend
  thread := false
  queues := [("flag_decisions", [])]

/-- `_emit`'s `self.flag_decisions.put`. -/
def putFlag (queues : QueueAttributes) (flag : PersistedFlag) : QueueAttributes :=
  (queues.put "flag_decisions" (.persistedFlag flag)).getD queues

/-- The thread dispatches one event and puts its flags on the queue. -/
def dispatch (x : DispatcherInstance) (s : DispatchStep) : DispatcherInstance :=
  let result := x.dispatcher.dispatchEvent s.event s.syntheticId s.answers
  { x with dispatcher := result.2, queues := result.1.foldl putFlag x.queues }

/-- `_emit_identity_unavailable_flag`. -/
def emitIdentityUnavailableFlag (x : DispatcherInstance) (telemetryEventId : UUID) :
    DispatcherInstance × Option StartError :=
  match x.queues.put "_decision_queue" (.flagDecision (identityUnavailableDecision
    telemetryEventId)) with
  | none => (x, some (.attributeError "_decision_queue"))
  | some queues => ({ x with queues }, none)

/-- `start`, with what the new thread dispatches before the caller goes on. -/
def start (x : DispatcherInstance) (meanwhile : List DispatchStep) (telemetryEventId : UUID) :
    DispatcherInstance × Option StartError :=
  if x.thread then (x, none)
  else
    let running := Run.final dispatch { x with thread := true } meanwhile
    if running.dispatcher.config.identityBackendUnavailable then
      running.emitIdentityUnavailableFlag telemetryEventId
    else (running, none)

/-- A session: a new dispatcher is started, and its thread goes on. -/
def session (config : FrameDispatcherConfig) (livenessBackend : Bool)
    (meanwhile afterwards : List DispatchStep) (telemetryEventId : UUID) :
    DispatcherInstance × Option StartError :=
  let started := (new config livenessBackend).start meanwhile telemetryEventId
  (Run.final dispatch started.1 afterwards, started.2)

/-- The `PersistedFlag`s of the mandatory review on `flag_decisions`. -/
def reviews (x : DispatcherInstance) : List PersistedFlag :=
  ((x.queues.lookup "flag_decisions").getD []).filterMap fun
    | .persistedFlag flag =>
      if flag.decision.ruleCode = "identity_check_unavailable" then some flag else none
    | .flagDecision _ => none

/-- The start completes, and one review flag is on the queue whose events are in the database or
    carried with it. -/
structure MandatoryReview (db : Database) (outcome : DispatcherInstance × Option StartError) :
    Prop where
  completes : outcome.2 = none
  once : ∃ flag, outcome.1.reviews = [flag] ∧ ∀ id ∈ flag.decision.contributingEventIds,
    id ∈ db.telemetryIds ∨ id ∈ flag.contributingEvents.map (·.syntheticId)

/-! ## 2. What the thread puts on the queue

The thread puts flags under the name that exists, and none of them is the review flag. -/

section
variable {x : DispatcherInstance} {queues : QueueAttributes} {flags : List PersistedFlag}
  {config : FrameDispatcherConfig} {livenessBackend : Bool}
  {meanwhile afterwards : List DispatchStep} {telemetryEventId : UUID}

/-- The attributes are those of `__init__`, and no review flag is on the queue. -/
structure Unreviewed (queues : QueueAttributes) : Prop where
  names : queues.map (·.1) = ["flag_decisions"]
  noReview : ∀ queue ∈ queues, ∀ flag, .persistedFlag flag ∈ queue.2 →
    flag.decision.ruleCode ≠ "identity_check_unavailable"

theorem Unreviewed.putFlag (h : Unreviewed queues) {flag : PersistedFlag}
    (hrule : flag.decision.ruleCode ≠ "identity_check_unavailable") :
    Unreviewed (putFlag queues flag) := by
  have hput : DispatcherInstance.putFlag queues flag = queues.map fun queue =>
      if queue.1 = "flag_decisions" then ("flag_decisions", queue.2 ++ [.persistedFlag flag])
      else queue := by
    simp [DispatcherInstance.putFlag, QueueAttributes.put, h.names]
  rw [hput]
  constructor
  · rw [← h.names, List.map_map]
    apply List.map_congr_left
    intro queue _
    by_cases hname : queue.1 = "flag_decisions"
    · simp [hname]
    · simp [hname]
  · intro queue hqueue other hother
    obtain ⟨old, hold, rfl⟩ := List.mem_map.mp hqueue
    by_cases hname : old.1 = "flag_decisions"
    · rw [if_pos hname] at hother
      rcases List.mem_append.mp hother with hother | hother
      · exact h.noReview old hold other hother
      · obtain rfl := QueueItem.persistedFlag.inj (List.mem_singleton.mp hother)
        exact hrule
    · rw [if_neg hname] at hother
      exact h.noReview old hold other hother

theorem Unreviewed.foldl (h : Unreviewed queues)
    (hrules : ∀ flag ∈ flags, flag.decision.ruleCode ≠ "identity_check_unavailable") :
    Unreviewed (flags.foldl DispatcherInstance.putFlag queues) := by
  induction flags generalizing queues with
  | nil => exact h
  | cons flag flags ih =>
    obtain ⟨hrule, hrules⟩ := List.forall_mem_cons.mp hrules
    exact ih (h.putFlag hrule) hrules

/-- No dispatch raises the review flag. -/
theorem dispatchEvent_ruleCode (d : FrameDispatcher) (s : DispatchStep) :
    ∀ flag ∈ (d.dispatchEvent s.event s.syntheticId s.answers).1,
      flag.decision.ruleCode ≠ "identity_check_unavailable" := by
  intro flag hflag
  have hdecisions := FrameDispatcher.dispatchEvent_decisions d s
  have hmem : flag.decision ∈ d.aggregator.decisions d.config.policySnapshot d.config.context
      (d.inferenceEvents s.event.message s.syntheticId s.answers) := by
    rw [← hdecisions]
    exact List.mem_map_of_mem hflag
  rcases SessionAggregator.decisions_ruleCode hmem with ⟨e, he, hrule⟩ | hpath
  · rw [hrule]
    exact (FrameDispatcher.inferenceEvents_forall he).2
  · intro hreview
    exact absurd (hpath.symm.trans hreview) (by simp)

theorem unreviewed_run (h : Unreviewed x.queues) (steps : List DispatchStep) :
    Unreviewed (Run.final dispatch x steps).queues := by
  have halways : Run.Always dispatch (fun y => Unreviewed y.queues) x steps :=
    Run.always_of_step (fun y s hy => hy.foldl (dispatchEvent_ruleCode y.dispatcher s)) h
  exact halways.final

theorem run_config (x : DispatcherInstance) (steps : List DispatchStep) :
    (Run.final dispatch x steps).dispatcher.config = x.dispatcher.config := by
  induction steps generalizing x with
  | nil => rfl
  | cons s steps ih =>
    rw [Run.final_cons, ih]
    exact FrameDispatcher.dispatchEvent_config

/-- The attributes of `__init__`. -/
theorem unreviewed_init : Unreviewed [("flag_decisions", [])] := by
  constructor
  · rfl
  · intro queue hqueue flag hflag
    obtain rfl := List.mem_singleton.mp hqueue
    exact absurd hflag List.not_mem_nil

theorem Unreviewed.reviews (h : Unreviewed x.queues) : x.reviews = [] := by
  apply List.filterMap_eq_nil_iff.mpr
  intro item hitem
  cases item with
  | flagDecision decision => rfl
  | persistedFlag flag =>
    cases hqueue : x.queues.lookup "flag_decisions" with
    | none => exact absurd hitem (by simp [hqueue])
    | some queue =>
      rw [hqueue] at hitem
      obtain ⟨l₁, l₂, hl, -⟩ := List.lookup_eq_some_iff.mp hqueue
      have hmem : ("flag_decisions", queue) ∈ x.queues := by simp [hl]
      exact if_neg (h.noReview _ hmem flag hitem)

/-! ## 3. The start of a session under an override

The start up to the exception, and what is dispatched before and after it. -/

/-- The instance whose thread has been started. -/
def started (config : FrameDispatcherConfig) (livenessBackend : Bool) : DispatcherInstance :=
  { new config livenessBackend with thread := true }

theorem unreviewed_started (config : FrameDispatcherConfig) (livenessBackend : Bool)
    (meanwhile : List DispatchStep) :
    Unreviewed (Run.final dispatch (started config livenessBackend) meanwhile).queues :=
  unreviewed_run unreviewed_init meanwhile

/-- The start raises exactly under an override. -/
theorem start_new (config : FrameDispatcherConfig) (livenessBackend : Bool)
    (meanwhile : List DispatchStep) (telemetryEventId : UUID) :
    (new config livenessBackend).start meanwhile telemetryEventId =
      (Run.final dispatch (started config livenessBackend) meanwhile,
        if config.identityBackendUnavailable then some (.attributeError "_decision_queue")
        else none) := by
  have hrunning := unreviewed_started config livenessBackend meanwhile
  have hconfig : (Run.final dispatch (started config livenessBackend) meanwhile).dispatcher.config =
      config := run_config (started config livenessBackend) meanwhile
  have hnew : (new config livenessBackend).thread = false := rfl
  have hstart : { new config livenessBackend with thread := true } =
      started config livenessBackend := rfl
  simp only [start, hnew, hstart, Bool.false_eq_true, if_false]
  generalize Run.final dispatch (started config livenessBackend) meanwhile = running
    at hrunning hconfig
  rw [hconfig]
  cases config.identityBackendUnavailable with
  | false => rfl
  | true => simp [emitIdentityUnavailableFlag, QueueAttributes.put, hrunning.names]

/-- **No session has a review flag on its queue, under an override or not.** -/
theorem no_review (config : FrameDispatcherConfig) (livenessBackend : Bool)
    (meanwhile afterwards : List DispatchStep) (telemetryEventId : UUID) :
    (session config livenessBackend meanwhile afterwards telemetryEventId).1.reviews = [] := by
  apply Unreviewed.reviews
  apply unreviewed_run
  rw [start_new]
  exact unreviewed_started config livenessBackend meanwhile

end

/-- **Under an override the start never completes and the review flag never comes.** Over every
    configuration, whatever is dispatched before and after, and every database. The start puts the
    flag on a queue that is never assigned, so it ends in an `AttributeError`, with the thread
    running and the flag nowhere. -/
theorem mandatoryReview_never (config : FrameDispatcherConfig) (livenessBackend : Bool)
    (meanwhile afterwards : List DispatchStep) (telemetryEventId : UUID) (db : Database) :
    ¬ MandatoryReview db (session { config with identityBackendUnavailable := true }
      livenessBackend meanwhile afterwards telemetryEventId) := by
  intro h
  obtain ⟨flag, hflag, -⟩ := h.once
  rw [no_review] at hflag
  exact absurd hflag (by simp)

/-- The endpoint's configuration for a session under an override. -/
def overrideConfig : FrameDispatcherConfig where
  policySnapshot := endpointSnapshot
  context := endpointContext (ExamSession.launched 1 2 3 "midterm" 0)
  identityBackendUnavailable := true

theorem overrideConfig_not_reviewed :
    (session overrideConfig false [] [] 10).2 = some (.attributeError "_decision_queue") ∧
      ¬ MandatoryReview activeDatabase (session overrideConfig false [] [] 10) := by
  have hraised : (session overrideConfig false [] [] 10).2 =
      some (.attributeError "_decision_queue") := by decide
  refine ⟨hraised, ?_⟩
  intro h
  exact absurd (hraised.symm.trans h.completes) (by simp)

end DispatcherInstance

end ProctorEngine
