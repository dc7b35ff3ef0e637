import ProctorEngine.Orchestration.FlagPersistenceWorker
import ProctorEngine.Fusion.Firing
import ProctorEngine.Preprocessing.Scheduler

/-!
# The frame dispatcher

`FrameDispatcher` between two of its waits: `_dispatch_event` takes one buffered event, mints
its synthetic id, turns the message into inference results and hands them one by one to the
aggregator; every decision leaves as a `PersistedFlag` with the buffered events it is made of.
What the decoders and the model runners answer is not decided by this code and comes in as
`RunnerAnswers`, with `none` for a call that raised.

`_emit` *pops* the events of a decision from the map, so **an event is carried by the first
decision that names it and by no other**.
-/

set_option autoImplicit false

namespace ProctorEngine

/-! ## 1. Configuration and state

The map from ids to events is a list, newest first, as long as the session. -/

/-- `FrameDispatcherConfig`; the four periods are those of `scheduler`. -/
structure FrameDispatcherConfig where
  policySnapshot : PolicySnapshot
  context : SessionContext
  scheduler : ModalityScheduler := .default
  enrollmentEmbedding : Option (List ℚ) := none
  identityBackendUnavailable : Bool := false

/-- What `_dispatch_event` reads and writes. `eventIdToBuffered` is a `dict`; its keys are
    pairwise different. -/
structure FrameDispatcher where
  config : FrameDispatcherConfig
  aggregator : SessionAggregator
  heavyFrameSeq : Nat
  /-- Whether `_liveness_runner` could be constructed. -/
  livenessRunner : Bool
  eventIdToBuffered : List (UUID × DispatchedEvent)

/-- What the libraries answer for one heavy frame. -/
structure HeavyFrameAnswers where
  decoded : Bool
  landmarker : Option HeadPoseGazeResult
  /-- Whether the landmarks give a usable box. -/
  faceBox : Bool
  /-- The detections, each with the instant it is judged at. -/
  detections : Option (List (ObjectDetectionResult × DateTime))
  identity : Option IdentityMatchResult
  liveness : Option LivenessResult
deriving DecidableEq

structure RunnerAnswers where
  heavyFrame : HeavyFrameAnswers
  audioVad : Option AudioVadResult
deriving DecidableEq

/-- Libraries that answer nothing, for the messages that ask none. -/
def RunnerAnswers.unused : RunnerAnswers := ⟨⟨false, none, false, none, none, none⟩, none⟩

/-- `classify_browser_event`; `none` is its `ValueError`. -/
def classifyBrowserEvent (eventType : String) (detail : Dict) : Option BrowserEventResult :=
  if eventType ∈ validBrowserEvents then some ⟨eventType, .certain, detail⟩ else none

/-- `_captured_at_ms`: `int(ts.timestamp() * 1000)` truncates. -/
def capturedAtMs (capturedAt : DateTime) : Int := capturedAt.tdiv 1000

namespace FrameDispatcher

/-- A dispatcher as constructed. -/
def new (config : FrameDispatcherConfig) (livenessBackend : Bool) : FrameDispatcher where
  config := config
  aggregator := .new
  heavyFrameSeq := 0
  livenessRunner := config.policySnapshot.livenessCheckEnabled && livenessBackend
  eventIdToBuffered := []

/-! ## 2. From a message to results

The modalities in the order of the source. A message that does not decode gives no results. -/

/-- `_dispatch_light`. -/
def lightEvents (payload : TelemetryLightPayload) (id : UUID) : List InferenceEvent :=
  [.facePresence
    { eventType := if 2 ≤ payload.faceCount then "second_person"
        else if payload.faceCount = 0 then "no_face" else "one_face"
      confidence := .point payload.confidence
      faceCount := payload.faceCount } id]

/-- The liveness branch of `_dispatch_heavy_frame`, its last. -/
def livenessEvents (d : FrameDispatcher) (decision : InferenceDecision)
    (landmarkerResult : Option HeadPoseGazeResult) (id : UUID) (answers : HeavyFrameAnswers) :
    List InferenceEvent :=
  if decision.shouldRun .liveness ∧ d.livenessRunner ∧ landmarkerResult.isSome ∧
      answers.faceBox then
    answers.liveness.toList.map (.liveness · id)
  else []

/-- `_dispatch_heavy_frame` after the decoding. The identity branch returns from the method
    wherever it cannot finish, and liveness then does not run either. -/
def heavyFrameEvents (d : FrameDispatcher) (capturedAt : DateTime) (id : UUID)
    (answers : HeavyFrameAnswers) : List InferenceEvent :=
  let decision := d.config.scheduler.decideForFrame d.heavyFrameSeq
  let landmarkerResult :=
    if decision.shouldRun .headPoseGaze ∨ decision.shouldRun .identityMatch ∨
        decision.shouldRun .liveness then answers.landmarker
    else none
  let gaze :=
    if decision.shouldRun .headPoseGaze then
      landmarkerResult.toList.map (.gaze · id (capturedAtMs capturedAt))
    else []
  let objects :=
    if decision.shouldRun .objectDetection then
      (answers.detections.getD []).map fun det => .objectDetection det.1 id det.2
    else []
  let rest :=
    if decision.shouldRun .identityMatch then
      if landmarkerResult = none ∨ d.config.enrollmentEmbedding = none ∨ ¬ answers.faceBox then []
      else match answers.identity with
        | none => []
        | some result =>
          .identityMatch result id :: d.livenessEvents decision landmarkerResult id answers
    else d.livenessEvents decision landmarkerResult id answers
  gaze ++ objects ++ rest

/-- `_dispatch_audio_chunk`: silence goes no further. -/
def audioEvents (id : UUID) : Option AudioVadResult → List InferenceEvent
  | none => []
  | some result => if result.eventType = "silence" then [] else [.audioVad result id]

/-- `_dispatch_browser_event`. -/
def browserEvents (payload : TelemetryBrowserEventPayload) (id : UUID) : List InferenceEvent :=
  (classifyBrowserEvent payload.eventType payload.detail).toList.map (.browserEvent · id)

/-- The results of one message, in the order the aggregator gets them. An acknowledgement gives
    none, and neither does a picture that cannot be decoded. -/
def inferenceEvents (d : FrameDispatcher) (message : ClientMessage) (id : UUID)
    (answers : RunnerAnswers) : List InferenceEvent :=
  match message.payload with
  | .telemetryLight payload => lightEvents payload id
  | .telemetryHeavyFrame _ =>
    if answers.heavyFrame.decoded then
      d.heavyFrameEvents message.capturedAt id answers.heavyFrame
    else []
  | .audioChunk _ => audioEvents id answers.audioVad
  | .browserEvent payload => browserEvents payload id
  | .killSwitchAck _ => []

/-- A decoded heavy frame advances the sequence counter. -/
def nextHeavyFrameSeq (d : FrameDispatcher) (message : ClientMessage) (answers : RunnerAnswers) :
    Nat :=
  match message.payload with
  | .telemetryHeavyFrame _ =>
    if answers.heavyFrame.decoded then d.heavyFrameSeq + 1 else d.heavyFrameSeq
  | _ => d.heavyFrameSeq

/-! ## 3. From results to flags

One result at a time: the aggregator decides, and each decision takes the events it names out of the
map. -/

/-- `_event_id_to_buffered.pop(eid, None)` for each id: the events found, and what is left. -/
def popBuffered (buffered : List (UUID × DispatchedEvent)) :
    List UUID → List DispatchedEvent × List (UUID × DispatchedEvent)
  | [] => ([], buffered)
  | id :: ids =>
    let popped := popBuffered (buffered.filter (·.1 ≠ id)) ids
    ((buffered.lookup id).toList ++ popped.1, popped.2)

/-- `_emit`: the flags to put on the queue, in order. -/
def emit (d : FrameDispatcher) : List FlagDecision → List PersistedFlag × FrameDispatcher
  | [] => ([], d)
  | decision :: decisions =>
    let popped := popBuffered d.eventIdToBuffered decision.contributingEventIds
    let emitted := emit { d with eventIdToBuffered := popped.2 } decisions
    (⟨decision, popped.1⟩ :: emitted.1, emitted.2)

/-- The aggregator gets the results one after the other, and every call is followed by its
    `_emit`. -/
def feed (d : FrameDispatcher) : List InferenceEvent → List PersistedFlag × FrameDispatcher
  | [] => ([], d)
  | e :: es =>
    let processed := d.aggregator.process d.config.policySnapshot d.config.context e
    let emitted := { d with aggregator := processed.2 }.emit processed.1
    let fed := emitted.2.feed es
    (emitted.1 ++ fed.1, fed.2)

/-- `_dispatch_event`, with the id `uuid4` draws: the flags put on the queue, and the event as
    it now stands in the map. -/
def dispatchEvent (d : FrameDispatcher) (event : BufferedEvent) (syntheticId : UUID)
    (answers : RunnerAnswers) : List PersistedFlag × FrameDispatcher :=
  let dispatched : DispatchedEvent := { event with syntheticId }
  { d with
    heavyFrameSeq := d.nextHeavyFrameSeq event.message answers
    eventIdToBuffered :=
      (syntheticId, dispatched) :: d.eventIdToBuffered.filter (·.1 ≠ syntheticId) }.feed
    (d.inferenceEvents event.message syntheticId answers)

end FrameDispatcher

/-- One `_dispatch_event`, with what the environment decides for it. -/
structure DispatchStep where
  event : BufferedEvent
  syntheticId : UUID
  answers : RunnerAnswers

namespace FrameDispatcher

/-! ## 4. What a dispatch leaves

The same induction for every question about a dispatch: what holds of each flag a result gives holds
of all. -/

section
variable {d : FrameDispatcher} {decisions : List FlagDecision} {e : InferenceEvent}
  {es : List InferenceEvent} {event : BufferedEvent} {syntheticId : UUID}
  {answers : RunnerAnswers}

@[simp] theorem emit_config : (d.emit decisions).2.config = d.config := by
  induction decisions generalizing d with
  | nil => rfl
  | cons decision decisions ih => exact ih

@[simp] theorem emit_aggregator : (d.emit decisions).2.aggregator = d.aggregator := by
  induction decisions generalizing d with
  | nil => rfl
  | cons decision decisions ih => exact ih

/-- Every decision leaves as one flag. -/
@[simp] theorem emit_decisions : (d.emit decisions).1.map (·.decision) = decisions := by
  induction decisions generalizing d with
  | nil => rfl
  | cons decision decisions ih => exact congrArg (decision :: ·) ih

/-! ### One result -/

/-- The dispatcher whose aggregator has got one result. -/
def heard (d : FrameDispatcher) (e : InferenceEvent) : FrameDispatcher :=
  { d with aggregator := (d.aggregator.process d.config.policySnapshot d.config.context e).2 }

/-- The aggregator gets one result, and what it decides is emitted. -/
def feedOne (d : FrameDispatcher) (e : InferenceEvent) : List PersistedFlag × FrameDispatcher :=
  (d.heard e).emit (d.aggregator.process d.config.policySnapshot d.config.context e).1

/-- **Feeding is one result after the other.** Every fact about `feed` is one about `feedOne` and
    this. -/
theorem feed_cons (d : FrameDispatcher) (e : InferenceEvent) (es : List InferenceEvent) :
    d.feed (e :: es) = ((d.feedOne e).1 ++ ((d.feedOne e).2.feed es).1,
      ((d.feedOne e).2.feed es).2) := rfl

@[simp] theorem feedOne_config : (d.feedOne e).2.config = d.config := emit_config

@[simp] theorem feedOne_aggregator : (d.feedOne e).2.aggregator =
    (d.aggregator.process d.config.policySnapshot d.config.context e).2 := emit_aggregator

@[simp] theorem feedOne_decisions : (d.feedOne e).1.map (·.decision) =
    (d.aggregator.process d.config.policySnapshot d.config.context e).1 := emit_decisions

@[simp] theorem feed_config : (d.feed es).2.config = d.config := by
  induction es generalizing d with
  | nil => rfl
  | cons e es ih => exact ih.trans feedOne_config

/-- The flags of a dispatch are the aggregator's decisions, one each and in order. -/
theorem feed_decisions : (d.feed es).1.map (·.decision) =
    d.aggregator.decisions d.config.policySnapshot d.config.context es := by
  induction es generalizing d with
  | nil => rfl
  | cons e es ih =>
    rw [feed_cons, List.map_append, feedOne_decisions, ih, feedOne_config, feedOne_aggregator]
    rfl

theorem livenessEvents_forall {decision : InferenceDecision}
    {landmarkerResult : Option HeadPoseGazeResult} {heavyFrame : HeavyFrameAnswers}
    {e : InferenceEvent}
    (h : e ∈ d.livenessEvents decision landmarkerResult syntheticId heavyFrame) :
    e.telemetryEventId = syntheticId ∧ e.ruleCode ≠ "identity_check_unavailable" := by
  unfold livenessEvents at h
  split at h
  · obtain ⟨result, -, rfl⟩ := List.mem_map.mp h
    exact ⟨rfl, by simp [InferenceEvent.ruleCode]⟩
  · exact absurd h List.not_mem_nil

theorem heavyFrameEvents_forall {capturedAt : DateTime} {heavyFrame : HeavyFrameAnswers}
    {e : InferenceEvent} (h : e ∈ d.heavyFrameEvents capturedAt syntheticId heavyFrame) :
    e.telemetryEventId = syntheticId ∧ e.ruleCode ≠ "identity_check_unavailable" := by
  have hbook : ∀ c : Prop, [Decidable c] →
      (if c then bookRuleCode else "object_detected") ≠ "identity_check_unavailable" := by
    intro c _
    split <;> decide
  unfold heavyFrameEvents at h
  extract_lets decision landmarkerResult gaze objects rest at h
  -- Gaze, objects, then identity with liveness; all carry the id of the frame.
  rcases List.mem_append.mp h with h | h
  · rcases List.mem_append.mp h with h | h
    · simp only [gaze] at h
      split at h
      · obtain ⟨result, -, rfl⟩ := List.mem_map.mp h
        exact ⟨rfl, by simp [InferenceEvent.ruleCode]⟩
      · exact absurd h List.not_mem_nil
    · simp only [objects] at h
      split at h
      · obtain ⟨det, -, rfl⟩ := List.mem_map.mp h
        exact ⟨rfl, hbook _⟩
      · exact absurd h List.not_mem_nil
  · simp only [rest] at h
    split at h
    · split at h
      · exact absurd h List.not_mem_nil
      · split at h
        · exact absurd h List.not_mem_nil
        · rcases List.mem_cons.mp h with rfl | h
          · exact ⟨rfl, by simp [InferenceEvent.ruleCode]⟩
          · exact livenessEvents_forall h
    · exact livenessEvents_forall h

/-- The results of a message carry its key, and none of them is the missing identity backend. -/
theorem inferenceEvents_forall {message : ClientMessage} {e : InferenceEvent}
    (h : e ∈ d.inferenceEvents message syntheticId answers) :
    e.telemetryEventId = syntheticId ∧ e.ruleCode ≠ "identity_check_unavailable" := by
  unfold inferenceEvents at h
  split at h
  case h_1 =>
    obtain rfl := List.mem_singleton.mp h
    exact ⟨rfl, by simp [InferenceEvent.ruleCode]⟩
  case h_2 =>
    split at h
    · exact heavyFrameEvents_forall h
    · exact absurd h List.not_mem_nil
  case h_3 =>
    unfold audioEvents at h
    split at h
    · exact absurd h List.not_mem_nil
    · split at h
      · exact absurd h List.not_mem_nil
      · obtain rfl := List.mem_singleton.mp h
        exact ⟨rfl, by simp [InferenceEvent.ruleCode]⟩
  case h_4 =>
    obtain ⟨result, -, rfl⟩ := List.mem_map.mp h
    exact ⟨rfl, by simp [InferenceEvent.ruleCode]⟩
  case h_5 => exact absurd h List.not_mem_nil

/-- The detections of a message carry its key. -/
theorem objectDetection_id {message : ClientMessage} {result : ObjectDetectionResult} {id : UUID}
    {now : DateTime} (h : .objectDetection result id now ∈
      d.inferenceEvents message syntheticId answers) : id = syntheticId :=
  (inferenceEvents_forall h).1

/-- The flags of a dispatch are the aggregator's decisions on its results. -/
theorem dispatchEvent_decisions (d : FrameDispatcher) (s : DispatchStep) :
    (d.dispatchEvent s.event s.syntheticId s.answers).1.map (·.decision) =
      d.aggregator.decisions d.config.policySnapshot d.config.context
        (d.inferenceEvents s.event.message s.syntheticId s.answers) := feed_decisions

@[simp] theorem dispatchEvent_config :
    (d.dispatchEvent event syntheticId answers).2.config = d.config := feed_config

end

end FrameDispatcher

end ProctorEngine
