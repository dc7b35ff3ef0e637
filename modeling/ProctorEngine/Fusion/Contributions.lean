import ProctorEngine.Fusion.Effects

/-!
# What a decision is made of

A decision names the telemetry events that contributed to it, and nothing else of a result
leaves the aggregator. `Contributes` says, rule by rule and from the state the result finds,
when a rule fires and which events it then names; **an event that no firing rule names leaves no
trace**. Path 3 follows another decision and names the same events.
-/

set_option autoImplicit false

namespace ProctorEngine
namespace SessionAggregator

variable (policy : PolicySnapshot) (ctx : SessionContext)

/-- The rule of the result fires in this state and names the event. -/
def Contributes (a : SessionAggregator) (id : UUID) : InferenceEvent → Prop
  | .facePresence result telemetryEventId =>
    a.secondPersonFired = false ∧ policy.terminateOnSecondFace = true ∧ 2 ≤ result.faceCount ∧
      policy.secondFaceConfirmationFrames ≤ a.consecutiveSecondPersonFrames + 1 ∧
      id ∈ a.secondPersonEventIds ++ [telemetryEventId]
  | .liveness result telemetryEventId =>
    let window := slide policy.livenessConfirmationFrames a.livenessWindow
      (result, telemetryEventId)
    policy.livenessCheckEnabled = true ∧ result.isReal = false ∧
      policy.livenessConfirmationFrames ≤ window.length ∧ (∀ r ∈ window, r.1.isReal = false) ∧
      (a.livenessSpoofRunLength + 1) % policy.livenessConfirmationFrames = 0 ∧
      id ∈ window.map (·.2)
  | .gaze result telemetryEventId frameTimestampMs =>
    let events := a.gazeWindowAfter policy result telemetryEventId frameTimestampMs
    a.gazeTerminationFired = false ∧
      ((policy.gazeTerminationLimit ≤ events.length ∧
          id ∈ events.flatMap (·.contributingEventIds)) ∨
        (events.length < policy.gazeTerminationLimit ∧
          policy.gazeWarningLimit ≤ events.length ∧
          id ∈ (events.getLast?.map (·.contributingEventIds)).getD []))
  | .identityMatch result telemetryEventId =>
    let window := slide policy.identityConfirmationFrames a.identityWindow
      (result, telemetryEventId)
    a.identityMismatchFired = false ∧ policy.identityConfirmationFrames ≤ window.length ∧
      (∀ r ∈ window, r.1.similarity.val < policy.identitySimilarityThreshold) ∧
      id ∈ window.map (·.2)
  | .identityCheckUnavailable telemetryEventId => id = telemetryEventId
  | .objectDetection result telemetryEventId _ =>
    (result.detectedClass = "book" → ctx.flagsBook = true) ∧ id = telemetryEventId
  | .browserEvent _ telemetryEventId => id = telemetryEventId
  | .audioVad result telemetryEventId => result.eventType ≠ "silence" ∧ id = telemetryEventId

/-- The same over the results of one dispatch, each in the state it finds. -/
def ContributesAny (id : UUID) : SessionAggregator → List InferenceEvent → Prop
  | _, [] => False
  | a, e :: es => Contributes policy ctx a id e ∨ ContributesAny id (a.process policy ctx e).2 es

/-- Some of the decisions names the event. -/
def NamedBy (ds : List FlagDecision) (id : UUID) : Prop := ∃ d ∈ ds, id ∈ d.contributingEventIds

section
variable {policy ctx} {a : SessionAggregator} {id telemetryEventId : UUID}
  {d : FlagDecision} {ds es : List FlagDecision}

@[simp] theorem not_namedBy_nil : ¬ NamedBy [] id := by simp [NamedBy]

@[simp] theorem namedBy_cons :
    NamedBy (d :: ds) id ↔ id ∈ d.contributingEventIds ∨ NamedBy ds id := by
  simp [NamedBy]

theorem namedBy_append : NamedBy (ds ++ es) id ↔ NamedBy ds id ∨ NamedBy es id := by
  simp [NamedBy, or_and_right, exists_or]

/-- Path 3 names what the decision before it names. -/
theorem namedBy_raiseMedium :
    NamedBy (raiseMedium policy a d).1 id ↔ id ∈ d.contributingEventIds := by
  simp only [raiseMedium, namedBy_cons]
  constructor
  · intro h
    rcases h with h | ⟨p, hp, hid⟩
    · exact h
    · obtain ⟨-, -, rfl⟩ := checkAccumulatedThreshold_eq_some_iff.mp (Option.mem_toList.mp hp)
      exact hid
  · exact .inl

/-- Contributing is being one of the ids of a rule that fires. -/
theorem contributes_iff {e : InferenceEvent} :
    Contributes policy ctx a id e ↔ RuleFires policy ctx a e ∧ id ∈ ruleIds policy a e := by
  cases e with
  | gaze result key timestamp =>
    simp only [Contributes, RuleFires, ruleIds]
    by_cases hlimit : policy.gazeTerminationLimit ≤
        (a.gazeWindowAfter policy result key timestamp).length
    · simp [hlimit, Nat.not_lt.mpr hlimit]
    · simp [hlimit, Nat.lt_of_not_le hlimit, and_assoc]
  | _ => simp [Contributes, RuleFires, ruleIds, and_assoc]

/-- **The decisions on a result name the events of the rule that fires, and no others.** -/
theorem namedBy_process {e : InferenceEvent} :
    NamedBy (a.process policy ctx e).1 id ↔ Contributes policy ctx a id e := by
  rw [contributes_iff]
  have heffect := process_effect policy ctx a e
  generalize a.process policy ctx e = result at heffect
  cases heffect with
  | silent idle _ => exact iff_of_false not_namedBy_nil fun h => idle h.1
  | aside fires _ _ ids _ _ _ => simp [fires, ids]
  | medium fires _ _ ids _ _ _ =>
    rw [namedBy_raiseMedium, ids]
    exact ⟨fun h => ⟨fires, h⟩, fun h => h.2⟩

/-- A detection the session flags is named by its own decision, whatever else the frame holds
    and whatever the state. -/
theorem contributesAny_of_detection {events : List InferenceEvent} {result : ObjectDetectionResult}
    {now : DateTime} (hmem : .objectDetection result id now ∈ events)
    (hflags : result.detectedClass = "book" → ctx.flagsBook = true) :
    ContributesAny policy ctx id a events := by
  induction events generalizing a with
  | nil => exact absurd hmem List.not_mem_nil
  | cons e events ih =>
    rcases List.mem_cons.mp hmem with rfl | hmem
    · exact .inl ⟨hflags, rfl⟩
    · exact .inr (ih hmem)

end

end SessionAggregator
end ProctorEngine
