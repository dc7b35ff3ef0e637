import ProctorEngine.Fusion.Contributions
import ProctorEngine.Fusion.Score

/-!
# What one result raises

A result raises nothing, or the decision of its rule, or that decision and Path 3's behind it
(`Fires`). Path 3 names the events of the decision it follows, so **whenever it is reached, two
decisions name the same events**; that, and a rule that names events again, is all it takes
(`decisions_apart_iff`).

`Fires` is `Effect` once more with the score worked out: whether Path 3 speaks is a question about
the score the result finds and the weight of its rule (`ReachesThreshold`), so it can be asked
before the call.

No decision names an event the aggregator was not given: every id in its state came in with a result
(`Holds`).
-/

set_option autoImplicit false

namespace ProctorEngine

/-- The key of the telemetry event a result comes from. -/
def InferenceEvent.telemetryEventId : InferenceEvent → UUID
  | .facePresence _ id | .liveness _ id | .gaze _ id _ | .identityMatch _ id
  | .identityCheckUnavailable id | .objectDetection _ id _ | .browserEvent _ id
  | .audioVad _ id => id

namespace SessionAggregator

/-! ## 1. The rule and Path 3

`process_effect` leaves open what `raiseMedium` adds to the decision it is given. Here it is
closed. -/

section
variable (policy : PolicySnapshot) (ctx : SessionContext)

/-- The weight of the rule takes the score to the threshold, or finds it there. -/
def ReachesThreshold (a : SessionAggregator) (e : InferenceEvent) : Prop :=
  AddsToScore policy ctx a e ∧ 0 < policy.mediumScoreTerminationThreshold ∧
    policy.mediumScoreTerminationThreshold ≤ a.accumulatedScore + policy.weightFor e.ruleCode

/-- Everything one result can raise. -/
inductive Fires (a : SessionAggregator) (e : InferenceEvent) : List FlagDecision → Prop
  | silent : Fires a e []
  | rule {d : FlagDecision} (ruleCode : d.ruleCode = e.ruleCode)
      (below : ¬ ReachesThreshold policy ctx a e) : Fires a e [d]
  | pathThree {d p : FlagDecision} (ruleCode : d.ruleCode = e.ruleCode)
      (isPathThree : p.IsPathThree) (reaches : ReachesThreshold policy ctx a e)
      (same : p.contributingEventIds = d.contributingEventIds) : Fires a e [d, p]

end

section
variable {policy : PolicySnapshot} {ctx : SessionContext} {a a' : SessionAggregator}
  {e : InferenceEvent} {d : FlagDecision}

theorem fires_raiseMedium (hadds : AddsToScore policy ctx a e)
    (hscore : a'.accumulatedScore = a.accumulatedScore) (hrule : d.ruleCode = e.ruleCode)
    (hdelta : d.scoreDelta = policy.weightFor e.ruleCode) :
    Fires policy ctx a e (raiseMedium policy a' d).1 := by
  simp only [raiseMedium, hscore, hdelta]
  cases hcheck : checkAccumulatedThreshold policy
      (a.accumulatedScore + policy.weightFor e.ruleCode) d.contributingEventIds with
  | none =>
    have hshort := checkAccumulatedThreshold_eq_none_iff.mp hcheck
    exact .rule hrule fun h => hshort h.2
  | some p =>
    obtain ⟨hon, hreached, rfl⟩ := checkAccumulatedThreshold_eq_some_iff.mp hcheck
    exact .pathThree hrule rfl ⟨hadds, hon, hreached⟩ rfl

/-- **One result raises nothing, its rule's decision, or that and Path 3's.** -/
theorem process_fires (policy : PolicySnapshot) (ctx : SessionContext) (a : SessionAggregator)
    (e : InferenceEvent) : Fires policy ctx a e (a.process policy ctx e).1 := by
  have heffect := process_effect policy ctx a e
  generalize a.process policy ctx e = result at heffect
  cases heffect with
  | silent _ _ => exact .silent
  | aside _ keeps ruleCode _ _ _ _ => exact .rule ruleCode fun h => keeps h.1
  | medium _ adds ruleCode _ delta _ score => exact fires_raiseMedium adds score ruleCode delta

/-- A decision's rule is that of its result, or Path 3. -/
theorem process_ruleCode (h : d ∈ (a.process policy ctx e).1) :
    d.ruleCode = e.ruleCode ∨ d.IsPathThree := by
  have hfires := process_fires policy ctx a e
  generalize (a.process policy ctx e).1 = ds at h hfires
  cases hfires with
  | silent => exact absurd h List.not_mem_nil
  | rule hrule _ => exact .inl (List.mem_singleton.mp h ▸ hrule)
  | pathThree hrule hpath _ _ =>
    rcases List.mem_cons.mp h with rfl | h
    · exact .inl hrule
    · exact .inr (List.mem_singleton.mp h ▸ hpath)

theorem decisions_ruleCode {es : List InferenceEvent} (h : d ∈ decisions policy ctx a es) :
    (∃ e ∈ es, d.ruleCode = e.ruleCode) ∨ d.IsPathThree := by
  induction es generalizing a with
  | nil => exact absurd h List.not_mem_nil
  | cons e es ih =>
    rcases List.mem_append.mp h with h | h
    · exact (process_ruleCode h).imp_left fun hrule => ⟨e, List.mem_cons_self, hrule⟩
    · exact (ih h).imp_left fun ⟨x, hx, hrule⟩ => ⟨x, List.mem_cons_of_mem e hx, hrule⟩

end

/-! ## 2. Decisions that share no event

Two decisions share an event if they are of one call, which is Path 3, or of two, where the second
names an event again. -/

/-- No two of the decisions name the same event. -/
def Apart (ds : List FlagDecision) : Prop :=
  ds.Pairwise fun d d' => ∀ id ∈ d.contributingEventIds, id ∉ d'.contributingEventIds

/-- The results name no event that is named already, none twice, and none together with
    Path 3. -/
def NamesAfresh (policy : PolicySnapshot) (ctx : SessionContext) :
    (UUID → Prop) → SessionAggregator → List InferenceEvent → Prop
  | _, _, [] => True
  | named, a, e :: es =>
    (∀ id, Contributes policy ctx a id e → ¬ named id ∧ ¬ ReachesThreshold policy ctx a e) ∧
      NamesAfresh policy ctx (fun id => named id ∨ Contributes policy ctx a id e)
        (a.process policy ctx e).2 es

section
variable {policy : PolicySnapshot} {ctx : SessionContext} {a : SessionAggregator}
  {e : InferenceEvent} {ds ds' : List FlagDecision} {es : List InferenceEvent}
  {named : UUID → Prop} {id : UUID}

theorem apart_append : Apart (ds ++ ds') ↔
    Apart ds ∧ Apart ds' ∧ ∀ id, NamedBy ds id → ¬ NamedBy ds' id := by
  unfold Apart
  rw [List.pairwise_append]
  refine and_congr_right fun _ => and_congr_right fun _ => ?_
  constructor
  · rintro h id ⟨d, hd, hid⟩ ⟨d', hd', hid'⟩
    exact h d hd d' hd' id hid hid'
  · intro h d hd d' hd' id hid hid'
    exact h id ⟨d, hd, hid⟩ ⟨d', hd', hid'⟩

theorem namedBy_decisions :
    NamedBy (decisions policy ctx a es) id ↔ ContributesAny policy ctx id a es := by
  induction es generalizing a with
  | nil => exact iff_of_false not_namedBy_nil False.elim
  | cons e es ih => rw [decisions, namedBy_append, namedBy_process, ih, ContributesAny]

theorem process_apart_iff : Apart (a.process policy ctx e).1 ↔
    ∀ id, Contributes policy ctx a id e → ¬ ReachesThreshold policy ctx a e := by
  simp only [← namedBy_process]
  have hfires := process_fires policy ctx a e
  generalize (a.process policy ctx e).1 = ds at hfires
  cases hfires with
  | silent => simp [Apart]
  | rule _ hbelow => simp [Apart, hbelow]
  | pathThree _ _ hreaches hsame => simp [Apart, hreaches, hsame]

/-- **Whether two decisions share an event can be read off the results and the states they
    find.** -/
theorem decisions_apart_iff :
    Apart (decisions policy ctx a es) ∧
        (∀ id, ContributesAny policy ctx id a es → ¬ named id) ↔
      NamesAfresh policy ctx named a es := by
  induction es generalizing a named with
  | nil => simp [decisions, Apart, ContributesAny, NamesAfresh]
  | cons e es ih =>
    rw [decisions, apart_append, NamesAfresh, ← ih, process_apart_iff]
    simp only [namedBy_process, namedBy_decisions, ContributesAny, or_imp, not_or, forall_and]
    constructor
    · rintro ⟨⟨hthree, happart, hcross⟩, hnamed, hnamed'⟩
      exact ⟨⟨hnamed, hthree⟩, happart, hnamed', fun id h h' => hcross id h' h⟩
    · rintro ⟨⟨hnamed, hthree⟩, happart, hnamed', hcross⟩
      exact ⟨⟨hthree, happart, fun id h h' => hcross id h' h⟩, hnamed, hnamed'⟩

end

/-! ## 3. The ids in the state

Four queues and lists hold ids. A predicate that holds of all of them and of the next result's id
holds of whatever the next call names. -/

/-- Every event id in the state has `S`. -/
structure Holds (S : UUID → Prop) (a : SessionAggregator) : Prop where
  secondPerson : ∀ id ∈ a.secondPersonEventIds, S id
  gazeOff : ∀ id ∈ a.gazeOffEventIds, S id
  gazeAway : ∀ event ∈ a.gazeAwayEvents, ∀ id ∈ event.contributingEventIds, S id
  liveness : ∀ r ∈ a.livenessWindow, S r.2
  identity : ∀ r ∈ a.identityWindow, S r.2

section
variable {policy : PolicySnapshot} {ctx : SessionContext} {a : SessionAggregator}
  {e : InferenceEvent} {es : List InferenceEvent} {S S' : UUID → Prop} {id : UUID}

theorem mem_slide {α : Type} {size : Nat} {window : List α} {x y : α}
    (h : y ∈ slide size window x) : y ∈ window ∨ y = x := by
  unfold slide at h
  split at h
  · simpa using List.mem_of_mem_tail h
  · simpa using h

theorem holds_new : Holds S new := by
  constructor <;> simp [new]

theorem Holds.mono (h : Holds S a) (hS : ∀ id, S id → S' id) : Holds S' a :=
  ⟨fun id hid => hS id (h.secondPerson id hid), fun id hid => hS id (h.gazeOff id hid),
    fun event hevent id hid => hS id (h.gazeAway event hevent id hid),
    fun r hr => hS r.2 (h.liveness r hr), fun r hr => hS r.2 (h.identity r hr)⟩

theorem Holds.facePresence {result : FacePresenceResult} (h : Holds S a) (hid : S id) :
    Holds S (a.processFacePresence policy result id).2 := by
  have hids : ∀ x ∈ a.secondPersonEventIds ++ [id], S x := by
    intro x hx
    rcases List.mem_append.mp hx with hx | hx
    · exact h.secondPerson x hx
    · exact List.mem_singleton.mp hx ▸ hid
  simp only [processFacePresence]
  repeat' split
  all_goals first
    | exact h
    | exact ⟨hids, h.gazeOff, h.gazeAway, h.liveness, h.identity⟩
    | exact ⟨by simp, h.gazeOff, h.gazeAway, h.liveness, h.identity⟩

theorem Holds.processLiveness {result : LivenessResult} (h : Holds S a) (hid : S id) :
    Holds S (a.processLiveness policy result id).2 := by
  have hwindow : ∀ r ∈ slide policy.livenessConfirmationFrames a.livenessWindow (result, id),
      S r.2 := by
    intro r hr
    rcases mem_slide hr with hr | rfl
    · exact h.liveness r hr
    · exact hid
  simp only [SessionAggregator.processLiveness]
  repeat' split
  all_goals first
    | exact h
    | exact ⟨h.secondPerson, h.gazeOff, h.gazeAway, hwindow, h.identity⟩

theorem Holds.mergeGazeFrame (h : Holds S a) (policy : PolicySnapshot)
    (result : HeadPoseGazeResult) (timestamp : Int) (hid : S id) :
    Holds S (a.mergeGazeFrame policy result id timestamp) := by
  unfold SessionAggregator.mergeGazeFrame
  split
  · exact h
  · refine ⟨h.secondPerson, ?_, h.gazeAway, h.liveness, h.identity⟩
    intro x hx
    rcases List.mem_append.mp hx with hx | hx
    · exact h.gazeOff x hx
    · exact List.mem_singleton.mp hx ▸ hid
  · split
    · exact h
    · refine ⟨h.secondPerson, by simp, ?_, h.liveness, h.identity⟩
      intro event hevent
      split at hevent
      · rcases List.mem_append.mp hevent with hevent | hevent
        · exact h.gazeAway event hevent
        · obtain rfl := List.mem_singleton.mp hevent
          exact h.gazeOff
      · exact h.gazeAway event hevent

/-- The window keeps some of the events it had, and the one just closed. -/
theorem Holds.gazeWindowAfter (h : Holds S a) (policy : PolicySnapshot)
    (result : HeadPoseGazeResult) (timestamp : Int) (hid : S id) :
    ∀ event ∈ a.gazeWindowAfter policy result id timestamp,
      ∀ x ∈ event.contributingEventIds, S x := by
  intro event hevent
  have hmerged := h.mergeGazeFrame policy result timestamp hid
  exact hmerged.gazeAway event ((List.dropWhile_suffix _).subset hevent)

theorem Holds.processGaze {result : HeadPoseGazeResult} {timestamp : Int} (h : Holds S a)
    (hid : S id) : Holds S (a.processGaze policy result id timestamp).2 := by
  have hmerged := h.mergeGazeFrame policy result timestamp hid
  have hwindow := h.gazeWindowAfter policy result timestamp hid
  simp only [SessionAggregator.processGaze]
  repeat' split
  all_goals first
    | exact h
    | exact ⟨hmerged.secondPerson, hmerged.gazeOff, hwindow, hmerged.liveness, hmerged.identity⟩

theorem Holds.processIdentityMatch {result : IdentityMatchResult} (h : Holds S a) (hid : S id) :
    Holds S (a.processIdentityMatch policy result id).2 := by
  have hwindow : ∀ r ∈ slide policy.identityConfirmationFrames a.identityWindow (result, id),
      S r.2 := by
    intro r hr
    rcases mem_slide hr with hr | rfl
    · exact h.identity r hr
    · exact hid
  simp only [SessionAggregator.processIdentityMatch]
  repeat' split
  all_goals first
    | exact h
    | exact ⟨h.secondPerson, h.gazeOff, h.gazeAway, h.liveness, hwindow⟩

/-- **The state takes in the id of the result and no other.** -/
theorem Holds.process (h : Holds S a) (hid : S e.telemetryEventId) :
    Holds S (a.process policy ctx e).2 := by
  -- a change of the score is none of the ids
  have hscore : ∀ d, Holds S (raiseMedium policy a d).2 := fun _ =>
    ⟨h.secondPerson, h.gazeOff, h.gazeAway, h.liveness, h.identity⟩
  cases e with
  | facePresence result id => exact h.facePresence hid
  | liveness result id => exact h.processLiveness hid
  | gaze result id timestamp => exact h.processGaze hid
  | identityMatch result id => exact h.processIdentityMatch hid
  | identityCheckUnavailable id => exact h
  | objectDetection result id now =>
    simp only [SessionAggregator.process, processObjectDetection]
    repeat' split
    all_goals first
      | exact h
      | exact hscore _
  | browserEvent result id =>
    simp only [SessionAggregator.process, processBrowserEvent]
    split
    · exact hscore _
    · exact h
  | audioVad result id =>
    simp only [SessionAggregator.process, processAudioVad]
    split
    · exact h
    · exact hscore _

/-- What a rule names was in the state, or is the result's own event. -/
theorem Holds.contributes (h : Holds S a) (hid : S e.telemetryEventId)
    (hc : Contributes policy ctx a id e) : S id := by
  cases e with
  | facePresence result key =>
    obtain ⟨-, -, -, -, hmem⟩ := hc
    rcases List.mem_append.mp hmem with hmem | hmem
    · exact h.secondPerson id hmem
    · exact List.mem_singleton.mp hmem ▸ hid
  -- What contributes stands in the window after the result: an old entry, or the result itself.
  | liveness result key =>
    obtain ⟨-, -, -, -, -, hmem⟩ := hc
    obtain ⟨r, hr, rfl⟩ := List.mem_map.mp hmem
    rcases mem_slide hr with hr | rfl
    · exact h.liveness r hr
    · exact hid
  | gaze result key timestamp =>
    have hwindow := h.gazeWindowAfter policy result timestamp hid
    -- the termination names every event of the window, a warning only the last
    obtain ⟨-, ⟨-, hmem⟩ | ⟨-, -, hmem⟩⟩ := hc
    · obtain ⟨event, hevent, hmem⟩ := List.mem_flatMap.mp hmem
      exact hwindow event hevent id hmem
    · cases hlast : (a.gazeWindowAfter policy result key timestamp).getLast? with
      | none => exact absurd hmem (by simp [hlast])
      | some event =>
        rw [hlast] at hmem
        exact hwindow event (List.mem_of_getLast? hlast) id hmem
  | identityMatch result key =>
    obtain ⟨-, -, -, hmem⟩ := hc
    obtain ⟨r, hr, rfl⟩ := List.mem_map.mp hmem
    rcases mem_slide hr with hr | rfl
    · exact h.identity r hr
    · exact hid
  | identityCheckUnavailable key =>
    obtain rfl : id = key := hc
    exact hid
  | objectDetection result key now =>
    obtain ⟨-, rfl⟩ := hc
    exact hid
  | browserEvent result key =>
    obtain rfl : id = key := hc
    exact hid
  | audioVad result key =>
    obtain ⟨-, rfl⟩ := hc
    exact hid

/-- Over the results of one event, the ids that are named were there or are the event's. -/
theorem Holds.contributesAny (h : Holds S a) (hes : ∀ e ∈ es, S e.telemetryEventId)
    (hc : ContributesAny policy ctx id a es) : S id := by
  induction es generalizing a with
  | nil => exact hc.elim
  | cons e es ih =>
    obtain ⟨he, hes⟩ := List.forall_mem_cons.mp hes
    rcases hc with hc | hc
    · exact h.contributes he hc
    · exact ih (h.process he) hes hc

end

end SessionAggregator
end ProctorEngine
