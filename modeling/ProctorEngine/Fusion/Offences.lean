import ProctorEngine.Fusion.Support

/-!
# What a decision holds against a session

A rule judges one result, but its decision names the events of many: those of a streak, of a
window, of every look-away that is still counted. Each of them is evidence, stored and shown to a
proctor under the rule's name, so each ought to be an event the rule objects to.

`Offends` says what a result has to be for its rule to object to it. The windows and streaks of
the aggregator are reset, slid and evicted by results that do not offend; **what they hand to a
decision is offences only** (`Backed.accused`), whatever the order of the results.
-/

set_option autoImplicit false

namespace ProctorEngine

/-- The rule of the result objects to it. This is about the result alone, where whether the rule
    fires is a matter of the state too. -/
def InferenceEvent.Offends (policy : PolicySnapshot) (ctx : SessionContext) :
    InferenceEvent → Prop
  | .facePresence result _ => 2 ≤ result.faceCount
  | .liveness result _ => result.isReal = false
  | .gaze result _ _ => result.offScreen = some true
  | .identityMatch result _ => result.similarity.val < policy.identitySimilarityThreshold
  | .identityCheckUnavailable _ => True
  | .objectDetection result _ _ => result.detectedClass = "book" → ctx.flagsBook = true
  | .browserEvent _ _ => True
  | .audioVad result _ => result.eventType ≠ "silence"

/-- The decision is Path 3's, or its rule is this one. -/
def FlagDecision.JudgedBy (d : FlagDecision) (ruleCode : String) : Prop :=
  d.ruleCode = ruleCode ∨ d.IsPathThree

namespace SessionAggregator

/-! ## 1. The accused events

`Accused` is the link from a rule and an id to the result that offended; `Backed` says it of every
id the state holds. -/

/-- Among the given results is one that offends this rule and comes from this event. -/
def Accused (policy : PolicySnapshot) (ctx : SessionContext) (given : InferenceEvent → Prop)
    (ruleCode : String) (id : UUID) : Prop :=
  ∃ e, given e ∧ e.Offends policy ctx ∧ e.ruleCode = ruleCode ∧ e.telemetryEventId = id

/-- What the aggregator has collected comes from the given results: streaks and look-aways hold
    offences, windows whole results. No look-away is without an event. -/
structure Backed (policy : PolicySnapshot) (ctx : SessionContext) (given : InferenceEvent → Prop)
    (a : SessionAggregator) : Prop where
  secondPerson : ∀ id ∈ a.secondPersonEventIds, Accused policy ctx given "second_person" id
  gazeOff : ∀ id ∈ a.gazeOffEventIds, Accused policy ctx given "gaze_away_frequency" id
  streak : a.gazeOffStartMs.isSome = true → a.gazeOffEventIds ≠ []
  gazeAway : ∀ event ∈ a.gazeAwayEvents, event.contributingEventIds ≠ [] ∧
    ∀ id ∈ event.contributingEventIds, Accused policy ctx given "gaze_away_frequency" id
  liveness : ∀ r ∈ a.livenessWindow, given (.liveness r.1 r.2)
  identity : ∀ r ∈ a.identityWindow, given (.identityMatch r.1 r.2)

section
variable {policy : PolicySnapshot} {ctx : SessionContext} {given given' : InferenceEvent → Prop}
  {a : SessionAggregator} {e : InferenceEvent} {es : List InferenceEvent} {id : UUID}
  {ruleCode : String} {d : FlagDecision}

theorem Accused.mono (h : Accused policy ctx given ruleCode id) (hgiven : ∀ e, given e → given' e) :
    Accused policy ctx given' ruleCode id := by
  obtain ⟨e, he, hoffends⟩ := h
  exact ⟨e, hgiven e he, hoffends⟩

theorem backed_new : Backed policy ctx given new := by
  constructor <;> simp [new]

theorem Backed.mono (h : Backed policy ctx given a) (hgiven : ∀ e, given e → given' e) :
    Backed policy ctx given' a where
  secondPerson id hid := (h.secondPerson id hid).mono hgiven
  gazeOff id hid := (h.gazeOff id hid).mono hgiven
  streak := h.streak
  gazeAway event hevent := by
    obtain ⟨hne, hids⟩ := h.gazeAway event hevent
    exact ⟨hne, fun id hid => (hids id hid).mono hgiven⟩
  liveness r hr := hgiven _ (h.liveness r hr)
  identity r hr := hgiven _ (h.identity r hr)

/-! ## 2. One result

A result that offends adds its own id, one that does not adds none, and both keep the rest or drop
it. -/

theorem Backed.facePresence {result : FacePresenceResult} (h : Backed policy ctx given a)
    (he : given (.facePresence result id)) :
    Backed policy ctx given (a.processFacePresence policy result id).2 := by
  simp only [processFacePresence]
  split
  · exact h
  split
  · exact h
  split
  · -- the frame joins the streak because there are two faces on it
    rename_i hcount
    have hids : ∀ x ∈ a.secondPersonEventIds ++ [id],
        Accused policy ctx given "second_person" x := by
      intro x hx
      rcases List.mem_append.mp hx with hx | hx
      · exact h.secondPerson x hx
      · exact ⟨.facePresence result id, he, hcount, rfl, (List.mem_singleton.mp hx).symm⟩
    split
    all_goals exact { h with secondPerson := hids }
  · exact { h with secondPerson := fun x hx => absurd hx List.not_mem_nil }

theorem Backed.processLiveness {result : LivenessResult} (h : Backed policy ctx given a)
    (he : given (.liveness result id)) :
    Backed policy ctx given (a.processLiveness policy result id).2 := by
  have hwindow : ∀ r ∈ slide policy.livenessConfirmationFrames a.livenessWindow (result, id),
      given (.liveness r.1 r.2) := by
    intro r hr
    rcases mem_slide hr with hr | rfl
    · exact h.liveness r hr
    · exact he
  simp only [SessionAggregator.processLiveness]
  repeat' split
  all_goals first
    | exact h
    | exact ⟨h.secondPerson, h.gazeOff, h.streak, h.gazeAway, hwindow, h.identity⟩

theorem Backed.processIdentityMatch {result : IdentityMatchResult} (h : Backed policy ctx given a)
    (he : given (.identityMatch result id)) :
    Backed policy ctx given (a.processIdentityMatch policy result id).2 := by
  have hwindow : ∀ r ∈ slide policy.identityConfirmationFrames a.identityWindow (result, id),
      given (.identityMatch r.1 r.2) := by
    intro r hr
    rcases mem_slide hr with hr | rfl
    · exact h.identity r hr
    · exact he
  simp only [SessionAggregator.processIdentityMatch]
  repeat' split
  all_goals first
    | exact h
    | exact ⟨h.secondPerson, h.gazeOff, h.streak, h.gazeAway, h.liveness, hwindow⟩

/-- A frame joins the streak only off screen, and a streak that closes is a look-away. -/
theorem Backed.mergeGazeFrame {result : HeadPoseGazeResult} {timestamp : Int}
    (h : Backed policy ctx given a) (he : given (.gaze result id timestamp)) :
    Backed policy ctx given (a.mergeGazeFrame policy result id timestamp) := by
  unfold SessionAggregator.mergeGazeFrame
  split
  · exact h
  -- off screen: the frame joins the streak
  · rename_i hoff
    refine { h with
      gazeOff := ?_
      streak := fun _ => List.append_ne_nil_of_right_ne_nil _ (List.cons_ne_nil id []) }
    intro x hx
    rcases List.mem_append.mp hx with hx | hx
    · exact h.gazeOff x hx
    · exact ⟨.gaze result id timestamp, he, hoff, rfl, (List.mem_singleton.mp hx).symm⟩
  · split
    · exact h
    -- on screen after a streak: it closes, and is an event if long enough
    · rename_i start hstart
      have hstreak := h.streak (by rw [hstart]; rfl)
      refine { h with
        gazeOff := fun x hx => absurd hx List.not_mem_nil
        streak := fun hnone => absurd hnone Bool.false_ne_true
        gazeAway := ?_ }
      intro event hevent
      split at hevent
      · rcases List.mem_append.mp hevent with hevent | hevent
        · exact h.gazeAway event hevent
        · obtain rfl := List.mem_singleton.mp hevent
          exact ⟨hstreak, h.gazeOff⟩
      · exact h.gazeAway event hevent

/-- The look-aways a gaze call counts, with the frame taken in. -/
theorem Backed.gazeWindowAfter {result : HeadPoseGazeResult} {timestamp : Int}
    (h : Backed policy ctx given a) (he : given (.gaze result id timestamp)) :
    ∀ event ∈ a.gazeWindowAfter policy result id timestamp, event.contributingEventIds ≠ [] ∧
      ∀ x ∈ event.contributingEventIds, Accused policy ctx given "gaze_away_frequency" x :=
  fun event hevent =>
    (h.mergeGazeFrame he).gazeAway event ((List.dropWhile_suffix _).subset hevent)

theorem Backed.processGaze {result : HeadPoseGazeResult} {timestamp : Int}
    (h : Backed policy ctx given a) (he : given (.gaze result id timestamp)) :
    Backed policy ctx given (a.processGaze policy result id timestamp).2 := by
  have hmerged := h.mergeGazeFrame he
  have hwindow := h.gazeWindowAfter he
  simp only [SessionAggregator.processGaze]
  repeat' split
  all_goals first
    | exact h
    | exact ⟨hmerged.secondPerson, hmerged.gazeOff, hmerged.streak, hwindow, hmerged.liveness,
        hmerged.identity⟩

/-- **What is collected stays backed**, whatever the result. -/
theorem Backed.process (h : Backed policy ctx given a) (he : given e) :
    Backed policy ctx given (a.process policy ctx e).2 := by
  have hscore : ∀ d, Backed policy ctx given (raiseMedium policy a d).2 := fun _ =>
    ⟨h.secondPerson, h.gazeOff, h.streak, h.gazeAway, h.liveness, h.identity⟩
  cases e with
  | facePresence result id => exact h.facePresence he
  | liveness result id => exact h.processLiveness he
  | gaze result id timestamp => exact h.processGaze he
  | identityMatch result id => exact h.processIdentityMatch he
  | identityCheckUnavailable id => exact h
  | objectDetection result id now =>
    simp only [SessionAggregator.process, processObjectDetection]
    repeat' split
    all_goals first
      | exact h
      | exact hscore _
  | browserEvent result id =>
    simp only [SessionAggregator.process, processBrowserEvent]
    split
    · exact hscore _
    · exact h
  | audioVad result id =>
    simp only [SessionAggregator.process, processAudioVad]
    split
    · exact h
    · exact hscore _

/-! ## 3. What a decision names

A decision names ids of the state and of its result, and Path 3 those of the decision before it. -/

/-- A rule that fires names offences against itself. -/
theorem Backed.accused_ruleIds (h : Backed policy ctx given a) (he : given e)
    (hfires : RuleFires policy ctx a e) :
    ∀ x ∈ ruleIds policy a e, Accused policy ctx given e.ruleCode x := by
  intro x hx
  cases e with
  | facePresence result id =>
    rcases List.mem_append.mp hx with hx | hx
    · exact h.secondPerson x hx
    · exact ⟨_, he, hfires.2.2.1, rfl, (List.mem_singleton.mp hx).symm⟩
  -- Every entry of a full window is a spoof, and the result that made it was given.
  | liveness result id =>
    obtain ⟨r, hr, rfl⟩ := List.mem_map.mp hx
    have hspoof := hfires.2.2.2.1 r hr
    rcases mem_slide hr with hr | rfl
    · exact ⟨_, h.liveness r hr, hspoof, rfl, rfl⟩
    · exact ⟨_, he, hspoof, rfl, rfl⟩
  | gaze result id timestamp =>
    have hwindow := h.gazeWindowAfter he
    rw [ruleIds_gaze] at hx
    split at hx
    · obtain ⟨event, hevent, hx⟩ := List.mem_flatMap.mp hx
      exact (hwindow event hevent).2 x hx
    · obtain ⟨event, hevent, hx⟩ := List.mem_flatMap.mp (lastEvent_sublist.subset hx)
      exact (hwindow event hevent).2 x hx
  | identityMatch result id =>
    obtain ⟨r, hr, rfl⟩ := List.mem_map.mp hx
    have hother := hfires.2.2 r hr
    rcases mem_slide hr with hr | rfl
    · exact ⟨_, h.identity r hr, hother, rfl, rfl⟩
    · exact ⟨_, he, hother, rfl, rfl⟩
  | identityCheckUnavailable id => exact ⟨_, he, trivial, rfl, (List.mem_singleton.mp hx).symm⟩
  | objectDetection result id now => exact ⟨_, he, hfires, rfl, (List.mem_singleton.mp hx).symm⟩
  | browserEvent result id => exact ⟨_, he, trivial, rfl, (List.mem_singleton.mp hx).symm⟩
  | audioVad result id => exact ⟨_, he, hfires, rfl, (List.mem_singleton.mp hx).symm⟩

/-- It names one at least, unless it warns of look-aways where none is needed for a warning. -/
theorem Backed.ruleIds_ne_nil (h : Backed policy ctx given a) (he : given e)
    (hadmitted : policy.Admitted) (hwarning : 0 < policy.gazeWarningLimit)
    (hfires : RuleFires policy ctx a e) : ruleIds policy a e ≠ [] := by
  cases e with
  | facePresence result id => exact List.append_ne_nil_of_right_ne_nil _ (List.cons_ne_nil id [])
  | liveness result id =>
    have hfull := Nat.lt_of_lt_of_le policy.livenessFramesPositive hfires.2.2.1
    intro hnil
    rw [List.map_eq_nil_iff.mp hnil] at hfull
    exact absurd hfull (lt_irrefl 0)
  | gaze result id timestamp =>
    have hsome : 0 < (a.gazeWindowAfter policy result id timestamp).length :=
      hfires.2.elim (Nat.lt_of_lt_of_le hadmitted.gazeTerminationPositive)
        (Nat.lt_of_lt_of_le hwarning)
    rw [ruleIds_gaze]
    exact countedIds_ne_nil hsome fun event hevent => (h.gazeWindowAfter he event hevent).1
  | identityMatch result id =>
    have hfull := Nat.lt_of_lt_of_le policy.identityFramesPositive hfires.2.1
    intro hnil
    rw [List.map_eq_nil_iff.mp hnil] at hfull
    exact absurd hfull (lt_irrefl 0)
  | _ => exact List.cons_ne_nil _ []

/-- **A decision names offences and nothing else.** -/
theorem Backed.accused (h : Backed policy ctx given a) (hes : ∀ e ∈ es, given e)
    (hd : d ∈ decisions policy ctx a es) :
    (∀ x ∈ d.contributingEventIds, ∃ ruleCode, d.JudgedBy ruleCode ∧
        Accused policy ctx given ruleCode x) ∧
      (policy.Admitted → 0 < policy.gazeWarningLimit → d.contributingEventIds ≠ []) := by
  induction es generalizing a with
  | nil => exact absurd hd List.not_mem_nil
  | cons e es ih =>
    obtain ⟨he, hes⟩ := List.forall_mem_cons.mp hes
    rcases List.mem_append.mp hd with hd | hd
    · obtain ⟨hfires, hids⟩ := process_ids hd
      rw [hids]
      exact ⟨fun x hx => ⟨e.ruleCode, process_ruleCode hd, h.accused_ruleIds he hfires x hx⟩,
        fun hadmitted hwarning => h.ruleIds_ne_nil he hadmitted hwarning hfires⟩
    · exact ih (h.process he) hes hd

end

end SessionAggregator

end ProctorEngine
