import ProctorEngine.Fusion.Confirmation

/-!
# The evidence behind a decision

A decision is stored with one row for every telemetry event it names, keyed by the decision and the
event. The ids come out of streaks, queues and gaze-away events; each of these holds ids in the
order in which its own method was given them, so a decision names no event twice as long as no
method is given one twice.

Every rule but one names at least the event it was called with. **The gaze warning names the events
of the last look-away, and a warning limit of zero warns when there is none** (`supported_iff`).

Two things are shown of the ids that a rule names: they are a sublist of the ids its method has been
supplied with, and they are not empty. The first is an induction for each rule that keeps ids, and
those for the streak of second faces and for the two windows are in `Confirmation`. The ids of the
gaze rule stand in two places, with the completed look-aways and with the streak, and move from the
one to the other (`GazeTraced`).

The condition is tight because the tables admit a warning limit of zero. Under such a policy the
first gaze result of a session raises a decision, whatever the result is, and there is no look-away
that could support it.
-/

set_option autoImplicit false

namespace ProctorEngine

/-- The snapshot satisfies the constraints of the `policy_configs` table. -/
structure PolicySnapshot.Admitted (policy : PolicySnapshot) : Prop where
  gazeWindowPositive : 0 < policy.gazeWindowSeconds
  gazeTerminationPositive : 0 < policy.gazeTerminationLimit
  gazeWarningBeforeTermination : policy.gazeWarningLimit ≤ policy.gazeTerminationLimit
  gazeMinDurationWithinWindow : policy.gazeMinDurationMs ≤ policy.gazeWindowSeconds * 1000
  confirmationFramesPositive : 0 < policy.secondFaceConfirmationFrames
  identityThresholdInUnitInterval :
    0 ≤ policy.identitySimilarityThreshold ∧ policy.identitySimilarityThreshold ≤ 1
  audioRatioInUnitInterval :
    0 ≤ policy.audioSpeechRatioThreshold ∧ policy.audioSpeechRatioThreshold ≤ 1
  mediumScoreThresholdNonnegative : 0 ≤ policy.mediumScoreTerminationThreshold
  livenessThresholdInUnitInterval :
    0 ≤ policy.livenessScoreThreshold ∧ policy.livenessScoreThreshold ≤ 1
  livenessActionWhenEnabled :
    policy.livenessCheckEnabled = false ∨ policy.livenessCheckAction.isSome

theorem PolicySnapshot.admitted_ofRow (row : PolicyConfig) : (ofRow row).Admitted :=
  ⟨row.gazeWindowPositive, row.gazeTerminationPositive, row.gazeWarningBeforeTermination,
    row.gazeMinDurationWithinWindow, row.confirmationFramesPositive,
    row.identityThresholdInUnitInterval, row.audioRatioInUnitInterval,
    row.mediumScoreThresholdNonnegative, row.livenessThresholdInUnitInterval,
    row.livenessActionWhenEnabled⟩

/-- The decision names events, each once, in the order in which they were supplied; the keys of
    its rows are therefore distinct. -/
structure FlagDecision.SupportedBy (d : FlagDecision) (supplied : List UUID) : Prop where
  nonempty : d.contributingEventIds ≠ []
  nodup : d.contributingEventIds.Nodup
  inOrder : d.contributingEventIds.Sublist supplied
  primaryKey : ∀ flagId : UUID, (d.contributingEventIds.map fun id => (flagId, id)).Nodup

namespace SessionAggregator

/-- The event ids a method was given in a run. -/
def suppliedTo (m : Modality) (es : List InferenceEvent) : List UUID :=
  (es.filter (·.modality = m)).map (·.telemetryEventId)

/-- The methods that keep ids from one call to the next are each given an id once. Two of them may
    be given the same id, for they look at the same frame. -/
def DistinctIds (es : List InferenceEvent) : Prop :=
  ∀ m ∈ [Modality.facePresence, .liveness, .gaze, .identityMatch], (suppliedTo m es).Nodup

/-- Every decision of the run is supported by the events supplied up to its call. -/
def Supported (policy : PolicySnapshot) (ctx : SessionContext) (es : List InferenceEvent) :
    Prop :=
  ∀ pre e post, es = pre ++ e :: post →
    ∀ d ∈ ((Run.final (step policy ctx) new pre).process policy ctx e).1,
      d.SupportedBy ((pre ++ [e]).map (·.telemetryEventId))

section
variable {policy : PolicySnapshot} {ctx : SessionContext} {a b : SessionAggregator}
  {e : InferenceEvent} {es : List InferenceEvent} {m : Modality} {own : List UUID} {id : UUID}

theorem suppliedTo_append (h : e.modality = m) :
    suppliedTo m (es ++ [e]) = suppliedTo m es ++ [e.telemetryEventId] := by
  unfold suppliedTo
  rw [List.filter_append, List.filter_cons_of_pos (by simpa using h), List.filter_nil,
    List.map_append, List.map_singleton]

theorem suppliedTo_sublist : (suppliedTo m es).Sublist (es.map (·.telemetryEventId)) :=
  List.filter_sublist.map _

/-! ## 1. Where the ids come from

Each modality's results with the ids, in the order of the calls, are what was supplied to it. -/

/-- Whatever a modality's results are kept as, they carry the ids supplied to it. -/
theorem map_filterMap_modality {β : Type} {f : InferenceEvent → Option (β × UUID)}
    (hnone : ∀ e, e.modality ≠ m → f e = none)
    (hsome : ∀ e, e.modality = m → (f e).map (·.2) = some e.telemetryEventId) :
    (es.filterMap f).map (·.2) = suppliedTo m es := by
  rw [← filterMap_filter_modality hnone]
  unfold suppliedTo
  rw [List.map_filterMap, ← List.filterMap_eq_map]
  apply List.filterMap_congr
  intro e he
  exact hsome e (of_decide_eq_true (List.mem_filter.mp he).2)

theorem map_faceResults : (faceResults es).map (·.2) = suppliedTo .facePresence es := by
  refine map_filterMap_modality (fun _ h => InferenceEvent.faceResult?_eq_none h) ?_
  intro e hm
  cases e with
  | facePresence result id => rfl
  | _ => cases hm

theorem map_livenessResults : (livenessResults es).map (·.2) = suppliedTo .liveness es := by
  refine map_filterMap_modality (fun _ h => InferenceEvent.livenessResult?_eq_none h) ?_
  intro e hm
  cases e with
  | liveness result id => rfl
  | _ => cases hm

theorem map_identityResults : (identityResults es).map (·.2) = suppliedTo .identityMatch es := by
  refine map_filterMap_modality (fun _ h => InferenceEvent.identityResult?_eq_none h) ?_
  intro e hm
  cases e with
  | identityMatch result id => rfl
  | _ => cases hm

/-- The gaze rule's ids: those of the completed events and then those of the streak, in order; no
    event and no streak is without one. -/
structure GazeTraced (own : List UUID) (a : SessionAggregator) : Prop where
  ids : (a.gazeAwayEvents.flatMap (·.contributingEventIds) ++ a.gazeOffEventIds).Sublist own
  events : ∀ event ∈ a.gazeAwayEvents, event.contributingEventIds ≠ []
  streak : a.gazeOffStartMs.isSome = true → a.gazeOffEventIds ≠ []

theorem GazeTraced.congr (h : GazeTraced own a) (hpart : ownPart .gaze a = ownPart .gaze b) :
    GazeTraced own b := by
  simp only [ownPart, new, SessionAggregator.mk.injEq, and_true, true_and] at hpart
  obtain ⟨hstart, hids, hevents, -⟩ := hpart
  exact ⟨hids ▸ hevents ▸ h.ids, hevents ▸ h.events, hstart ▸ hids ▸ h.streak⟩

theorem GazeTraced.mergeGazeFrame (h : GazeTraced own a) (policy : PolicySnapshot)
    (result : HeadPoseGazeResult) (timestamp : Int) :
    GazeTraced (own ++ [id]) (a.mergeGazeFrame policy result id timestamp) := by
  have hmono : own.Sublist (own ++ [id]) := List.sublist_append_left own [id]
  unfold SessionAggregator.mergeGazeFrame
  split
  · exact ⟨h.ids.trans hmono, h.events, h.streak⟩
  -- off screen: the id joins the streak
  · refine ⟨?_, h.events, fun _ => List.append_ne_nil_of_right_ne_nil _ (List.cons_ne_nil id [])⟩
    show (_ ++ (a.gazeOffEventIds ++ [id])).Sublist _
    rw [← List.append_assoc]
    exact h.ids.append (List.Sublist.refl [id])
  · split
    · exact ⟨h.ids.trans hmono, h.events, h.streak⟩
    -- on screen after a streak: its ids become an event, or are dropped if it was short
    · rename_i start hstart
      have hstreak := h.streak (by rw [hstart]; rfl)
      refine ⟨?_, ?_, fun h => absurd h (by simp)⟩
      · show (_ ++ []).Sublist _
        rw [List.append_nil]
        refine List.Sublist.trans ?_ (h.ids.trans hmono)
        split
        · rw [List.flatMap_append, List.flatMap_singleton]
        · exact List.sublist_append_left _ _
      · intro event hevent
        split at hevent
        · rcases List.mem_append.mp hevent with hevent | hevent
          · exact h.events event hevent
          · rw [List.mem_singleton.mp hevent]
            exact hstreak
        · exact h.events event hevent

/-- Eviction takes events from the front. -/
theorem GazeTraced.evict (h : GazeTraced own a) (cutoff : Int) :
    GazeTraced own { a with
      gazeAwayEvents := Window.evict GazeAwayEvent.endedAtMs cutoff a.gazeAwayEvents } := by
  have hsuffix : Window.evict GazeAwayEvent.endedAtMs cutoff a.gazeAwayEvents <:+
      a.gazeAwayEvents := List.dropWhile_suffix _
  refine ⟨List.Sublist.trans ?_ h.ids, fun event hevent => h.events event (hsuffix.subset hevent),
    h.streak⟩
  exact (hsuffix.sublist.flatMap _).append (List.Sublist.refl _)

theorem GazeTraced.processGaze (h : GazeTraced own a) (policy : PolicySnapshot)
    (result : HeadPoseGazeResult) (timestamp : Int) :
    GazeTraced (own ++ [id]) (a.processGaze policy result id timestamp).2 := by
  have hmerged : GazeTraced (own ++ [id]) (a.mergeGazeFrame policy result id timestamp) :=
    h.mergeGazeFrame policy result timestamp
  have hcounted := hmerged.evict (timestamp - policy.gazeWindowSeconds * 1000)
  simp only [SessionAggregator.processGaze]
  repeat' split
  all_goals first
    | exact ⟨h.ids.trans (List.sublist_append_left own [id]), h.events, h.streak⟩
    | exact ⟨hcounted.ids, hcounted.events, hcounted.streak⟩

theorem gazeTraced_run : GazeTraced (suppliedTo .gaze es) (Run.final (step policy ctx) new es) := by
  refine ownPart_run (m := .gaze)
    (I := fun own a => GazeTraced (own.map (·.telemetryEventId)) a) ?_ ?_ ?_
  · intro own a b hpart h
    exact h.congr hpart
  · exact ⟨List.Sublist.refl [], fun _ h => absurd h List.not_mem_nil,
      fun h => absurd h (by simp [new])⟩
  · intro own a e hm h
    cases e with
    | gaze result id timestamp =>
      rw [List.map_append, List.map_singleton]
      exact h.processGaze policy result timestamp
    | _ => cases hm

/-! ## 2. The ids a rule names

A case for each rule. Where the rule keeps nothing, the ids are the one it was called with. -/

/-- The events a gaze call counts, with the frame taken in. -/
theorem gazeTraced_window {result : HeadPoseGazeResult} {timestamp : Int} (h : GazeTraced own a) :
    ((a.gazeWindowAfter policy result id timestamp).flatMap (·.contributingEventIds)).Sublist
        (own ++ [id]) ∧
      ∀ event ∈ a.gazeWindowAfter policy result id timestamp, event.contributingEventIds ≠ [] := by
  have hmerged : GazeTraced (own ++ [id]) (a.mergeGazeFrame policy result id timestamp) :=
    h.mergeGazeFrame policy result timestamp
  have hcounted := hmerged.evict (timestamp - policy.gazeWindowSeconds * 1000)
  exact ⟨(List.sublist_append_left _ _).trans hcounted.ids, hcounted.events⟩

theorem ruleIds_gaze {result : HeadPoseGazeResult} {timestamp : Int} :
    ruleIds policy a (.gaze result id timestamp) =
      if policy.gazeTerminationLimit ≤
          (a.gazeWindowAfter policy result id timestamp).length then
        (a.gazeWindowAfter policy result id timestamp).flatMap (·.contributingEventIds)
      else ((a.gazeWindowAfter policy result id timestamp).getLast?.map
        (·.contributingEventIds)).getD [] := rfl

theorem lastEvent_sublist {events : List GazeAwayEvent} :
    ((events.getLast?.map (·.contributingEventIds)).getD []).Sublist
      (events.flatMap (·.contributingEventIds)) := by
  cases hlast : events.getLast? with
  | none => exact List.nil_sublist _
  | some event =>
    have hmem : event.contributingEventIds ∈ events.map (·.contributingEventIds) :=
      List.mem_map_of_mem (List.mem_of_getLast? hlast)
    exact List.sublist_flatten_of_mem hmem

/-- There are ids to name where there are events to count. -/
theorem countedIds_ne_nil {events : List GazeAwayEvent} (hsome : 0 < events.length)
    (h : ∀ event ∈ events, event.contributingEventIds ≠ []) {c : Prop} [Decidable c] :
    (if c then events.flatMap (·.contributingEventIds)
      else (events.getLast?.map (·.contributingEventIds)).getD []) ≠ [] := by
  obtain ⟨event, hlast⟩ : ∃ event, events.getLast? = some event :=
    ⟨_, List.getLast?_eq_some_getLast (List.ne_nil_of_length_pos hsome)⟩
  have hids := h event (List.mem_of_getLast? hlast)
  split
  · intro hnil
    exact hids (List.flatMap_eq_nil_iff.mp hnil event (List.mem_of_getLast? hlast))
  · rw [hlast]
    exact hids

/-- The ids of the last results of a stream are among those of the stream, in order. -/
theorem window_sublist {α : Type} {k : Nat} {l : List (α × UUID)} {x : α} :
    (((l ++ [(x, id)]).rtake k).map (·.2)).Sublist (l.map (·.2) ++ [id]) := by
  have hsublist := (Streak.rtake_suffix (k := k) (l := l ++ [(x, id)])).sublist.map (·.2)
  rwa [List.map_append] at hsublist

/-- A rule that fires names ids its method was given, in order. -/
theorem ruleIds_sublist (hadmitted : policy.Admitted)
    (hfires : RuleFires policy ctx (Run.final (step policy ctx) new es) e) :
    (ruleIds policy (Run.final (step policy ctx) new es) e).Sublist
      (suppliedTo e.modality (es ++ [e])) := by
  rw [suppliedTo_append rfl]
  cases e with
  -- The tracked streak is the results since the last one without a second face.
  | facePresence result id =>
    have htracked : FaceTracked policy (faceResults es) (Run.final (step policy ctx) new es) :=
      faceTracked_run hadmitted.confirmationFramesPositive
    obtain ⟨-, hids⟩ := htracked.streak hfires.1 hfires.2.1
    rw [ruleIds, hids, InferenceEvent.modality, ← map_faceResults]
    exact (List.rtakeWhile_suffix _ _).sublist.map _ |>.append (List.Sublist.refl _)
  | liveness result id =>
    have htracked : LivenessTracked policy (livenessResults es)
        (Run.final (step policy ctx) new es) := livenessTracked_run
    rw [ruleIds, htracked.window hfires.1, slide_rtake, InferenceEvent.modality,
      ← map_livenessResults]
    exact window_sublist
  | gaze result id timestamp =>
    have htraced : GazeTraced (suppliedTo .gaze es) (Run.final (step policy ctx) new es) :=
      gazeTraced_run
    rw [ruleIds_gaze]
    split
    · exact (gazeTraced_window htraced).1
    · exact lastEvent_sublist.trans (gazeTraced_window htraced).1
  | identityMatch result id =>
    have htracked : IdentityTracked policy (identityResults es)
        (Run.final (step policy ctx) new es) := identityTracked_run
    rw [ruleIds, htracked.window hfires.1, slide_rtake, InferenceEvent.modality,
      ← map_identityResults]
    exact window_sublist
  | _ => exact List.sublist_append_right _ _

/-- A rule that fires names an event, unless it is a gaze warning about no look-away. -/
theorem ruleIds_ne_nil (hadmitted : policy.Admitted) (hwarning : 0 < policy.gazeWarningLimit ∨
      e.modality ≠ .gaze) (hfires : RuleFires policy ctx (Run.final (step policy ctx) new es) e) :
    ruleIds policy (Run.final (step policy ctx) new es) e ≠ [] := by
  cases e with
  | facePresence result id => exact List.append_ne_nil_of_right_ne_nil _ (List.cons_ne_nil id [])
  | liveness result id =>
    have hfull := hfires.2.2.1
    rw [ruleIds, Ne, List.map_eq_nil_iff]
    intro hnil
    rw [hnil, List.length_nil] at hfull
    exact absurd policy.livenessFramesPositive (Nat.not_lt.mpr hfull)
  | gaze result id timestamp =>
    have htraced : GazeTraced (suppliedTo .gaze es) (Run.final (step policy ctx) new es) :=
      gazeTraced_run
    have hpositive : 0 < policy.gazeWarningLimit := hwarning.resolve_right fun h => h rfl
    -- both limits are positive, so there is an event to name
    have hsome : 0 < ((Run.final (step policy ctx) new es).gazeWindowAfter policy result id
        timestamp).length :=
      hfires.2.elim (Nat.lt_of_lt_of_le hadmitted.gazeTerminationPositive)
        (Nat.lt_of_lt_of_le hpositive)
    rw [ruleIds_gaze]
    exact countedIds_ne_nil hsome (gazeTraced_window htraced).2
  | identityMatch result id =>
    have hfull := hfires.2.1
    rw [ruleIds, Ne, List.map_eq_nil_iff]
    intro hnil
    rw [hnil, List.length_nil] at hfull
    exact absurd policy.identityFramesPositive (Nat.not_lt.mpr hfull)
  | _ => exact List.cons_ne_nil _ []

/-! ## 3. The decisions of a run

A decision has the ids of the rule that fired in its call, Path 3's decision included. -/

/-- Decisions of a call, Path 3's included, name the ids of its rule. -/
theorem process_ids {d : FlagDecision} (h : d ∈ (a.process policy ctx e).1) :
    RuleFires policy ctx a e ∧ d.contributingEventIds = ruleIds policy a e := by
  have heffect := process_effect policy ctx a e
  generalize a.process policy ctx e = result at heffect h
  cases heffect with
  | silent _ _ => exact absurd h List.not_mem_nil
  | aside fires _ _ ids _ _ _ =>
    rw [List.mem_singleton.mp h]
    exact ⟨fires, ids⟩
  | medium fires _ _ ids _ _ _ =>
    refine ⟨fires, ?_⟩
    rcases List.mem_cons.mp h with rfl | h
    · exact ids
    · obtain ⟨-, -, rfl⟩ := checkAccumulatedThreshold_eq_some_iff.mp (Option.mem_toList.mp h)
      exact ids

theorem suppliedTo_nodup {pre post : List InferenceEvent} (hdistinct : DistinctIds es)
    (hsplit : es = pre ++ e :: post)
    (hm : e.modality ∈ [Modality.facePresence, .liveness, .gaze, .identityMatch]) :
    (suppliedTo e.modality (pre ++ [e])).Nodup := by
  have hle : pre ++ [e] <+: es := ⟨post, by simp [hsplit]⟩
  exact (hdistinct e.modality hm).sublist ((hle.sublist.filter _).map _)

/-- A firing rule's ids are distinct. -/
theorem ruleIds_nodup {pre post : List InferenceEvent} (hadmitted : policy.Admitted)
    (hdistinct : DistinctIds es) (hsplit : es = pre ++ e :: post)
    (hfires : RuleFires policy ctx (Run.final (step policy ctx) new pre) e) :
    (ruleIds policy (Run.final (step policy ctx) new pre) e).Nodup := by
  have hwindow : e.modality ∈ [Modality.facePresence, .liveness, .gaze, .identityMatch] →
      (ruleIds policy (Run.final (step policy ctx) new pre) e).Nodup := fun hm =>
    (suppliedTo_nodup hdistinct hsplit hm).sublist (ruleIds_sublist hadmitted hfires)
  cases e with
  | facePresence result id => exact hwindow (by simp [InferenceEvent.modality])
  | liveness result id => exact hwindow (by simp [InferenceEvent.modality])
  | gaze result id timestamp => exact hwindow (by simp [InferenceEvent.modality])
  | identityMatch result id => exact hwindow (by simp [InferenceEvent.modality])
  | _ => exact List.nodup_singleton _

/-- A firing rule raises a decision. -/
theorem exists_mem_process (h : RuleFires policy ctx a e) :
    ∃ d, d ∈ (a.process policy ctx e).1 := by
  have heffect := process_effect policy ctx a e
  generalize a.process policy ctx e = result at heffect
  cases heffect with
  | silent idle _ => exact absurd h idle
  | @aside d _ _ _ _ _ _ _ _ => exact ⟨d, List.mem_singleton_self d⟩
  | @medium d _ _ _ _ _ _ _ _ => exact ⟨d, List.mem_cons_self⟩

/-- A session without a gaze call has no look-away to count. -/
theorem gazeWindowAfter_first {result : HeadPoseGazeResult} {timestamp : Int}
    (hpart : ownPart .gaze a = ownPart .gaze new) :
    a.gazeTerminationFired = false ∧ a.gazeWindowAfter policy result id timestamp = [] := by
  simp only [ownPart, SessionAggregator.mk.injEq, and_true, true_and] at hpart
  obtain ⟨hstart, -, hevents, hfired⟩ := hpart
  refine ⟨hfired, ?_⟩
  have hmerged : (a.mergeGazeFrame policy result id timestamp).gazeAwayEvents = [] := by
    unfold mergeGazeFrame
    rw [hstart]
    cases result.offScreen with
    | none => exact hevents
    | some offScreen =>
      cases offScreen with
      | true => exact hevents
      | false => exact hevents
  rw [gazeWindowAfter, hmerged]
  rfl

/-- At a warning limit of zero the first gaze call of a session warns about no look-away. -/
theorem first_gaze_unsupported (hadmitted : policy.Admitted) (hzero : policy.gazeWarningLimit = 0)
    (hnone : ∀ x ∈ es, x.modality ≠ .gaze) (hm : e.modality = .gaze) :
    ∃ d ∈ ((Run.final (step policy ctx) new es).process policy ctx e).1,
      d.contributingEventIds = [] := by
  have hfilter : es.filter (·.modality = .gaze) = [] :=
    List.filter_eq_nil_iff.mpr fun x hx => by simpa using hnone x hx
  have hpart : ownPart .gaze (Run.final (step policy ctx) new es) = ownPart .gaze new := by
    have hrun : ownPart .gaze (Run.final (step policy ctx) new es) =
        ownPart .gaze (Run.final (step policy ctx) new (es.filter (·.modality = .gaze))) :=
      (answersOf_eq_filter rfl).2
    rwa [hfilter] at hrun
  cases e with
  | gaze result id timestamp =>
    obtain ⟨hfired, hwindow⟩ : _ ∧ (Run.final (step policy ctx) new es).gazeWindowAfter policy
        result id timestamp = [] := gazeWindowAfter_first hpart
    have hfires : RuleFires policy ctx (Run.final (step policy ctx) new es)
        (.gaze result id timestamp) := by
      refine ⟨hfired, .inr ?_⟩
      rw [hzero]
      exact Nat.zero_le _
    obtain ⟨d, hd⟩ := exists_mem_process hfires
    refine ⟨d, hd, ?_⟩
    rw [(process_ids hd).2, ruleIds_gaze, hwindow, if_neg]
    · rfl
    · exact Nat.not_le.mpr hadmitted.gazeTerminationPositive
  | _ => cases hm

end

/-- **Every decision is supported exactly if the warning limit is positive or no gaze result comes
    in.** With a limit of 0 the first gaze result warns about an empty window, and the decision
    names nothing. -/
theorem supported_iff (policy : PolicySnapshot) (ctx : SessionContext)
    (hadmitted : policy.Admitted) (es : List InferenceEvent) (hdistinct : DistinctIds es) :
    Supported policy ctx es ↔
      0 < policy.gazeWarningLimit ∨ ∀ e ∈ es, e.modality ≠ .gaze := by
  constructor
  · intro h
    by_contra hnot
    obtain ⟨hlimit, hgaze⟩ := not_or.mp hnot
    cases hfind : es.find? (·.modality = .gaze) with
    | none => exact hgaze fun e he => by simpa using List.find?_eq_none.mp hfind e he
    | some e =>
      -- the first gaze call
      obtain ⟨hm, pre, post, hsplit, hpre⟩ := List.find?_eq_some_iff_append.mp hfind
      obtain ⟨d, hd, hnil⟩ : ∃ d ∈ ((Run.final (step policy ctx) new pre).process policy ctx e).1,
          d.contributingEventIds = [] :=
        first_gaze_unsupported hadmitted (Nat.eq_zero_of_not_pos hlimit)
          (fun x hx => by simpa using hpre x hx) (of_decide_eq_true hm)
      exact (h pre e post hsplit d hd).nonempty hnil
  · intro hcondition pre e post hsplit d hd
    obtain ⟨hfires, hids⟩ := process_ids hd
    have hnodup := ruleIds_nodup hadmitted hdistinct hsplit hfires
    refine ⟨?_, ?_, ?_, ?_⟩
    · rw [hids]
      refine ruleIds_ne_nil hadmitted ?_ hfires
      exact hcondition.imp_right fun hnone => hnone e (by simp [hsplit])
    · rw [hids]
      exact hnodup
    · rw [hids]
      exact (ruleIds_sublist hadmitted hfires).trans suppliedTo_sublist
    · intro flagId
      rw [hids]
      exact hnodup.map fun id id' heq => congrArg Prod.snd heq

/-- A glance at the screen, under a policy that warns from the first look-away on. -/
theorem supported_iff_default :
    Supported defaultPolicy someContext
        [.gaze ⟨.certain, some false⟩ 1 0, strangerAt 1, strangerAt 2] ↔
      0 < defaultPolicy.gazeWarningLimit ∨
        ∀ e ∈ [.gaze ⟨.certain, some false⟩ 1 0, strangerAt 1, strangerAt 2],
          InferenceEvent.modality e ≠ .gaze := by
  refine supported_iff _ _ (PolicySnapshot.admitted_ofRow _) _ ?_
  intro m _
  cases m with
  | _ => decide

/-- The default policy, but with warnings from the start. -/
def warnAlwaysPolicy : PolicySnapshot :=
  .ofRow { PolicyConfig.default 0 with
    gazeWarningLimit := 0
    gazeWarningBeforeTermination := Nat.zero_le _ }

/-- At a warning limit of zero the first frame raises a decision that names no event. -/
theorem gazeWarning_unsupported :
    ¬ ∀ policy ctx, policy.Admitted → ∀ es, DistinctIds es → Supported policy ctx es := by
  intro h
  have hadmitted : warnAlwaysPolicy.Admitted := PolicySnapshot.admitted_ofRow _
  have hdistinct : DistinctIds [.gaze ⟨.certain, some false⟩ 1 0] := by
    intro m _
    cases m with
    | _ => decide
  obtain ⟨d, hd, hnil⟩ : ∃ d ∈ ((Run.final (step warnAlwaysPolicy someContext) new []).process
      warnAlwaysPolicy someContext (.gaze ⟨.certain, some false⟩ 1 0)).1,
        d.contributingEventIds = [] :=
    first_gaze_unsupported hadmitted rfl (fun _ hx => absurd hx List.not_mem_nil) rfl
  exact (h warnAlwaysPolicy someContext hadmitted _ hdistinct [] _ [] rfl d hd).nonempty hnil

end SessionAggregator
end ProctorEngine
