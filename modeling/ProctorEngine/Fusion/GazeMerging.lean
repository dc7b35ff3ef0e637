import ProctorEngine.Lib.Segments
import ProctorEngine.Fusion.GazeWarnings

/-!
# Stage 2: look-aways and events

A look-away is a run of off-screen frames that an on-screen frame closes; frames without landmarks
are not there. `process_gaze` measures it, and stamps its event, up to the *closing* frame, and the
tests of the engine measure it so too. **The events are the look-aways of at least the minimum
duration by that measure, one each and in order** (`merging_by_closing_frame`).

The docstring of `GazeAwayEvent` ends an event with its last *off-screen* frame. Events of that kind
would be these exactly on look-aways too short for both measures, and on those whose closing frame
comes at the time of the last off-screen one (`merging_iff`).

After the termination decision no look-away becomes an event, by either measure: the frames a rule
still looks at are `gazeSeen`.

The look-aways of a sequence are its closed segments, and what is known of segments in general is in
`Segments`. The state of the rule is an open segment, the streak (`Collects`); the induction is over
the frames with a streak in front of them, and a closing frame turns the streak into a look-away.

For the second theorem two lists of events are compared, one made by each measure from the same
look-aways. They could be equal although they differ look-away by look-away, if an event that one of
them has were made up for by a later one of the other. It is not, since the later one would have to
start before it does (`lookAways_later`).
-/

set_option autoImplicit false

namespace ProctorEngine

/-- The frame is on screen. -/
def GazeFrame.onScreen (f : GazeFrame) : Bool := f.result.offScreen == some false

/-- The runs of off-screen frames that an on-screen frame closes, with that frame. -/
def lookAways (frames : List GazeFrame) : List (List GazeFrame × GazeFrame) :=
  Segments.closed (·.onScreen) (frames.filter (·.hasLandmarks))

/-- The event from the first frame of a run to the time `ended`, if that is long enough. -/
def awayEvent (policy : PolicySnapshot) (run : List GazeFrame) (ended : Int) :
    Option GazeAwayEvent :=
  run.head?.bind fun first =>
    if (policy.gazeMinDurationMs : Int) ≤ ended - first.frameTimestampMs then
      some ⟨first.frameTimestampMs, ended, run.map (·.telemetryEventId)⟩
    else none

/-- The documented event of a look-away: it ends with its last off-screen frame. -/
def mergedEvent (policy : PolicySnapshot) (r : List GazeFrame × GazeFrame) :
    Option GazeAwayEvent :=
  r.1.getLast?.bind fun last => awayEvent policy r.1 last.frameTimestampMs

/-- What the closing frame makes of a look-away. -/
def closedEvent (policy : PolicySnapshot) (r : List GazeFrame × GazeFrame) :
    Option GazeAwayEvent :=
  awayEvent policy r.1 r.2.frameTimestampMs

namespace SessionAggregator

/-- The frames of a run up to the one that terminates, which are those the rule looks at. -/
def gazeSeen (policy : PolicySnapshot) : SessionAggregator → List GazeFrame → List GazeFrame
  | _, [] => []
  | a, f :: fs =>
    if a.gazeTerminationFired then [] else f :: gazeSeen policy (a.gazeStep policy f) fs

/-- The streak of the state is this run of off-screen frames. -/
structure Collects (a : SessionAggregator) (run : List GazeFrame) : Prop where
  start : a.gazeOffStartMs = run.head?.map (·.frameTimestampMs)
  ids : a.gazeOffEventIds = run.map (·.telemetryEventId)
  offScreen : ∀ f ∈ run, f.hasLandmarks = true ∧ f.onScreen = false

section
variable {policy : PolicySnapshot} {a : SessionAggregator} {f : GazeFrame}
  {run frames : List GazeFrame}

theorem collects_new : Collects new [] := ⟨rfl, rfl, by simp⟩

/-- The closing frame completes the event of the run in front of it. -/
theorem Collects.completedGaze (h : Collects a run) (hfired : a.gazeTerminationFired = false)
    (hon : f.onScreen = true) : a.completedGaze policy f = closedEvent policy (run, f) := by
  have hoff : f.result.offScreen = some false := by simpa [GazeFrame.onScreen] using hon
  unfold SessionAggregator.completedGaze closedEvent awayEvent
  rw [if_neg (by simp [hfired]), hoff, h.start, h.ids]
  cases run with
  | nil => rfl
  | cons first run => rfl

theorem completedGaze_of_not_onScreen (hon : f.onScreen = false) :
    a.completedGaze policy f = none := by
  unfold SessionAggregator.completedGaze
  split
  · rfl
  · cases hoff : f.result.offScreen with
    | none => rfl
    | some offScreen =>
      cases offScreen with
      | true => rfl
      | false => exact absurd hon (by simp [GazeFrame.onScreen, hoff])

/-- A frame without landmarks continues nothing and breaks nothing. -/
theorem Collects.noLandmarks (h : Collects a run) (hfired : a.gazeTerminationFired = false)
    (hnone : f.hasLandmarks = false) : Collects (a.gazeStep policy f) run := by
  obtain ⟨hstart, hids⟩ : (a.gazeStep policy f).gazeOffStartMs =
      (a.mergedGaze policy f).gazeOffStartMs ∧
      (a.gazeStep policy f).gazeOffEventIds = (a.mergedGaze policy f).gazeOffEventIds :=
    gazeStep_streak hfired
  rw [mergedGaze_of_noLandmarks hnone] at hstart hids
  exact ⟨hstart.trans h.start, hids.trans h.ids, h.offScreen⟩

theorem Collects.offScreen_frame (h : Collects a run) (hfired : a.gazeTerminationFired = false)
    (hlandmarks : f.hasLandmarks = true) (hon : f.onScreen = false) :
    Collects (a.gazeStep policy f) (run ++ [f]) := by
  have hoff : f.result.offScreen = some true := by
    cases hresult : f.result.offScreen with
    | none => exact absurd hlandmarks (by simp [GazeFrame.hasLandmarks, hresult])
    | some offScreen =>
      cases offScreen with
      | true => rfl
      | false => exact absurd hon (by simp [GazeFrame.onScreen, hresult])
  obtain ⟨hstart, hids⟩ : (a.gazeStep policy f).gazeOffStartMs =
      (a.mergedGaze policy f).gazeOffStartMs ∧
      (a.gazeStep policy f).gazeOffEventIds = (a.mergedGaze policy f).gazeOffEventIds :=
    gazeStep_streak hfired
  refine ⟨?_, ?_, ?_⟩
  -- the start is that of the first frame of the run
  · rw [hstart]
    simp only [mergedGaze, mergeGazeFrame, hoff, h.start]
    cases run with
    | nil => rfl
    | cons first run => rfl
  · rw [hids]
    simp [mergedGaze, mergeGazeFrame, hoff, h.ids]
  · intro g hg
    rcases List.mem_append.mp hg with hg | hg
    · exact h.offScreen g hg
    · rw [List.mem_singleton.mp hg]
      exact ⟨hlandmarks, hon⟩

/-- An on-screen frame ends the streak, whether or not it lasted. -/
theorem Collects.onScreen_frame (h : Collects a run) (hfired : a.gazeTerminationFired = false)
    (hon : f.onScreen = true) : Collects (a.gazeStep policy f) [] := by
  have hoff : f.result.offScreen = some false := by simpa [GazeFrame.onScreen] using hon
  obtain ⟨hstart, hids⟩ : (a.gazeStep policy f).gazeOffStartMs =
      (a.mergedGaze policy f).gazeOffStartMs ∧
      (a.gazeStep policy f).gazeOffEventIds = (a.mergedGaze policy f).gazeOffEventIds :=
    gazeStep_streak hfired
  have hmerged : (a.mergedGaze policy f).gazeOffStartMs = none ∧
      (a.mergedGaze policy f).gazeOffEventIds = [] := by
    cases run with
    | nil =>
      have hnone : a.gazeOffStartMs = none := h.start
      simp [mergedGaze, mergeGazeFrame, hoff, hnone, show a.gazeOffEventIds = [] from h.ids]
    | cons first run =>
      have hsome : a.gazeOffStartMs = some first.frameTimestampMs := h.start
      simp [mergedGaze, mergeGazeFrame, hoff, hsome]
  exact ⟨hstart.trans hmerged.1, hids.trans hmerged.2, by simp⟩

theorem gazeSeen_of_fired (hfired : a.gazeTerminationFired = true) :
    gazeSeen policy a frames = [] := by
  cases frames with
  | nil => rfl
  | cons f frames => simp [gazeSeen, hfired]

theorem completedGazes_of_fired (hfired : a.gazeTerminationFired = true) :
    completedGazes policy a frames = [] := by
  induction frames with
  | nil => rfl
  | cons f frames ih =>
    rw [completedGazes_cons, completedGaze_of_fired hfired, gazeStep_of_fired hfired]
    exact ih

/-- **The events of a run are what the closing frames make of the look-aways it sees.** -/
theorem Collects.completedGazes (h : Collects a run) :
    SessionAggregator.completedGazes policy a frames =
      (Segments.closed (·.onScreen)
        (run ++ (gazeSeen policy a frames).filter (·.hasLandmarks))).filterMap
          (closedEvent policy) := by
  have hopen : ∀ g ∈ run, g.onScreen = false := fun g hg => (h.offScreen g hg).2
  induction frames generalizing a run with
  | nil =>
    simp [gazeSeen, Segments.closed_of_open hopen, SessionAggregator.completedGazes]
  | cons f frames ih =>
    cases hfired : a.gazeTerminationFired with
    | true =>
      rw [completedGazes_of_fired hfired, gazeSeen_of_fired hfired]
      simp [Segments.closed_of_open hopen]
    | false =>
      have hseen : gazeSeen policy a (f :: frames) =
          f :: gazeSeen policy (a.gazeStep policy f) frames := by
        simp [gazeSeen, hfired]
      rw [completedGazes_cons, hseen]
      by_cases hlandmarks : f.hasLandmarks = true
      · rw [List.filter_cons_of_pos hlandmarks]
        -- a closing frame completes the streak, any other joins it
        by_cases hon : f.onScreen = true
        · rw [h.completedGaze hfired hon, ih (h.onScreen_frame hfired hon) (by simp),
            Segments.closed_append_cons hopen hon]
          split
          · rename_i hempty
            subst hempty
            rfl
          · rw [List.filterMap_cons]
            cases closedEvent policy (run, f) with
            | none => rfl
            | some event => rfl
        · have hon' : f.onScreen = false := by simpa using hon
          have hcollects : Collects (a.gazeStep policy f) (run ++ [f]) :=
            h.offScreen_frame hfired hlandmarks hon'
          rw [completedGaze_of_not_onScreen hon', Option.toList_none, List.nil_append,
            ih hcollects fun g hg => (hcollects.offScreen g hg).2, List.append_assoc]
          rfl
      · have hnone : f.hasLandmarks = false := by simpa using hlandmarks
        rw [List.filter_cons_of_neg (by simp [hnone]), completedGaze_of_noLandmarks hnone,
          Option.toList_none, List.nil_append]
        exact ih (h.noLandmarks hfired hnone) hopen

end

/-! ## The measure up to the closing frame -/

/-- The look-away lasts, up to the frame that closes it, at least the minimum duration. -/
def LastsLongEnough (policy : PolicySnapshot) (r : List GazeFrame × GazeFrame) : Prop :=
  ∃ first ∈ r.1.head?,
    (policy.gazeMinDurationMs : Int) ≤ r.2.frameTimestampMs - first.frameTimestampMs

instance {policy : PolicySnapshot} : DecidablePred (LastsLongEnough policy) := fun r =>
  decidable_of_iff (∃ first ∈ r.1.head?.toList,
    (policy.gazeMinDurationMs : Int) ≤ r.2.frameTimestampMs - first.frameTimestampMs)
    (by simp [LastsLongEnough])

theorem lastsLongEnough_cons {policy : PolicySnapshot} {first closing : GazeFrame}
    {run : List GazeFrame} : LastsLongEnough policy (first :: run, closing) ↔
      (policy.gazeMinDurationMs : Int) ≤ closing.frameTimestampMs - first.frameTimestampMs := by
  simp [LastsLongEnough]

/-- The start and the ids of a look-away's event are its own; a look-away too short has none. -/
theorem closedEvent_origin {policy : PolicySnapshot} (r : List GazeFrame × GazeFrame) :
    (closedEvent policy r).map (fun e => (some e.startedAtMs, e.contributingEventIds)) =
      if LastsLongEnough policy r then
        some (r.1.head?.map (·.frameTimestampMs), r.1.map (·.telemetryEventId))
      else none := by
  obtain ⟨run, closing⟩ := r
  cases run with
  | nil => simp [closedEvent, awayEvent, LastsLongEnough]
  | cons first run =>
    simp only [closedEvent, awayEvent, lastsLongEnough_cons, List.head?_cons, Option.bind_some,
      Option.map_some]
    split
    · rfl
    · rfl

/-- **The events created are the look-aways that last long enough**, one each and in order, with the
    start and the ids of the look-away. A look-away is a run of frames off screen that a frame on
    screen closes, it is as long as the time to that frame, and frames without landmarks belong to
    none. -/
theorem merging_by_closing_frame (policy : PolicySnapshot) (frames : List GazeFrame) :
    (completedGazes policy new frames).map
        (fun e => (some e.startedAtMs, e.contributingEventIds)) =
      ((lookAways (gazeSeen policy new frames)).filter (LastsLongEnough policy ·)).map
        (fun r => (r.1.head?.map (·.frameTimestampMs), r.1.map (·.telemetryEventId))) := by
  have hcompleted : completedGazes policy new frames =
      (lookAways (gazeSeen policy new frames)).filterMap (closedEvent policy) :=
    collects_new.completedGazes
  rw [hcompleted, List.map_filterMap, ← List.filterMap_eq_map, List.filterMap_filter]
  apply List.filterMap_congr
  intro r _
  rw [closedEvent_origin]
  split
  · rename_i hlong
    simp [hlong]
  · rename_i hshort
    simp [hshort]

/-! ## The measure up to the last off-screen frame -/

/-- The closing frame comes too soon for an event, or at the time of the last off-screen frame. -/
def Exact (policy : PolicySnapshot) (r : List GazeFrame × GazeFrame) : Prop :=
  ∀ first ∈ r.1.head?, ∀ last ∈ r.1.getLast?,
    r.2.frameTimestampMs - first.frameTimestampMs < policy.gazeMinDurationMs ∨
      r.2.frameTimestampMs = last.frameTimestampMs

/-- The off-screen frames are too short a time apart for an event. -/
def TooShort (policy : PolicySnapshot) (r : List GazeFrame × GazeFrame) : Prop :=
  ∀ first ∈ r.1.head?, ∀ last ∈ r.1.getLast?,
    last.frameTimestampMs - first.frameTimestampMs < policy.gazeMinDurationMs

instance {policy : PolicySnapshot} : DecidablePred (Exact policy) := fun r =>
  decidable_of_iff (∀ first ∈ r.1.head?.toList, ∀ last ∈ r.1.getLast?.toList,
    r.2.frameTimestampMs - first.frameTimestampMs < policy.gazeMinDurationMs ∨
      r.2.frameTimestampMs = last.frameTimestampMs) (by simp [Exact])

instance {policy : PolicySnapshot} : DecidablePred (TooShort policy) := fun r =>
  decidable_of_iff (∀ first ∈ r.1.head?.toList, ∀ last ∈ r.1.getLast?.toList,
    last.frameTimestampMs - first.frameTimestampMs < policy.gazeMinDurationMs) (by simp [TooShort])

section
variable {policy : PolicySnapshot} {r : List GazeFrame × GazeFrame}
  {frames : List GazeFrame}

/-- The times of a look-away, in the order the frames come. -/
theorem lookAway_times (hne : r.1 ≠ [])
    (hsorted : (r.1 ++ [r.2]).Pairwise fun f g => f.frameTimestampMs ≤ g.frameTimestampMs) :
    ∃ first last, r.1.head? = some first ∧ r.1.getLast? = some last ∧
      first.frameTimestampMs ≤ last.frameTimestampMs ∧
        last.frameTimestampMs ≤ r.2.frameTimestampMs := by
  obtain ⟨run, closing⟩ := r
  cases run with
  | nil => exact absurd rfl hne
  | cons first run =>
    refine ⟨first, (first :: run).getLast (by simp), rfl, List.getLast?_eq_some_getLast _, ?_, ?_⟩
    · obtain ⟨hrun, -, -⟩ := List.pairwise_append.mp hsorted
      rcases List.mem_cons.mp (List.getLast_mem (l := first :: run) (by simp)) with heq | hmem
      · rw [heq]
      · exact (List.pairwise_cons.mp hrun).1 _ hmem
    · obtain ⟨-, -, hclosing⟩ := List.pairwise_append.mp hsorted
      exact hclosing _ (List.getLast_mem _) closing (List.mem_singleton_self closing)

theorem closedEvent_eq_mergedEvent_iff (hne : r.1 ≠ [])
    (hsorted : (r.1 ++ [r.2]).Pairwise fun f g => f.frameTimestampMs ≤ g.frameTimestampMs) :
    closedEvent policy r = mergedEvent policy r ↔ Exact policy r := by
  obtain ⟨first, last, hfirst, hlast, hle, hle'⟩ := lookAway_times hne hsorted
  simp only [closedEvent, mergedEvent, awayEvent, Exact, hfirst, hlast, Option.bind_some,
    Option.mem_def, Option.some.injEq, forall_eq']
  constructor
  · intro heq
    by_contra hno
    rw [not_or, not_lt] at hno
    rw [if_pos hno.1] at heq
    split at heq
    · exact hno.2 (GazeAwayEvent.mk.inj (Option.some.inj heq)).2.1
    · exact absurd heq (by simp)
  · rintro (hshort | hsame)
    · rw [if_neg (by omega), if_neg (by omega)]
    · rw [hsame]

theorem mergedEvent_eq_none_iff (hne : r.1 ≠ []) :
    mergedEvent policy r = none ↔ TooShort policy r := by
  obtain ⟨run, closing⟩ := r
  cases run with
  | nil => exact absurd rfl hne
  | cons first run =>
    simp [mergedEvent, awayEvent, TooShort, List.getLast?_cons]

/-- The look-aways of a sorted sequence are sorted, inside and among each other. -/
theorem lookAways_sorted
    (hsorted : frames.Pairwise fun f g => f.frameTimestampMs ≤ g.frameTimestampMs) :
    (∀ r ∈ lookAways frames,
        (r.1 ++ [r.2]).Pairwise fun f g => f.frameTimestampMs ≤ g.frameTimestampMs) ∧
      (lookAways frames).Pairwise fun r r' => ∀ f ∈ r.1 ++ [r.2], ∀ g ∈ r'.1 ++ [r'.2],
        f.frameTimestampMs ≤ g.frameTimestampMs := by
  apply List.pairwise_flatMap.mp
  exact (hsorted.filter _).sublist Segments.closed_sublist

/-- No later look-away has the event of one that only its closing frame made long enough: it
    would have to start where that one was closed. -/
theorem lookAways_later
    (hsorted : frames.Pairwise fun f g => f.frameTimestampMs ≤ g.frameTimestampMs) :
    (lookAways frames).Pairwise fun r r' => ∀ e, closedEvent policy r = some e →
      mergedEvent policy r = none → mergedEvent policy r' ≠ some e := by
  obtain ⟨hinside, hamong⟩ := lookAways_sorted hsorted
  apply hamong.imp_of_mem
  intro r r' hr hr' hle e hclosed hmerged hmerged'
  have hne := Segments.run_ne_nil hr
  obtain ⟨first, last, hfirst, hlast, hfl, hlc⟩ := lookAway_times hne (hinside r hr)
  obtain ⟨first', last', hfirst', hlast', hfl', -⟩ :=
    lookAway_times (Segments.run_ne_nil hr') (hinside r' hr')
  have hshort : last.frameTimestampMs - first.frameTimestampMs < policy.gazeMinDurationMs :=
    (mergedEvent_eq_none_iff hne).mp hmerged first hfirst last hlast
  have hstep : r.2.frameTimestampMs ≤ first'.frameTimestampMs := by
    apply hle r.2 (by simp) first'
    exact List.mem_append_left _ (List.mem_of_mem_head? hfirst')
  simp only [closedEvent, awayEvent, hfirst, Option.bind_some] at hclosed
  simp only [mergedEvent, awayEvent, hfirst', hlast', Option.bind_some] at hmerged'
  -- a later look-away starts no earlier than this one is closed
  split at hclosed
  · split at hmerged'
    · have heq := (Option.some.inj hclosed).trans (Option.some.inj hmerged').symm
      obtain ⟨hstart, -, -⟩ := GazeAwayEvent.mk.inj heq
      omega
    · exact absurd hmerged' (by simp)
  · exact absurd hclosed (by simp)

theorem gazeSeen_prefix {a : SessionAggregator} : gazeSeen policy a frames <+: frames := by
  induction frames generalizing a with
  | nil => exact List.prefix_rfl
  | cons f frames ih =>
    unfold gazeSeen
    split
    · exact List.nil_prefix
    · exact List.cons_prefix_cons.mpr ⟨rfl, ih⟩

theorem lookAways_gazeSeen_prefix :
    lookAways (gazeSeen policy new frames) <+: lookAways frames := by
  obtain ⟨rest, hrest⟩ : gazeSeen policy new frames <+: frames := gazeSeen_prefix
  have hframes : lookAways frames = Segments.closed (·.onScreen)
      ((gazeSeen policy new frames).filter (·.hasLandmarks) ++ rest.filter (·.hasLandmarks)) := by
    rw [← List.filter_append, hrest]
    rfl
  rw [hframes]
  exact Segments.closed_prefix

/-- What is long enough up to its last off-screen frame is so up to its closing one. -/
theorem closedEvent_isSome (hne : r.1 ≠ [])
    (hsorted : (r.1 ++ [r.2]).Pairwise fun f g => f.frameTimestampMs ≤ g.frameTimestampMs)
    (h : (mergedEvent policy r).isSome) : (closedEvent policy r).isSome := by
  obtain ⟨first, last, hfirst, hlast, -, hle⟩ := lookAway_times hne hsorted
  simp only [mergedEvent, awayEvent, hfirst, hlast, Option.bind_some] at h
  simp only [closedEvent, awayEvent, hfirst, Option.bind_some]
  split at h
  · rw [if_pos (by omega)]
    rfl
  · exact absurd h (by simp)

end

/-- **The events are the documented ones exactly when every look-away the rule sees is `Exact`,
    and every later one too short.** -/
theorem merging_iff (policy : PolicySnapshot) (frames : List GazeFrame)
    (hsorted : frames.Pairwise fun f g => f.frameTimestampMs ≤ g.frameTimestampMs) :
    completedGazes policy new frames = (lookAways frames).filterMap (mergedEvent policy) ↔
      (∀ r ∈ lookAways (gazeSeen policy new frames), Exact policy r) ∧
        ∀ r ∈ (lookAways frames).drop (lookAways (gazeSeen policy new frames)).length,
          TooShort policy r := by
  -- The aggregator closes the runs it sees, which are the first of all runs.
  have hcompleted : completedGazes policy new frames =
      (lookAways (gazeSeen policy new frames)).filterMap (closedEvent policy) :=
    collects_new.completedGazes
  have hsplit : lookAways frames = lookAways (gazeSeen policy new frames) ++
      (lookAways frames).drop (lookAways (gazeSeen policy new frames)).length :=
    (List.prefix_iff_eq_append.mp lookAways_gazeSeen_prefix).symm
  obtain ⟨hinside, -⟩ := lookAways_sorted hsorted
  have hseen : ∀ r ∈ lookAways (gazeSeen policy new frames), r ∈ lookAways frames :=
    fun r hr => lookAways_gazeSeen_prefix.subset hr
  have hlater : (lookAways frames).Pairwise fun r r' => ∀ e, closedEvent policy r = some e →
      mergedEvent policy r = none → mergedEvent policy r' ≠ some e := lookAways_later hsorted
  rw [hsplit] at hlater
  have hevents : (lookAways frames).filterMap (mergedEvent policy) =
      (lookAways (gazeSeen policy new frames) ++
        (lookAways frames).drop (lookAways (gazeSeen policy new frames)).length).filterMap
          (mergedEvent policy) := congrArg _ hsplit
  -- A merged event is never longer than the closed one, so none is missed where one is due.
  have hisSome : ∀ r ∈ lookAways (gazeSeen policy new frames),
      (mergedEvent policy r).isSome → (closedEvent policy r).isSome :=
    fun r hr => closedEvent_isSome (Segments.run_ne_nil hr) (hinside r (hseen r hr))
  rw [hcompleted, hevents]
  refine (Segments.filterMap_eq_filterMap_append_iff hisSome hlater).trans ?_
  apply and_congr
  · apply forall₂_congr
    intro r hr
    exact closedEvent_eq_mergedEvent_iff (Segments.run_ne_nil hr) (hinside r (hseen r hr))
  · apply forall₂_congr
    intro r hr
    exact mergedEvent_eq_none_iff (Segments.run_ne_nil (List.mem_of_mem_drop hr))

/-- A look-away whose closing frame comes with its last off-screen frame, and one too short. -/
theorem merging_exact :
    completedGazes (PolicySnapshot.ofRow (PolicyConfig.default 0)) new
        [glance 1 (some true) 0, glance 2 (some true) 1000, glance 3 (some false) 1000,
          glance 4 (some true) 2000, glance 5 (some false) 2500] =
      [⟨0, 1000, [1, 2]⟩] :=
  ((merging_iff (PolicySnapshot.ofRow (PolicyConfig.default 0))
    [glance 1 (some true) 0, glance 2 (some true) 1000, glance 3 (some false) 1000,
      glance 4 (some true) 2000, glance 5 (some false) 2500] (by decide)).mpr
    ⟨by decide +kernel, by decide +kernel⟩).trans (by decide +kernel)

/-- At one frame a second, a single off-screen frame becomes an event of a second. -/
theorem single_frame_merged :
    ¬ ∀ policy frames, frames.Pairwise (fun f g => f.frameTimestampMs ≤ g.frameTimestampMs) →
      completedGazes policy new frames = (lookAways frames).filterMap (mergedEvent policy) := by
  intro h
  have hevents := h (PolicySnapshot.ofRow (PolicyConfig.default 0))
    [glance 1 (some true) 0, glance 2 (some false) 1000] (by decide)
  exact absurd hevents (by decide +kernel)

end SessionAggregator

end ProctorEngine
