import ProctorEngine.Lib.Run
import ProctorEngine.Fusion.Aggregator

/-!
# One call of the gaze rule

`process_gaze` in three steps: the frame continues or closes a streak, and may complete a
`GazeAwayEvent`; the window is evicted up to the frame's time; the events left are counted
against the two limits. **The count is taken on every frame, whether or not it completed an
event**, and after the termination decision no frame does anything.

`completedGaze`, `gazeCounted`, `Warns` and `Terminates` name the outcomes of the three steps
over the state a call finds; the lemmas say that they are all a call does.
-/

set_option autoImplicit false

namespace ProctorEngine

/-- What `process_gaze` is called with. -/
structure GazeFrame where
  result : HeadPoseGazeResult
  telemetryEventId : UUID
  frameTimestampMs : Int
deriving DecidableEq

def GazeFrame.hasLandmarks (f : GazeFrame) : Bool := f.result.offScreen.isSome

/-- A gaze decision of the warning step. -/
def FlagDecision.IsGazeWarning (d : FlagDecision) : Prop :=
  d.ruleCode = "gaze_away_frequency" ∧ d.severity = "medium"

instance : DecidablePred FlagDecision.IsGazeWarning := fun d =>
  inferInstanceAs (Decidable (d.ruleCode = "gaze_away_frequency" ∧ d.severity = "medium"))

namespace SessionAggregator

variable (policy : PolicySnapshot)

/-- `process_gaze` on a frame. -/
def gaze (a : SessionAggregator) (f : GazeFrame) : List FlagDecision × SessionAggregator :=
  a.processGaze policy f.result f.telemetryEventId f.frameTimestampMs

/-- The state after a frame. -/
def gazeStep (a : SessionAggregator) (f : GazeFrame) : SessionAggregator := (a.gaze policy f).2

/-- The state once the frame has continued or closed the streak. -/
def mergedGaze (a : SessionAggregator) (f : GazeFrame) : SessionAggregator :=
  a.mergeGazeFrame policy f.result f.telemetryEventId f.frameTimestampMs

/-- Where the window of a call starts. -/
def gazeWindowStart (f : GazeFrame) : Int := f.frameTimestampMs - policy.gazeWindowSeconds * 1000

/-- The event the frame completes: an on-screen frame closes the streak, and the time since the
    streak began is long enough. -/
def completedGaze (a : SessionAggregator) (f : GazeFrame) : Option GazeAwayEvent :=
  if a.gazeTerminationFired then none
  else match f.result.offScreen, a.gazeOffStartMs with
    | some false, some start =>
      if (policy.gazeMinDurationMs : Int) ≤ f.frameTimestampMs - start then
        some ⟨start, f.frameTimestampMs, a.gazeOffEventIds⟩
      else none
    | _, _ => none

/-- The events a call counts. -/
def gazeCounted (a : SessionAggregator) (f : GazeFrame) : List GazeAwayEvent :=
  Window.evict GazeAwayEvent.endedAtMs (gazeWindowStart policy f)
    (a.gazeAwayEvents ++ (a.completedGaze policy f).toList)

def Terminates (a : SessionAggregator) (f : GazeFrame) : Prop :=
  a.gazeTerminationFired = false ∧ policy.gazeTerminationLimit ≤ (a.gazeCounted policy f).length

def Warns (a : SessionAggregator) (f : GazeFrame) : Prop :=
  a.gazeTerminationFired = false ∧
    (a.gazeCounted policy f).length < policy.gazeTerminationLimit ∧
    policy.gazeWarningLimit ≤ (a.gazeCounted policy f).length

instance {a : SessionAggregator} : DecidablePred (a.Terminates policy) := fun f =>
  inferInstanceAs (Decidable (a.gazeTerminationFired = false ∧
    policy.gazeTerminationLimit ≤ (a.gazeCounted policy f).length))

instance {a : SessionAggregator} : DecidablePred (a.Warns policy) := fun f =>
  inferInstanceAs (Decidable (a.gazeTerminationFired = false ∧
    (a.gazeCounted policy f).length < policy.gazeTerminationLimit ∧
    policy.gazeWarningLimit ≤ (a.gazeCounted policy f).length))

section
variable {policy} {a : SessionAggregator} {f : GazeFrame}

/-- On the deque alone the streak half of a call depends not at all. -/
theorem mergedGaze_with (hfired : a.gazeTerminationFired = false) (events : List GazeAwayEvent) :
    ({ a with gazeAwayEvents := events }).mergedGaze policy f =
      { a.mergedGaze policy f with
        gazeAwayEvents := events ++ (a.completedGaze policy f).toList } := by
  unfold mergedGaze mergeGazeFrame completedGaze
  rw [if_neg (by simp [hfired])]
  cases f.result.offScreen with
  | none => simp
  | some offScreen =>
    cases offScreen with
    | true => simp
    | false =>
      cases hstart : a.gazeOffStartMs with
      | none => simp [hstart]
      | some start =>
        dsimp only
        split
        · simp
        · simp

theorem mergedGaze_gazeAwayEvents (hfired : a.gazeTerminationFired = false) :
    (a.mergedGaze policy f).gazeAwayEvents =
      a.gazeAwayEvents ++ (a.completedGaze policy f).toList :=
  congrArg gazeAwayEvents (mergedGaze_with hfired a.gazeAwayEvents)

/-- The streak half of a call leaves everything else alone. -/
theorem mergedGaze_frame :
    ∃ start ids events, a.mergedGaze policy f =
      { a with gazeOffStartMs := start, gazeOffEventIds := ids, gazeAwayEvents := events } := by
  unfold mergedGaze mergeGazeFrame
  cases f.result.offScreen with
  | none => exact ⟨_, _, _, rfl⟩
  | some offScreen =>
    cases offScreen with
    | true => exact ⟨_, _, _, rfl⟩
    | false =>
      cases a.gazeOffStartMs with
      | none => exact ⟨_, _, _, rfl⟩
      | some start => exact ⟨_, _, _, rfl⟩

@[simp] theorem mergedGaze_accumulatedScore :
    (a.mergedGaze policy f).accumulatedScore = a.accumulatedScore := by
  obtain ⟨start, ids, events, h⟩ : ∃ start ids events, a.mergedGaze policy f =
      { a with gazeOffStartMs := start, gazeOffEventIds := ids, gazeAwayEvents := events } :=
    mergedGaze_frame
  rw [h]

theorem mergedGaze_of_noLandmarks (h : f.hasLandmarks = false) : a.mergedGaze policy f = a := by
  have hnone : f.result.offScreen = none := by simpa [GazeFrame.hasLandmarks] using h
  simp [mergedGaze, mergeGazeFrame, hnone]

theorem completedGaze_of_noLandmarks (h : f.hasLandmarks = false) :
    a.completedGaze policy f = none := by
  have hnone : f.result.offScreen = none := by simpa [GazeFrame.hasLandmarks] using h
  simp [completedGaze, hnone]

/-- A completed event ended at the frame that completed it. -/
theorem endedAtMs_of_completedGaze {e : GazeAwayEvent} (h : a.completedGaze policy f = some e) :
    e.endedAtMs = f.frameTimestampMs := by
  unfold completedGaze at h
  split at h
  · exact absurd h (by simp)
  · split at h
    · split at h
      · exact (Option.some.inj h) ▸ rfl
      · exact absurd h (by simp)
    · exact absurd h (by simp)

/-! ## 1. What a call does

A call in terms of the state it finds, with the merging, the window and the two comparisons under
names. -/

/-- Everything a call can do. -/
inductive GazeEffect (policy : PolicySnapshot) (a : SessionAggregator) (f : GazeFrame) :
    List FlagDecision × SessionAggregator → Prop
  /-- Terminated before: nothing happens. -/
  | ended (fired : a.gazeTerminationFired = true) : GazeEffect policy a f ([], a)
  | terminated {d : FlagDecision} (terminates : a.Terminates policy f)
      (critical : d.severity = "critical") :
      GazeEffect policy a f ([d],
        { a.mergedGaze policy f with
          gazeAwayEvents := a.gazeCounted policy f, gazeTerminationFired := true })
  /-- A warning, its weight, and the decision of Path 3 if the weight reaches the threshold. -/
  | warned {d : FlagDecision} {path3 : List FlagDecision} (warns : a.Warns policy f)
      (warning : d.IsGazeWarning) (critical : ∀ p ∈ path3, p.severity = "critical") :
      GazeEffect policy a f (d :: path3,
        { a.mergedGaze policy f with
          gazeAwayEvents := a.gazeCounted policy f
          accumulatedScore := (a.mergedGaze policy f).accumulatedScore +
            policy.weightFor "gaze_away_frequency" })
  | counted (going : a.gazeTerminationFired = false)
      (below : (a.gazeCounted policy f).length < policy.gazeTerminationLimit ∧
        (a.gazeCounted policy f).length < policy.gazeWarningLimit) :
      GazeEffect policy a f ([],
        { a.mergedGaze policy f with gazeAwayEvents := a.gazeCounted policy f })

theorem gaze_of_fired (hfired : a.gazeTerminationFired = true) : a.gaze policy f = ([], a) := by
  simp [gaze, processGaze, hfired]

theorem gaze_effect : GazeEffect policy a f (a.gaze policy f) := by
  cases hfired : a.gazeTerminationFired with
  | true =>
    rw [gaze_of_fired hfired]
    exact .ended hfired
  | false =>
    -- The look away this frame completes is counted with those of the window.
    have hevents : (a.mergedGaze policy f).gazeAwayEvents =
        a.gazeAwayEvents ++ (a.completedGaze policy f).toList := mergedGaze_gazeAwayEvents hfired
    have hmerged : a.mergeGazeFrame policy f.result f.telemetryEventId f.frameTimestampMs =
        a.mergedGaze policy f := rfl
    unfold gaze processGaze
    rw [if_neg (by simp [hfired])]
    simp only [hmerged, hevents]
    change GazeEffect policy a f (if policy.gazeTerminationLimit ≤ (a.gazeCounted policy f).length
      then _ else _)
    split
    · rename_i hlimit
      exact .terminated ⟨hfired, hlimit⟩ rfl
    · rename_i hlimit
      change GazeEffect policy a f (if policy.gazeWarningLimit ≤ (a.gazeCounted policy f).length
        then _ else _)
      split
      · rename_i hwarning
        refine .warned ⟨hfired, Nat.lt_of_not_le hlimit, hwarning⟩ ⟨rfl, rfl⟩ ?_
        intro p hp
        obtain ⟨-, -, rfl⟩ := checkAccumulatedThreshold_eq_some_iff.mp (Option.mem_toList.mp hp)
        rfl
      · rename_i hwarning
        exact .counted hfired ⟨Nat.lt_of_not_le hlimit, Nat.lt_of_not_le hwarning⟩

/-- Of the deque a call uses only the events it counts. -/
theorem gaze_with (hfired : a.gazeTerminationFired = false) {events : List GazeAwayEvent}
    (hcounted : Window.evict GazeAwayEvent.endedAtMs (gazeWindowStart policy f)
      (events ++ (a.completedGaze policy f).toList) = a.gazeCounted policy f) :
    ({ a with gazeAwayEvents := events }).gaze policy f = a.gaze policy f := by
  have hevents : (a.mergedGaze policy f).gazeAwayEvents =
      a.gazeAwayEvents ++ (a.completedGaze policy f).toList := mergedGaze_gazeAwayEvents hfired
  have hleft : ({ a with gazeAwayEvents := events }).mergeGazeFrame policy f.result
      f.telemetryEventId f.frameTimestampMs = { a.mergedGaze policy f with
        gazeAwayEvents := events ++ (a.completedGaze policy f).toList } :=
    mergedGaze_with hfired events
  have hright : a.mergeGazeFrame policy f.result f.telemetryEventId f.frameTimestampMs =
      a.mergedGaze policy f := rfl
  unfold gazeCounted gazeWindowStart at hcounted
  unfold gaze processGaze
  rw [if_neg (by simp [hfired]), if_neg (show ¬ a.gazeTerminationFired = true by simp [hfired])]
  simp only [hleft, hright, hevents, hcounted]

/-! ## 2. Decisions, score and window of a call

What later modules ask of a call: its decisions, what it adds to the score, and the window it
leaves. -/

theorem not_terminates_of_warns (h : a.Warns policy f) : ¬ a.Terminates policy f :=
  fun h' => absurd h'.2 (Nat.not_le.mpr h.2.1)

/-- A call raises one warning or none. -/
theorem filter_isGazeWarning :
    ((a.gaze policy f).1.filter (·.IsGazeWarning)).length = if a.Warns policy f then 1 else 0 := by
  have heffect : GazeEffect policy a f (a.gaze policy f) := gaze_effect
  generalize a.gaze policy f = result at heffect
  cases heffect with
  | ended fired => simp [Warns, fired]
  | terminated terminates critical =>
    rw [if_neg fun h => not_terminates_of_warns h terminates]
    simp [FlagDecision.IsGazeWarning, critical]
  | warned warns warning critical =>
    rename_i d path3
    have hpath3 : path3.filter (·.IsGazeWarning) = [] := by
      apply List.filter_eq_nil_iff.mpr
      intro p hp
      simp [FlagDecision.IsGazeWarning, critical p hp]
    rw [if_pos warns, List.filter_cons_of_pos (by simpa using warning), hpath3]
    rfl
  | counted going below =>
    rw [if_neg fun h => absurd h.2.2 (Nat.not_le.mpr below.2)]
    rfl

theorem exists_isGazeWarning_iff :
    (∃ d ∈ (a.gaze policy f).1, d.IsGazeWarning) ↔ a.Warns policy f := by
  have hlength : ((a.gaze policy f).1.filter (·.IsGazeWarning)).length =
      if a.Warns policy f then 1 else 0 := filter_isGazeWarning
  constructor
  · rintro ⟨d, hd, hwarning⟩
    by_contra hno
    rw [if_neg hno, List.length_eq_zero_iff, List.filter_eq_nil_iff] at hlength
    exact hlength d hd (by simpa using hwarning)
  · intro hwarns
    rw [if_pos hwarns] at hlength
    obtain ⟨d, hd⟩ := List.exists_mem_of_length_eq_add_one hlength
    exact ⟨d, List.mem_of_mem_filter hd, by simpa using List.of_mem_filter hd⟩

theorem gaze_eq_nil_iff :
    (a.gaze policy f).1 = [] ↔ ¬ a.Warns policy f ∧ ¬ a.Terminates policy f := by
  have heffect : GazeEffect policy a f (a.gaze policy f) := gaze_effect
  generalize a.gaze policy f = result at heffect
  cases heffect with
  | ended fired => simp [Warns, Terminates, fired]
  | terminated terminates critical => simp [terminates]
  | warned warns warning critical => simp [warns]
  | counted going below =>
    exact iff_of_true rfl ⟨fun h => absurd h.2.2 (Nat.not_le.mpr below.2),
      fun h => absurd h.2 (Nat.not_le.mpr below.1)⟩

theorem gazeStep_accumulatedScore :
    (a.gazeStep policy f).accumulatedScore = a.accumulatedScore +
      if a.Warns policy f then policy.weightFor "gaze_away_frequency" else 0 := by
  have heffect : GazeEffect policy a f (a.gaze policy f) := gaze_effect
  unfold gazeStep
  generalize a.gaze policy f = result at heffect
  cases heffect with
  | ended fired => simp [Warns, fired]
  | terminated terminates critical =>
    rw [if_neg fun h => not_terminates_of_warns h terminates, add_zero]
    exact mergedGaze_accumulatedScore
  | warned warns warning critical =>
    rw [if_pos warns]
    exact congrArg (· + _) mergedGaze_accumulatedScore
  | counted going below =>
    rw [if_neg fun h => absurd h.2.2 (Nat.not_le.mpr below.2), add_zero]
    exact mergedGaze_accumulatedScore

theorem gazeStep_of_fired (hfired : a.gazeTerminationFired = true) : a.gazeStep policy f = a :=
  congrArg (·.2) (gaze_of_fired hfired)

theorem completedGaze_of_fired (hfired : a.gazeTerminationFired = true) :
    a.completedGaze policy f = none := if_pos hfired

/-- The streak a call leaves is the one its first half made. -/
theorem gazeStep_streak (hfired : a.gazeTerminationFired = false) :
    (a.gazeStep policy f).gazeOffStartMs = (a.mergedGaze policy f).gazeOffStartMs ∧
      (a.gazeStep policy f).gazeOffEventIds = (a.mergedGaze policy f).gazeOffEventIds := by
  have heffect : GazeEffect policy a f (a.gaze policy f) := gaze_effect
  unfold gazeStep
  generalize a.gaze policy f = result at heffect
  cases heffect with
  | ended fired => exact absurd (hfired.symm.trans fired) (by decide)
  | terminated terminates critical => exact ⟨rfl, rfl⟩
  | warned warns warning critical => exact ⟨rfl, rfl⟩
  | counted going below => exact ⟨rfl, rfl⟩

theorem gazeStep_gazeAwayEvents :
    (a.gazeStep policy f).gazeAwayEvents =
      if a.gazeTerminationFired then a.gazeAwayEvents else a.gazeCounted policy f := by
  have heffect : GazeEffect policy a f (a.gaze policy f) := gaze_effect
  unfold gazeStep
  generalize a.gaze policy f = result at heffect
  cases heffect with
  | ended fired => simp [fired]
  | terminated terminates critical => simp [terminates.1]
  | warned warns warning critical => simp [warns.1]
  | counted going below => simp [going]

end

end SessionAggregator

end ProctorEngine
