import Mathlib.Tactic.Ring
import ProctorEngine.Fusion.Gaze

/-!
# How many warnings a look-away costs

The warning step asks how many events are in the window, not whether this frame completed one: as
long as enough of them are, **every frame warns and adds its weight** (`oneWarningPerLookAway_iff`).
That includes frames without landmarks, which otherwise go through the rule unnoticed: eviction by
such a frame is eviction the next frame would have done (`noLandmarksInvisible_iff`).

A call has three things to do: it takes the frame into the streak, it evicts from the window what is
too old, and it looks at how many events are left. The first is done by frames with landmarks only,
the other two by every frame. Hence the two conditions, which are on the window that a frame finds:
after eviction there are too few events for a decision, or the rule has ended.

For the second theorem two runs are compared that differ in frames without landmarks. One of them
has evicted more at any time, to a cutoff that the next common frame would evict to anyway
(`Ahead`); the common frames are answered alike and bring the two windows together again.
-/

set_option autoImplicit false

namespace ProctorEngine
namespace SessionAggregator

variable (policy : PolicySnapshot) (a : SessionAggregator) (frames : List GazeFrame)

/-! ## 1. Runs of the gaze rule

The events, the warnings and the score of a run as functions of its trace. -/

/-- The events the frames complete, in order. -/
def completedGazes : List GazeAwayEvent :=
  (Run.trace (gazeStep policy) a frames).filterMap fun x => x.1.completedGaze policy x.2

/-- The warnings of a run, in order. -/
def gazeWarnings : List FlagDecision :=
  (Run.trace (gazeStep policy) a frames).flatMap fun x =>
    (x.1.gaze policy x.2).1.filter (·.IsGazeWarning)

/-- The events a frame that completes none finds in its window. -/
def remainingGazes (f : GazeFrame) : List GazeAwayEvent :=
  Window.evict GazeAwayEvent.endedAtMs (gazeWindowStart policy f) a.gazeAwayEvents

section
variable {policy a frames} {f : GazeFrame}

theorem completedGazes_cons :
    completedGazes policy a (f :: frames) =
      (a.completedGaze policy f).toList ++ completedGazes policy (a.gazeStep policy f) frames := by
  unfold completedGazes
  rw [Run.trace_cons, List.filterMap_cons]
  cases a.completedGaze policy f with
  | none => rfl
  | some event => rfl

theorem gazeCounted_of_none (h : a.completedGaze policy f = none) :
    a.gazeCounted policy f = a.remainingGazes policy f := by
  simp [gazeCounted, remainingGazes, h]

/-- A run that warns only where an event is completed has no more warnings than events. -/
theorem gazeWarnings_length_le
    (h : Run.EachStep (gazeStep policy)
      (fun a f => a.Warns policy f → (a.completedGaze policy f).isSome) a frames) :
    (gazeWarnings policy a frames).length ≤ (completedGazes policy a frames).length := by
  unfold gazeWarnings completedGazes
  induction frames generalizing a with
  | nil => exact Nat.le_refl 0
  | cons f frames ih =>
    obtain ⟨hf, hrest⟩ := h
    have hrest' := ih hrest
    rw [Run.trace_cons, List.flatMap_cons, List.length_append, filter_isGazeWarning,
      List.filterMap_cons]
    by_cases hwarns : a.Warns policy f
    · obtain ⟨event, hevent⟩ := Option.isSome_iff_exists.mp (hf hwarns)
      rw [if_pos hwarns, hevent, List.length_cons]
      omega
    · rw [if_neg hwarns]
      split
      · omega
      · rw [List.length_cons]
        omega

/-- What a run adds to the score is its warnings times one weight. -/
theorem run_accumulatedScore :
    (Run.final (gazeStep policy) a frames).accumulatedScore = a.accumulatedScore +
      (gazeWarnings policy a frames).length * policy.weightFor "gaze_away_frequency" := by
  unfold gazeWarnings
  induction frames generalizing a with
  | nil => simp
  | cons f frames ih =>
    rw [Run.final_cons, ih, gazeStep_accumulatedScore, Run.trace_cons, List.flatMap_cons,
      List.length_append, filter_isGazeWarning]
    split
    · push_cast
      ring
    · push_cast
      ring

end

/-! ## 2. One warning for one event

A frame warns without completing an event exactly where `Settled` fails, so this is the first
clause, and the count and the score follow from it. -/

/-- Warnings come with the events that are completed, and so are no more than these. -/
structure OneWarningPerLookAway : Prop where
  completing : Run.EachStep (gazeStep policy)
    (fun a f => (∃ d ∈ (a.gaze policy f).1, d.IsGazeWarning) → (a.completedGaze policy f).isSome)
    a frames
  count : (gazeWarnings policy a frames).length ≤ (completedGazes policy a frames).length
  score : 0 ≤ policy.weightFor "gaze_away_frequency" →
    (Run.final (gazeStep policy) a frames).accumulatedScore - a.accumulatedScore ≤
      (completedGazes policy a frames).length * policy.weightFor "gaze_away_frequency"

/-- A frame that completes no event finds too few events left for a warning, or enough for
    termination, or the rule ended. -/
def Settled (f : GazeFrame) : Prop :=
  a.completedGaze policy f = none →
    a.gazeTerminationFired = true ∨
      (a.remainingGazes policy f).length < policy.gazeWarningLimit ∨
      policy.gazeTerminationLimit ≤ (a.remainingGazes policy f).length

section
variable {policy a} {f : GazeFrame}

theorem settled_iff :
    a.Settled policy f ↔ (a.Warns policy f → (a.completedGaze policy f).isSome) := by
  unfold Settled Warns
  cases hcompleted : a.completedGaze policy f with
  | some event => simp
  | none =>
    rw [gazeCounted_of_none hcompleted]
    cases a.gazeTerminationFired with
    | true => simp
    | false =>
      simp only [Bool.false_eq_true, false_or, true_imp_iff, true_and, Option.isSome_none,
        imp_false, not_and, Nat.not_le]
      constructor
      · rintro (h | h) hlt
        · exact h
        · omega
      · intro h
        by_cases hlt : (a.remainingGazes policy f).length < policy.gazeTerminationLimit
        · exact .inl (h hlt)
        · exact .inr (by omega)

end

/-- **A run warns once for one event exactly when no frame that completes none finds the window
    between the limits.** The number of events is compared on every frame, and a frame that
    completes none finds the same number again. -/
theorem oneWarningPerLookAway_iff :
    OneWarningPerLookAway policy a frames ↔
      Run.EachStep (gazeStep policy) (fun a f => a.Settled policy f) a frames := by
  have hsettled : Run.EachStep (gazeStep policy) (fun a f => a.Settled policy f) a frames ↔
      Run.EachStep (gazeStep policy)
        (fun a f => a.Warns policy f → (a.completedGaze policy f).isSome) a frames := by
    simp only [settled_iff]
  rw [hsettled]
  constructor
  · intro h
    apply h.completing.mono
    intro a f hcompleting hwarns
    exact hcompleting (exists_isGazeWarning_iff.mpr hwarns)
  · intro h
    have hcount := gazeWarnings_length_le h
    refine ⟨?_, hcount, ?_⟩
    · apply h.mono
      intro a f hwarns hwarning
      exact hwarns (exists_isGazeWarning_iff.mp hwarning)
    · intro hweight
      rw [run_accumulatedScore, add_sub_cancel_left]
      exact mul_le_mul_of_nonneg_right (by exact_mod_cast hcount) hweight

/-- Path 2 with a warning on the first event. -/
def glancePolicy : PolicySnapshot :=
  { PolicySnapshot.ofRow (PolicyConfig.default 0) with gazeWarningLimit := 1 }

def glance (id : UUID) (offScreen : Option Bool) (timestamp : Int) : GazeFrame :=
  ⟨⟨.certain, offScreen⟩, id, timestamp⟩

/-- A second look away, and a second with the eyes back on the screen: two warnings. -/
def glanceFrames : List GazeFrame :=
  [glance 1 (some true) 0, glance 2 (some false) 1000, glance 3 (some false) 2000]

theorem glance_warns_again :
    ¬ ∀ policy frames, 1 ≤ policy.gazeWarningLimit →
      frames.Pairwise (fun f g => f.frameTimestampMs ≤ g.frameTimestampMs) →
        OneWarningPerLookAway policy new frames := by
  intro h
  have hcount := (h glancePolicy glanceFrames (by decide) (by decide)).count
  exact absurd hcount (by decide +kernel)

/-! ## 3. Frames without landmarks

The runs are run side by side, over the frames of the longer one. -/

/-- Every frame with what its call returned. -/
def gazeAnswers : List (GazeFrame × List FlagDecision) :=
  (Run.trace (gazeStep policy) a frames).map fun x => (x.2, (x.1.gaze policy x.2).1)

/-- The frames without landmarks are answered with no decision. -/
def Silent : Prop :=
  ∀ x ∈ gazeAnswers policy a frames, x.1.hasLandmarks = false → x.2 = []

/-- Two sequences that differ in frames without landmarks are not told apart. -/
structure NoLandmarksInvisible (fs gs : List GazeFrame) : Prop where
  decisions : (gazeAnswers policy a fs).filter (·.1.hasLandmarks) =
    (gazeAnswers policy a gs).filter (·.1.hasLandmarks)
  events : completedGazes policy a fs = completedGazes policy a gs
  score : (Run.final (gazeStep policy) a fs).accumulatedScore =
    (Run.final (gazeStep policy) a gs).accumulatedScore
  silent : Silent policy a fs ∧ Silent policy a gs

/-- A frame without landmarks finds the rule ended, or too few events left for either limit. -/
def Unheeded (f : GazeFrame) : Prop :=
  f.hasLandmarks = false →
    a.gazeTerminationFired = true ∨
      ((a.remainingGazes policy f).length < policy.gazeWarningLimit ∧
        (a.remainingGazes policy f).length < policy.gazeTerminationLimit)

instance : DecidablePred (a.Unheeded policy) := fun f =>
  inferInstanceAs (Decidable (f.hasLandmarks = false → a.gazeTerminationFired = true ∨
    ((a.remainingGazes policy f).length < policy.gazeWarningLimit ∧
      (a.remainingGazes policy f).length < policy.gazeTerminationLimit)))

section
variable {policy a frames} {f : GazeFrame} {b : SessionAggregator}

theorem gazeAnswers_cons :
    gazeAnswers policy a (f :: frames) =
      (f, (a.gaze policy f).1) :: gazeAnswers policy (a.gazeStep policy f) frames := rfl

theorem unheeded_iff :
    a.Unheeded policy f ↔ (f.hasLandmarks = false → (a.gaze policy f).1 = []) := by
  unfold Unheeded
  apply imp_congr_right
  intro h
  rw [gaze_eq_nil_iff, Warns, Terminates, gazeCounted_of_none (completedGaze_of_noLandmarks h)]
  cases a.gazeTerminationFired with
  | true => simp
  | false =>
    simp only [Bool.false_eq_true, false_or, true_and, not_and, Nat.not_le]
    omega

theorem silent_iff :
    Silent policy a frames ↔
      Run.EachStep (gazeStep policy) (fun a f => a.Unheeded policy f) a frames := by
  rw [Run.eachStep_iff_trace]
  simp only [Silent, gazeAnswers, List.mem_map, forall_exists_index, and_imp,
    forall_apply_eq_imp_iff₂, unheeded_iff]

/-- The first state is the second one with its window evicted further, to a cutoff no frame from
    time `t` on falls behind. -/
structure Ahead (policy : PolicySnapshot) (t : Int) (a b : SessionAggregator) : Prop where
  inOrder : Window.InOrder GazeAwayEvent.endedAtMs b.gazeAwayEvents
  past : ∀ e ∈ b.gazeAwayEvents, e.endedAtMs ≤ t
  evicted : ∃ cutoff ≤ t - policy.gazeWindowSeconds * 1000,
    a = { b with gazeAwayEvents :=
      Window.since GazeAwayEvent.endedAtMs cutoff b.gazeAwayEvents }

section
variable {t : Int}

theorem Ahead.later (h : Ahead policy t a b) {t' : Int} (ht : t ≤ t') : Ahead policy t' a b := by
  obtain ⟨cutoff, hcutoff, heq⟩ := h.evicted
  exact ⟨h.inOrder, fun e he => (h.past e he).trans ht, cutoff, by omega, heq⟩

theorem Ahead.gazeTerminationFired (h : Ahead policy t a b) :
    a.gazeTerminationFired = b.gazeTerminationFired := by
  obtain ⟨cutoff, -, heq⟩ := h.evicted
  rw [heq]

theorem Ahead.accumulatedScore (h : Ahead policy t a b) :
    a.accumulatedScore = b.accumulatedScore := by
  obtain ⟨cutoff, -, heq⟩ := h.evicted
  rw [heq]

theorem Ahead.completedGaze (h : Ahead policy t a b) :
    a.completedGaze policy f = b.completedGaze policy f := by
  obtain ⟨cutoff, -, heq⟩ := h.evicted
  rw [heq]
  rfl

/-- The events up to a frame, with the one it completes. -/
theorem Ahead.inOrder_completed (h : Ahead policy t a b) (ht : t ≤ f.frameTimestampMs) :
    Window.InOrder GazeAwayEvent.endedAtMs
        (b.gazeAwayEvents ++ (b.completedGaze policy f).toList) ∧
      ∀ e ∈ b.gazeAwayEvents ++ (b.completedGaze policy f).toList,
        e.endedAtMs ≤ f.frameTimestampMs := by
  cases hcompleted : b.completedGaze policy f with
  | none => simpa using ⟨h.inOrder, fun e he => (h.past e he).trans ht⟩
  | some event =>
    have hended := endedAtMs_of_completedGaze hcompleted
    refine ⟨?_, ?_⟩
    · show Window.InOrder _ (b.gazeAwayEvents ++ [event])
      rw [Window.inOrder_append_singleton]
      exact ⟨h.inOrder, fun e he => hended ▸ (h.past e he).trans ht⟩
    · intro e he
      rcases List.mem_append.mp he with he | he
      · exact (h.past e he).trans ht
      · rw [Option.toList_some, List.mem_singleton] at he
        rw [he, hended]

/-- A frame both runs see is answered alike, and leaves them alike. -/
theorem Ahead.gaze (h : Ahead policy t a b) (ht : t ≤ f.frameTimestampMs) :
    (a.gaze policy f).1 = (b.gaze policy f).1 ∧
      Ahead policy f.frameTimestampMs (a.gazeStep policy f) (b.gazeStep policy f) := by
  cases hfired : b.gazeTerminationFired with
  | true =>
    have hfired' : a.gazeTerminationFired = true := h.gazeTerminationFired.trans hfired
    rw [gaze_of_fired hfired, gaze_of_fired hfired', gazeStep_of_fired hfired,
      gazeStep_of_fired hfired']
    exact ⟨rfl, h.later ht⟩
  | false =>
    obtain ⟨horder, hpast⟩ := h.inOrder_completed ht
    have hcounted : b.gazeCounted policy f =
        Window.since GazeAwayEvent.endedAtMs (gazeWindowStart policy f)
          (b.gazeAwayEvents ++ (b.completedGaze policy f).toList) :=
      Window.evict_eq_since horder
    obtain ⟨cutoff, hcutoff, heq⟩ := h.evicted
    have hstart : cutoff ≤ gazeWindowStart policy f := by
      unfold gazeWindowStart
      omega
    -- the two windows, after the eviction that this frame does, are one
    have hgaze : a.gaze policy f = b.gaze policy f := by
      rw [heq]
      apply gaze_with hfired
      rw [hcounted]
      exact Window.evict_since_append horder hstart
    refine ⟨congrArg (·.1) hgaze, ?_⟩
    have hevents : (b.gazeStep policy f).gazeAwayEvents = b.gazeCounted policy f := by
      rw [gazeStep_gazeAwayEvents, if_neg (by simp [hfired])]
    have hstep : a.gazeStep policy f = b.gazeStep policy f := congrArg (·.2) hgaze
    rw [hstep]
    refine ⟨?_, ?_, gazeWindowStart policy f, Int.le_refl _, ?_⟩
    · rw [hevents, hcounted]
      exact horder.since
    · intro e he
      rw [hevents, hcounted] at he
      exact hpast e (List.mem_of_mem_filter he)
    · have hsame : Window.since GazeAwayEvent.endedAtMs (gazeWindowStart policy f)
          (b.gazeStep policy f).gazeAwayEvents = (b.gazeStep policy f).gazeAwayEvents := by
        rw [hevents, hcounted, Window.since_since le_rfl]
      rw [hsame]

/-- A frame without landmarks that no decision answers only evicts. -/
theorem Ahead.skip (h : Ahead policy t a b) (ht : t ≤ f.frameTimestampMs)
    (hnone : f.hasLandmarks = false) (hunheeded : a.Unheeded policy f) :
    Ahead policy f.frameTimestampMs (a.gazeStep policy f) b := by
  cases hfired : a.gazeTerminationFired with
  | true =>
    rw [gazeStep_of_fired hfired]
    exact h.later ht
  | false =>
    obtain ⟨cutoff, hcutoff, heq⟩ := h.evicted
    have hstart : cutoff ≤ gazeWindowStart policy f := by
      unfold gazeWindowStart
      omega
    -- No look away ends here, so the window is only cut further, and a cut of a cut is a cut.
    have hcounted : a.gazeCounted policy f =
        Window.since GazeAwayEvent.endedAtMs (gazeWindowStart policy f) b.gazeAwayEvents := by
      rw [gazeCounted_of_none (completedGaze_of_noLandmarks hnone), remainingGazes, heq]
      exact (Window.evict_eq_since h.inOrder.since).trans (Window.since_since hstart)
    have hstep : a.gazeStep policy f = { a with gazeAwayEvents := a.gazeCounted policy f } := by
      obtain ⟨hwarns, hterminates⟩ :=
        gaze_eq_nil_iff.mp (unheeded_iff.mp hunheeded hnone)
      have heffect : GazeEffect policy a f (a.gaze policy f) := gaze_effect
      unfold gazeStep
      generalize a.gaze policy f = result at heffect
      cases heffect with
      | ended fired => exact absurd (hfired.symm.trans fired) (by decide)
      | terminated terminates critical => exact absurd terminates hterminates
      | warned warns warning critical => exact absurd warns hwarns
      | counted going below => rw [mergedGaze_of_noLandmarks hnone]
    refine ⟨h.inOrder, fun e he => (h.past e he).trans ht, gazeWindowStart policy f,
      Int.le_refl _, ?_⟩
    rw [hstep, hcounted, heq]

/-- **Without the frames the rule does not heed, the run is the same run.** -/
theorem Ahead.run (h : Ahead policy t a b) (hpast : ∀ f ∈ frames, t ≤ f.frameTimestampMs)
    (hsorted : frames.Pairwise fun f g => f.frameTimestampMs ≤ g.frameTimestampMs)
    (hunheeded : Run.EachStep (gazeStep policy) (fun a f => a.Unheeded policy f) a frames) :
    (gazeAnswers policy a frames).filter (·.1.hasLandmarks) =
        gazeAnswers policy b (frames.filter (·.hasLandmarks)) ∧
      completedGazes policy a frames =
        completedGazes policy b (frames.filter (·.hasLandmarks)) ∧
      (Run.final (gazeStep policy) a frames).accumulatedScore =
        (Run.final (gazeStep policy) b (frames.filter (·.hasLandmarks))).accumulatedScore := by
  induction frames generalizing a b t with
  | nil => exact ⟨rfl, rfl, h.accumulatedScore⟩
  | cons f frames ih =>
    have ht := hpast f List.mem_cons_self
    obtain ⟨hf, hrest⟩ := List.pairwise_cons.mp hsorted
    rw [gazeAnswers_cons, completedGazes_cons, Run.final_cons]
    by_cases hlandmarks : f.hasLandmarks = true
    · obtain ⟨hanswer, hahead⟩ := h.gaze ht
      obtain ⟨hanswers, hevents, hscore⟩ := ih hahead hf hrest hunheeded.2
      rw [List.filter_cons_of_pos (by simpa using hlandmarks),
        List.filter_cons_of_pos (by simpa using hlandmarks), gazeAnswers_cons, completedGazes_cons,
        Run.final_cons, hanswers, hanswer, hevents, hscore, h.completedGaze]
      exact ⟨rfl, rfl, rfl⟩
    -- a frame the other run does not have
    · have hnone : f.hasLandmarks = false := by simpa using hlandmarks
      obtain ⟨hanswers, hevents, hscore⟩ :=
        ih (h.skip ht hnone hunheeded.1) hf hrest hunheeded.2
      rw [List.filter_cons_of_neg (by simpa using hlandmarks),
        List.filter_cons_of_neg (by simpa using hlandmarks), hanswers, hevents, hscore,
        completedGaze_of_noLandmarks hnone]
      exact ⟨rfl, rfl, rfl⟩

theorem ahead_new : Ahead policy t new new :=
  ⟨List.Pairwise.nil, fun _ he => absurd he List.not_mem_nil,
    t - policy.gazeWindowSeconds * 1000, Int.le_refl _, rfl⟩

end

end

/-- **Frames without landmarks go unnoticed exactly when none of them finds enough events for a
    decision.** A frame without landmarks returns from the merging alone; the window is moved and
    counted all the same. -/
theorem noLandmarksInvisible_iff (fs gs : List GazeFrame)
    (hfs : fs.Pairwise fun f g => f.frameTimestampMs ≤ g.frameTimestampMs)
    (hgs : gs.Pairwise fun f g => f.frameTimestampMs ≤ g.frameTimestampMs)
    (hsame : fs.filter (·.hasLandmarks) = gs.filter (·.hasLandmarks)) :
    NoLandmarksInvisible policy new fs gs ↔
      Run.EachStep (gazeStep policy) (fun a f => a.Unheeded policy f) new fs ∧
        Run.EachStep (gazeStep policy) (fun a f => a.Unheeded policy f) new gs := by
  constructor
  · intro h
    exact ⟨(silent_iff).mp h.silent.1, (silent_iff).mp h.silent.2⟩
  · rintro ⟨hf, hg⟩
    -- Unheeded frames without landmarks change nothing: a run is as the run without them.
    have hrun : ∀ frames : List GazeFrame,
        (frames.Pairwise fun f g => f.frameTimestampMs ≤ g.frameTimestampMs) →
        Run.EachStep (gazeStep policy) (fun a f => a.Unheeded policy f) new frames →
          (gazeAnswers policy new frames).filter (·.1.hasLandmarks) =
              gazeAnswers policy new (frames.filter (·.hasLandmarks)) ∧
            completedGazes policy new frames =
              completedGazes policy new (frames.filter (·.hasLandmarks)) ∧
            (Run.final (gazeStep policy) new frames).accumulatedScore =
              (Run.final (gazeStep policy) new
                (frames.filter (·.hasLandmarks))).accumulatedScore := by
      intro frames hsorted hunheeded
      cases frames with
      | nil => exact ⟨rfl, rfl, rfl⟩
      | cons f frames =>
        refine (ahead_new (t := f.frameTimestampMs)).run ?_ hsorted hunheeded
        intro g hg
        rcases List.mem_cons.mp hg with rfl | hg
        · exact Int.le_refl _
        · exact (List.pairwise_cons.mp hsorted).1 g hg
    obtain ⟨hanswers, hevents, hscore⟩ := hrun fs hfs hf
    obtain ⟨hanswers', hevents', hscore'⟩ := hrun gs hgs hg
    rw [hsame] at hanswers hevents hscore
    exact ⟨hanswers.trans hanswers'.symm, hevents.trans hevents'.symm,
      hscore.trans hscore'.symm, (silent_iff).mpr hf, (silent_iff).mpr hg⟩

/-- A blink in the middle of a look-away, under the default limits. -/
theorem noLandmarksInvisible_blink :
    NoLandmarksInvisible (PolicySnapshot.ofRow (PolicyConfig.default 0)) new
      [glance 1 (some true) 0, glance 2 none 500, glance 3 (some false) 1000]
      [glance 1 (some true) 0, glance 3 (some false) 1000] :=
  (noLandmarksInvisible_iff _ _ _ (by decide) (by decide) (by decide)).mpr
    ⟨by decide +kernel, by decide +kernel⟩

/-- Half a second after a look-away that was warned about, a frame without a face warns again. -/
theorem noLandmarks_warns_again :
    ¬ ∀ policy fs gs, fs.Pairwise (fun f g => f.frameTimestampMs ≤ g.frameTimestampMs) →
      gs.Pairwise (fun f g => f.frameTimestampMs ≤ g.frameTimestampMs) →
        fs.filter (·.hasLandmarks) = gs.filter (·.hasLandmarks) →
          NoLandmarksInvisible policy new fs gs := by
  intro h
  have hinvisible := h glancePolicy
    [glance 1 (some true) 0, glance 2 (some false) 1000, glance 3 none 1500]
    [glance 1 (some true) 0, glance 2 (some false) 1000] (by decide) (by decide) (by decide)
  exact absurd hinvisible.score (by decide +kernel)

end SessionAggregator
end ProctorEngine
