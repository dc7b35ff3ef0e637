import ProctorEngine.Fusion.Gaze

/-!
# The window under any clock

Events are popped from the front of the deque only, and the time of a frame is what the client's
clock said. When that clock steps back, an old event can stand behind a recent one and stays
counted, and an event that was popped before is not counted again; after the termination
decision nothing is popped at all. **The deque is the window exactly as long as none of this
happens** (`alwaysWindow_iff`).
-/

set_option autoImplicit false

namespace ProctorEngine

open SessionAggregator

/-- The aggregator of a run of gaze frames, the events completed so far, and the frame of the
    last call. -/
structure GazeRun where
  aggregator : SessionAggregator
  completed : List GazeAwayEvent
  last : Option GazeFrame

namespace GazeRun

variable (policy : PolicySnapshot)

def start : GazeRun := ⟨.new, [], none⟩

def step (w : GazeRun) (f : GazeFrame) : GazeRun where
  aggregator := w.aggregator.gazeStep policy f
  completed := w.completed ++ (w.aggregator.completedGaze policy f).toList
  last := some f

/-- After a call, the events counted are those completed so far that ended inside the window of
    the call. -/
def IsWindow (w : GazeRun) : Prop :=
  ∀ f ∈ w.last, w.aggregator.gazeAwayEvents =
    Window.since GazeAwayEvent.endedAtMs (gazeWindowStart policy f) w.completed

/-- No event counted has to be popped from behind one that stays, and none completed has to be
    counted again; once the rule has ended, the window start passes no event in either
    direction. -/
def Orderly (w : GazeRun) (f : GazeFrame) : Prop :=
  if w.aggregator.gazeTerminationFired then
    ∀ last ∈ w.last, ∀ e ∈ w.completed,
      gazeWindowStart policy last ≤ e.endedAtMs ↔ gazeWindowStart policy f ≤ e.endedAtMs
  else
    (w.aggregator.gazeAwayEvents.Pairwise fun x y =>
        gazeWindowStart policy f ≤ x.endedAtMs → gazeWindowStart policy f ≤ y.endedAtMs) ∧
      ∀ last ∈ w.last, ∀ e ∈ w.completed,
        ¬ (gazeWindowStart policy f ≤ e.endedAtMs ∧ e.endedAtMs < gazeWindowStart policy last)

/-- Before its first call a run is as it started. -/
def Begun (w : GazeRun) : Prop := w.last = none → w = start

section
variable {policy} {w : GazeRun} {f : GazeFrame}

theorem step_begun : Begun (w.step policy f) := fun h => absurd h (by simp [step])

/-- An event that a frame completes is inside the window of the frame. -/
theorem windowStart_le_completed {e : GazeAwayEvent}
    (h : e ∈ (w.aggregator.completedGaze policy f).toList) :
    gazeWindowStart policy f ≤ e.endedAtMs := by
  rw [endedAtMs_of_completedGaze (Option.mem_toList.mp h)]
  unfold gazeWindowStart
  omega

theorem isWindow_step_iff_of_fired (hbegun : Begun w) (hwindow : w.IsWindow policy)
    (hfired : w.aggregator.gazeTerminationFired = true) :
    (w.step policy f).IsWindow policy ↔ w.Orderly policy f := by
  cases hlast : w.last with
  | none =>
    rw [hbegun hlast] at hfired
    exact absurd hfired (by decide)
  | some last =>
    have hevents := hwindow last hlast
    simp only [IsWindow, step, Option.mem_def, Option.some.injEq, forall_eq',
      gazeStep_of_fired hfired, completedGaze_of_fired hfired, Option.toList_none,
      List.append_nil, hevents, Window.since_eq_since_iff_forall, Orderly, hfired, if_true, hlast]

theorem isWindow_step_iff_of_going (hbegun : Begun w) (hwindow : w.IsWindow policy)
    (hfired : w.aggregator.gazeTerminationFired = false) :
    (w.step policy f).IsWindow policy ↔ w.Orderly policy f := by
  have hcounted : (w.step policy f).IsWindow policy ↔
      w.aggregator.gazeCounted policy f = Window.since GazeAwayEvent.endedAtMs
        (gazeWindowStart policy f)
        (w.completed ++ (w.aggregator.completedGaze policy f).toList) := by
    simp [IsWindow, step, gazeStep_gazeAwayEvents, hfired]
  have hrecent : ∀ e ∈ (w.aggregator.completedGaze policy f).toList,
      gazeWindowStart policy f ≤ e.endedAtMs := fun e he => windowStart_le_completed he
  rw [hcounted]
  unfold gazeCounted Orderly
  rw [if_neg (by simp [hfired])]
  cases hlast : w.last with
  | none =>
    obtain rfl := hbegun hlast
    refine iff_of_true ?_ ⟨List.Pairwise.nil, by simp⟩
    have hself := (Window.evict_append_eq_since_iff (c := gazeWindowStart policy f) (l := [])
      hrecent).mpr ⟨List.Pairwise.nil, by simp⟩
    exact hself
  | some last =>
    rw [hwindow last hlast, Window.evict_append_eq_since_iff hrecent]
    simp

/-- **The events counted are those of the window after every call exactly when every call is
    orderly.** The eviction stops at the first event it keeps and brings none back, and a rule that
    has fired evicts no more; so the times may neither come out of order nor go back. -/
theorem alwaysWindow_iff (policy : PolicySnapshot) (frames : List GazeFrame) :
    Run.Always (step policy) (IsWindow policy) start frames ↔
      Run.EachStep (step policy) (fun w f => w.Orderly policy f) start frames := by
  apply Run.always_iff_eachStep (I := Begun)
  · intro w f _
    exact step_begun
  · intro w f hbegun hwindow
    cases hfired : w.aggregator.gazeTerminationFired with
    | true => exact isWindow_step_iff_of_fired hbegun hwindow hfired
    | false => exact isWindow_step_iff_of_going hbegun hwindow hfired
  · intro _
    rfl
  · intro f hf
    exact absurd hf (by simp [start])

end

/-- Two look-aways of a second, the second one after the clock was set back by a quarter of an
    hour and with the clock right again afterwards. -/
def clockSetBack : List GazeFrame :=
  [⟨⟨.certain, some true⟩, 1, 1000000⟩, ⟨⟨.certain, some false⟩, 2, 1001000⟩,
    ⟨⟨.certain, some true⟩, 3, 100000⟩, ⟨⟨.certain, some false⟩, 4, 101000⟩,
    ⟨⟨.certain, some false⟩, 5, 1002000⟩]

/-- The second event ended five minutes and more before the last frame, and is counted there. -/
theorem clockSetBack_not_window :
    ¬ ∀ policy frames, Run.Always (step policy) (IsWindow policy) start frames := by
  intro h
  have hwindow := (h (PolicySnapshot.ofRow (PolicyConfig.default 0)) clockSetBack).final
  exact absurd (hwindow _ rfl) (by decide +kernel)

end GazeRun

end ProctorEngine
