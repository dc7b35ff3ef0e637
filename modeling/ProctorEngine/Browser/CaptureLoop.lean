import Mathlib.Data.NNRat.Defs
import Mathlib.Algebra.Order.Field.Rat
import Mathlib.Tactic.Linarith
import ProctorEngine.Lib.Run
import ProctorEngine.Browser.Envelope
import ProctorEngine.Browser.RollingBuffer

/-!
# `CaptureLoop.processHeavyFrame` and the pre-roll

The capture loop stamps a heavy frame with its `requestAnimationFrame` timestamp,
**milliseconds since the page was loaded**; the rolling buffer evicts by `Date.now()`,
**milliseconds since the epoch**. A page has both clocks, and they differ by the constant
instant of its load, its time origin. Here the two meet: which frames does the buffer hold
after a capture, and when are they the frames of the last `windowMs` milliseconds?
-/

set_option autoImplicit false

namespace ProctorEngine.Browser

/-- `processHeavyFrame`: the buffer and the payload sent, nothing where `captureFrameAsJpeg`
    returned nothing. -/
def processHeavyFrame (b : RollingBuffer) (jpegBase64 : Option String) (timestamp now : ℚ)
    (videoWidth videoHeight : Nat) : RollingBuffer × Option TelemetryHeavyFramePayload :=
  match jpegBase64 with
  | none | some "" => (b, none)
  | some jpeg =>
    (b.add ⟨timestamp, jpeg, (videoWidth, videoHeight)⟩ now,
      some ⟨jpeg, (videoWidth, videoHeight)⟩)

/-- A page with its clock. `captured` is the log of the frames captured since the last drain. -/
structure Page where
  /-- `performance.timeOrigin`: the epoch milliseconds of the page's load. -/
  timeOrigin : NNRat
  /-- Milliseconds since the load. -/
  elapsed : ℚ
  rollingBuffer : RollingBuffer
  captured : List HeavyFrameEntry

/-- What happens on the page, and how long after the last thing that happened. -/
inductive PageEvent where
  | heavyFrame (after : NNRat) (jpegBase64 : Option String) (videoWidth videoHeight : Nat)
  | drain (after : NNRat)
deriving DecidableEq

namespace Page

def load (timeOrigin : NNRat) (windowMs : ℚ) : Page := ⟨timeOrigin, 0, .new windowMs, []⟩

/-- `Date.now()`. -/
def dateNow (s : Page) : ℚ := s.timeOrigin + s.elapsed

def tick (s : Page) (after : NNRat) : Page := { s with elapsed := s.elapsed + after }

/-- The frame a capture at this moment makes, if the canvas gave an image. -/
def frame? (s : Page) (jpegBase64 : Option String) (videoWidth videoHeight : Nat) :
    Option HeavyFrameEntry :=
  match jpegBase64 with
  | none | some "" => none
  | some jpeg => some ⟨s.elapsed, jpeg, (videoWidth, videoHeight)⟩

def step (s : Page) : PageEvent → Page
  | .heavyFrame after jpegBase64 w h =>
    let s := s.tick after
    { s with
      rollingBuffer := (processHeavyFrame s.rollingBuffer jpegBase64 s.elapsed s.dateNow w h).1
      captured := s.captured ++ (s.frame? jpegBase64 w h).toList }
  | .drain after =>
    { s.tick after with rollingBuffer := s.rollingBuffer.drain.2, captured := [] }

/-- The undrained frames captured within the last `windowMs` milliseconds. -/
def recent (s : Page) : List HeavyFrameEntry :=
  Window.since HeavyFrameEntry.timestamp (s.elapsed - s.rollingBuffer.windowMs) s.captured

/-- A drain would return the recent frames, in capture order. -/
def Retains (s : Page) : Prop :=
  s.rollingBuffer.drain.1 = s.recent.map HeavyFrameEntry.toEntry

instance (s : Page) : Decidable s.Retains := inferInstanceAs (Decidable (_ = _))

/-- After an event that captures a frame, the pre-roll is retained. -/
def RetainsAfter (s : Page) : PageEvent → Prop
  | .heavyFrame after jpegBase64 w h =>
    ((s.tick after).frame? jpegBase64 w h).isSome →
      (s.step (.heavyFrame after jpegBase64 w h)).Retains
  | .drain _ => True

/-- No frame is recent by the one clock and old by the other. -/
def ClocksAgree (s : Page) : Prop :=
  ∀ f ∈ s.captured, ¬ (s.elapsed - s.rollingBuffer.windowMs ≤ f.timestamp ∧
    f.timestamp < s.dateNow - s.rollingBuffer.windowMs)

/-- The condition on an event that captures a frame, that frame being among the captured. -/
def ClocksAgreeAt (s : Page) : PageEvent → Prop
  | .heavyFrame after jpegBase64 w h => ∀ f ∈ (s.tick after).frame? jpegBase64 w h,
    ClocksAgree { s.tick after with captured := s.captured ++ [f] }
  | .drain _ => True

/-! ## 1. What the buffer holds

Every capture and every drain leaves the captured frames in order, with the buffer as a window of
them. The cutoff of that window is the page's, in the wrong base. -/

/-- The buffer is the window of the captured frames at some cutoff no later than the present
    one, and the frames were captured in order. -/
structure Inv (s : Page) : Prop where
  window : ∃ c ≤ s.dateNow - s.rollingBuffer.windowMs,
    s.rollingBuffer.entries =
      (Window.since HeavyFrameEntry.timestamp c s.captured).map HeavyFrameEntry.toEntry
  inOrder : Window.InOrder HeavyFrameEntry.timestamp s.captured
  past : ∀ f ∈ s.captured, f.timestamp ≤ s.elapsed

section
variable {s : Page} {after : NNRat}

theorem Inv.tick (h : s.Inv) (after : NNRat) : (s.tick after).Inv := by
  have hafter : (0 : ℚ) ≤ after := after.2
  obtain ⟨c, hc, hentries⟩ := h.window
  refine ⟨⟨c, ?_, hentries⟩, h.inOrder, ?_⟩
  · show c ≤ s.timeOrigin + (s.elapsed + after) - s.rollingBuffer.windowMs
    have := hc
    unfold dateNow at this
    linarith
  · intro f hf
    exact (h.past f hf).trans (by simp [Page.tick])

/-- The page after capturing a frame at this moment. -/
def capture (s : Page) (f : HeavyFrameEntry) : Page :=
  { s with
    rollingBuffer := s.rollingBuffer.add f s.dateNow
    captured := s.captured ++ [f] }

/-- After a capture the buffer is the window at the present cutoff, by `Date.now()`. -/
theorem capture_entries {f : HeavyFrameEntry} (h : s.Inv) (hf : f.timestamp = s.elapsed) :
    (s.capture f).rollingBuffer.entries =
      (Window.since HeavyFrameEntry.timestamp (s.dateNow - s.rollingBuffer.windowMs)
        (s.captured ++ [f])).map HeavyFrameEntry.toEntry := by
  obtain ⟨c, hc, hentries⟩ := h.window
  have hin : Window.InOrder HeavyFrameEntry.timestamp (s.captured ++ [f]) := by
    rw [Window.inOrder_append_singleton]
    exact ⟨h.inOrder, fun g hg => hf ▸ h.past g hg⟩
  show (s.rollingBuffer.add f s.dateNow).entries = _
  rw [RollingBuffer.add_entries, hentries]
  show Window.evict _ _ (_ ++ [f].map HeavyFrameEntry.toEntry) = _
  rw [← List.map_append, Window.evict_map]
  exact congrArg _ (Window.evict_since_append hin hc)

theorem Inv.capture {f : HeavyFrameEntry} (h : s.Inv) (hf : f.timestamp = s.elapsed) :
    (s.capture f).Inv := by
  refine ⟨⟨_, le_rfl, capture_entries h hf⟩, ?_, ?_⟩
  · show Window.InOrder _ (s.captured ++ [f])
    rw [Window.inOrder_append_singleton]
    exact ⟨h.inOrder, fun g hg => hf ▸ h.past g hg⟩
  · intro g hg
    rcases List.mem_append.mp hg with hg | hg
    · exact h.past g hg
    · rw [List.mem_singleton.mp hg]
      exact hf.le

theorem frame?_timestamp {jpegBase64 : Option String} {w h : Nat} {f : HeavyFrameEntry}
    (hf : s.frame? jpegBase64 w h = some f) : f.timestamp = s.elapsed := by
  unfold frame? at hf
  split at hf
  · exact absurd hf (by simp)
  · exact absurd hf (by simp)
  · rw [← Option.some.inj hf]

/-- A capture event is a tick, and then a capture if there is a frame. -/
theorem step_heavyFrame {jpegBase64 : Option String} {w h : Nat} :
    s.step (.heavyFrame after jpegBase64 w h) =
      match (s.tick after).frame? jpegBase64 w h with
      | none => s.tick after
      | some f => (s.tick after).capture f := by
  unfold frame?
  simp only [step, processHeavyFrame, frame?]
  split
  · simp
  · simp
  · simp [capture]

theorem Inv.step (h : s.Inv) (e : PageEvent) : (s.step e).Inv := by
  cases e with
  | heavyFrame after jpegBase64 w hgt =>
    rw [step_heavyFrame]
    cases hf : (s.tick after).frame? jpegBase64 w hgt with
    | none => exact h.tick after
    | some f => exact (h.tick after).capture (frame?_timestamp hf)
  | drain after =>
    refine ⟨⟨_, le_rfl, rfl⟩, List.Pairwise.nil, ?_⟩
    intro f hf
    exact absurd hf (by simp [Page.step])

theorem inv_load {timeOrigin : NNRat} {windowMs : ℚ} : (load timeOrigin windowMs).Inv :=
  ⟨⟨_, le_rfl, rfl⟩, List.Pairwise.nil, fun f hf => absurd hf (by simp [load])⟩

/-! ## 2. When it is the pre-roll

Two cutoffs show the same frames exactly where no frame lies between them, so the condition is about
those frames. -/

theorem retains_capture_iff {f : HeavyFrameEntry} (h : s.Inv) (hf : f.timestamp = s.elapsed) :
    (s.capture f).Retains ↔ ClocksAgree { s with captured := s.captured ++ [f] } := by
  show (s.capture f).rollingBuffer.entries = (s.capture f).recent.map _ ↔ _
  rw [capture_entries h hf]
  have horigin : (0 : ℚ) ≤ s.timeOrigin := s.timeOrigin.2
  refine Window.map_since_eq_iff _ ?_
  show s.elapsed - s.rollingBuffer.windowMs ≤ s.timeOrigin + s.elapsed - s.rollingBuffer.windowMs
  linarith

theorem retainsAfter_iff (h : s.Inv) (e : PageEvent) : s.RetainsAfter e ↔ s.ClocksAgreeAt e := by
  cases e with
  | drain after => exact Iff.rfl
  | heavyFrame after jpegBase64 w hgt =>
    simp only [RetainsAfter, ClocksAgreeAt]
    rw [step_heavyFrame]
    cases hf : (s.tick after).frame? jpegBase64 w hgt with
    | none => simp
    | some f =>
      simp only [Option.isSome_some, forall_const, Option.mem_def, Option.some.injEq,
        forall_eq']
      exact retains_capture_iff (h.tick after) (frame?_timestamp hf)

/-- **After every capture the buffer holds the pre-roll exactly when at no capture a frame is recent
    by the page's clock and old by the epoch's.** Entries are stamped with the time since the page
    loaded and evicted against the time since the epoch. -/
theorem retainsAfter_run_iff (timeOrigin : NNRat) (windowMs : ℚ) (es : List PageEvent) :
    Run.EachStep step RetainsAfter (load timeOrigin windowMs) es ↔
      Run.EachStep step ClocksAgreeAt (load timeOrigin windowMs) es :=
  Run.eachStep_iff_eachStep (I := Inv) (fun _ e h => h.step e)
    (fun _ e h => retainsAfter_iff h e) inv_load

/-- One frame, five seconds into a page loaded in November 2023, with a window of ten seconds:
    the buffer is empty. -/
theorem preRoll_not_retained :
    ¬ Run.EachStep step RetainsAfter (load 1700000000000 10000)
      [.heavyFrame 5000 (some "/9j/4AAQ") 640 480] := by
  intro h
  have hretains : (step (load 1700000000000 10000)
      (.heavyFrame 5000 (some "/9j/4AAQ") 640 480)).Retains := h.1 rfl
  exact absurd hretains (by decide +kernel)

/-- A page loaded more than the window after the epoch has an empty buffer after every
    capture. -/
theorem capture_entries_eq_nil {f : HeavyFrameEntry} (h : s.Inv) (hf : f.timestamp = s.elapsed)
    (hwindow : s.rollingBuffer.windowMs < s.timeOrigin) :
    (s.capture f).rollingBuffer.entries = [] := by
  rw [capture_entries h hf, List.map_eq_nil_iff]
  apply List.filter_eq_nil_iff.mpr
  intro g hg
  have hpast : g.timestamp ≤ s.elapsed := by
    rcases List.mem_append.mp hg with hg | hg
    · exact h.past g hg
    · rw [List.mem_singleton.mp hg]
      exact hf.le
  have hold : g.timestamp < s.dateNow - s.rollingBuffer.windowMs := by
    unfold dateNow
    linarith
  rw [decide_eq_true_eq]
  exact not_le.mpr hold

end

end Page

end ProctorEngine.Browser
