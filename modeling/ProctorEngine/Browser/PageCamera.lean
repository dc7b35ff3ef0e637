import Mathlib.Tactic.Linarith
import ProctorEngine.Browser.PageLife

/-!
# The camera of a page

The host stops the loop when the page is unloaded and at no other time. So the camera is on from the
moment `start()` comes to its end **until the first unload, whatever becomes of the connection and
of the session**, and it is off for good afterwards, since nobody starts the loop again.

While it is on the loop is paced by the frames it is given: what it counts, and what it hands over
of either kind, is no more than its intervals allow in the time that the frames span.

Both are about the loop and its events, and hold of a page by the projection of `Boot`. The pace is
a difference: `Paced c d` bounds what has been counted and handed over between two states by the
time between the stamps the loop keeps, so that it composes over a run without a clock. The loop
moves its stamp of the last counted frame to the frame's own time and not to the next multiple of
the interval, hence a frame that comes late does not earn the next one a discount.
-/

set_option autoImplicit false

namespace ProctorEngine.Browser

namespace CaptureLoop

variable {c d : CaptureLoop} {e : CaptureEvent} {b : RollingBuffer}

/-! ## 1. On and off

Two states of a loop and the events that keep it there. Once `start()` has come to its end, only
`stop()` and the animation frames are more than nothing to a loop. -/

/-- A loop that runs with its camera and its detector on. -/
structure Capturing (c : CaptureLoop) : Prop where
  starting : c.starting = none
  isRunningFlag : c.isRunningFlag = true
  stream : ∃ n ∈ c.live, c.mediaCapture = some n
  runner : ∃ n ∈ c.detectors, c.faceInference = some n

/-- A loop with everything off and nothing to come. -/
structure Off (c : CaptureLoop) : Prop where
  starting : c.starting = none
  isRunningFlag : c.isRunningFlag = false
  live : c.live = []
  detectors : c.detectors = []

/-- Without a `start()` that is suspended nothing comes of the events it waits for. -/
theorem step_of_started (hs : c.starting = none) (hstart : e ≠ .start) :
    e = .stop ∨ (∃ id f, e = .frame id f) ∨ c.step e = c := by
  cases e with
  | start => exact absurd rfl hstart
  | stop => exact .inl rfl
  | mediaReady => exact .inr (.inr (mediaReady_of_ne (by rw [hs]; exact nofun)))
  | mediaFailed m => exact .inr (.inr (mediaFailed_of_ne (by rw [hs]; exact nofun) m))
  | inferenceReady now =>
    exact .inr (.inr (inferenceReady_of_ne (by rw [hs]; exact nofun) now))
  | inferenceFailed => exact .inr (.inr (inferenceFailed_of_ne (by rw [hs]; exact nofun)))
  | frame id f => exact .inr (.inl ⟨id, f, rfl⟩)

theorem step_offFrame (hs : c.starting = none) (hstart : e ≠ .start) (hstop : e ≠ .stop) :
    OffFrame c (c.step e) := by
  rcases step_of_started hs hstart with hstop' | ⟨id, f, rfl⟩ | hkept
  · exact absurd hstop' hstop
  · exact runFrame_offFrame
  · rw [hkept]
    exact .refl

theorem Capturing.offFrame (h : c.Capturing) (hoff : OffFrame c d) : d.Capturing := by
  constructor
  · rw [hoff.starting]
    exact h.starting
  · rw [hoff.isRunningFlag]
    exact h.isRunningFlag
  · rw [hoff.live, hoff.mediaCapture]
    exact h.stream
  · rw [hoff.detectors, hoff.faceInference]
    exact h.runner

theorem Off.offFrame (h : c.Off) (hoff : OffFrame c d) : d.Off := by
  constructor
  · rw [hoff.starting]
    exact h.starting
  · rw [hoff.isRunningFlag]
    exact h.isRunningFlag
  · rw [hoff.live]
    exact h.live
  · rw [hoff.detectors]
    exact h.detectors

/-- A list of at most one, without the one that is known to be there. -/
theorem filter_ne_eq_nil {xs : List Nat} {n : Nat} (hlength : xs.length ≤ 1) (hmem : n ∈ xs) :
    xs.filter (fun x => some n ≠ some x) = [] := by
  have hpos := List.length_pos_of_mem hmem
  obtain ⟨x, rfl⟩ := List.length_eq_one_iff.mp (show xs.length = 1 by omega)
  obtain rfl := List.mem_singleton.mp hmem
  simp

/-- `stop()` turns off a loop that captures: all there is is in its hands. -/
theorem Capturing.stop (h : c.Capturing) (honce : c.StartedOnce) : c.stop.Off := by
  have hstreams := honce.streams
  have hlive := honce.live
  have hdetectors := honce.detectors
  obtain ⟨n, hn, hmedia⟩ := h.stream
  obtain ⟨m, hm, hinference⟩ := h.runner
  refine ⟨h.starting, rfl, ?_, ?_⟩
  · show c.live.filter (fun stream => c.mediaCapture ≠ some stream) = []
    rw [hmedia]
    exact filter_ne_eq_nil (by omega) hn
  · show c.detectors.filter (fun runner => c.faceInference ≠ some runner) = []
    rw [hinference]
    exact filter_ne_eq_nil (by omega) hm

/-- What is off stays off and hands over nothing. -/
theorem Off.step (h : c.Off) (he : e ≠ .start) : (c.step e).Off ∧ (c.step e).sent = c.sent := by
  by_cases hframe : ∃ id f, e = .frame id f
  · obtain ⟨id, f, rfl⟩ := hframe
    refine ⟨h.offFrame runFrame_offFrame, (runFrame_of_not_due fun hdue => ?_).2⟩
    exact nomatch h.isRunningFlag.symm.trans hdue.2.1
  · refine ⟨?_, (step_quiet fun id f heq => hframe ⟨id, f, heq⟩).2⟩
    by_cases hstop : e = .stop
    · subst hstop
      refine ⟨h.starting, rfl, ?_, ?_⟩
      · show c.live.filter _ = []
        rw [h.live]
        rfl
      · show c.detectors.filter _ = []
        rw [h.detectors]
        rfl
    · exact h.offFrame (step_offFrame h.starting he hstop)

end CaptureLoop

/-! ## 2. Until the page is unloaded

A page has one loop at most, started with the first connection that opens, and hands it no event
that would start it again. -/

namespace ExamPage

/-- The page films. -/
def Filming (p : ExamPage) : Prop := ∃ c ∈ p.captureLoop, c.Capturing

/-- The page has stopped filming, and this is all it has handed over. -/
def Dark (sent : List ClientPayload) (p : ExamPage) : Prop :=
  ∃ c ∈ p.captureLoop, c.Off ∧ c.sent = sent

section
variable {p : ExamPage} {i : PageInput} {sent : List ClientPayload}

theorem captureEvent_eq_stop_iff : captureEvent i = some .stop ↔ i = .beforeunload := by
  cases i with
  | init outcome => cases outcome <;> simp [captureEvent, InitOutcome.capture]
  | _ => simp [captureEvent]

/-- A page that has a loop keeps it. -/
theorem step_captureLoop_of_some (h : p.Invariant) {c : CaptureLoop} (hc : c ∈ p.captureLoop) :
    ((captureEvent i).map { c with rollingBuffer := p.killSwitch.rollingBuffer }.step).getD c ∈
      (p.step i).captureLoop := by
  rcases step_captureLoop (p := p) (e := i) with hloop | ⟨hunstarted, -⟩
  · rw [hloop, Option.mem_def.mp hc]
    rfl
  · rw [h.started, Option.mem_def.mp hc] at hunstarted
    exact nomatch hunstarted

theorem Filming.step (h : p.Invariant) (hfilming : p.Filming) (hi : i ≠ .beforeunload) :
    (p.step i).Filming := by
  obtain ⟨c, hc, hcapturing⟩ := hfilming
  refine ⟨_, step_captureLoop_of_some h hc, ?_⟩
  cases hevent : captureEvent i with
  | none => exact hcapturing
  | some e =>
    have hstart : e ≠ .start := by
      rintro rfl
      exact captureEvent_ne_start hevent
    have hstop : e ≠ .stop := by
      rintro rfl
      exact hi (captureEvent_eq_stop_iff.mp hevent)
    have hbuffered : { c with rollingBuffer := p.killSwitch.rollingBuffer }.Capturing :=
      ⟨hcapturing.starting, hcapturing.isRunningFlag, hcapturing.stream, hcapturing.runner⟩
    exact hbuffered.offFrame (CaptureLoop.step_offFrame hbuffered.starting hstart hstop)

theorem Dark.step (h : p.Invariant) (hdark : p.Dark sent) : (p.step i).Dark sent := by
  obtain ⟨c, hc, hoff, hsent⟩ := hdark
  refine ⟨_, step_captureLoop_of_some h hc, ?_⟩
  cases hevent : captureEvent i with
  | none => exact ⟨hoff, hsent⟩
  | some e =>
    have hbuffered : { c with rollingBuffer := p.killSwitch.rollingBuffer }.Off :=
      ⟨hoff.starting, hoff.isRunningFlag, hoff.live, hoff.detectors⟩
    have hstart : e ≠ .start := by
      rintro rfl
      exact captureEvent_ne_start hevent
    obtain ⟨hstays, hquiet⟩ := hbuffered.step hstart
    exact ⟨hstays, hquiet.trans hsent⟩

end

/-- A page whose connection has opened, whose camera has been granted and whose detector has been
    loaded. -/
def untilFilming : List PageInput :=
  [.socket (.opened 0), .init .mediaReady, .init (.inferenceReady 0)]

def filmingLoop : CaptureLoop := (startedLoop (.new 10000)).mediaReady.inferenceReady 0

theorem filmingLoop_mem :
    filmingLoop ∈ (Run.final step (booted someSession ['t'] none) untilFilming).captureLoop := rfl

end ExamPage

/-! ## 3. The pace

The three rates have one shape: a stamp and a count, of which the count goes up only when the time
since the stamp is at least the interval. -/

@[simp] def ClientPayload.isLight : ClientPayload → Bool
  | .telemetryLight _ => true
  | .telemetryHeavyFrame _ | .audioChunk _ | .browserEvent _ | .killSwitchAck _ => false

@[simp] def ClientPayload.isHeavy : ClientPayload → Bool
  | .telemetryHeavyFrame _ => true
  | .telemetryLight _ | .audioChunk _ | .browserEvent _ | .killSwitchAck _ => false

namespace CaptureLoop

/-- The payloads of a kind handed over so far. -/
def handedOver (c : CaptureLoop) (kind : ClientPayload → Bool) : ℚ := c.sent.countP kind

/-- What the loop has done since it was `c` fits the time that its frames have taken. -/
structure Paced (c d : CaptureLoop) : Prop where
  frames : 1000 * ((d.frameCount : ℚ) - c.frameCount) ≤ 15 * (d.lastFrameTime - c.lastFrameTime)
  light : 1000 * (d.handedOver (·.isLight) - c.handedOver (·.isLight)) ≤
    d.lastLightSendTime - c.lastLightSendTime
  heavy : 2500 * (d.handedOver (·.isHeavy) - c.handedOver (·.isHeavy)) ≤
    d.lastHeavyFrameTime - c.lastHeavyFrameTime

/-- No frame so far is later than `t`. -/
structure Upto (t : ℚ) (c : CaptureLoop) : Prop where
  frame : c.lastFrameTime ≤ t
  light : c.lastLightSendTime ≤ t
  heavy : c.lastHeavyFrameTime ≤ t

section
variable {c d : CaptureLoop} {id : Nat} {f : AnimationFrame} {t : ℚ}

theorem Paced.refl : Paced c c := by
  constructor <;> simp

theorem Paced.trans {a : CaptureLoop} (h : Paced a c) (h' : Paced c d) : Paced a d := by
  obtain ⟨hframes, hlight, hheavy⟩ := h
  obtain ⟨hframes', hlight', hheavy'⟩ := h'
  constructor <;> linarith

theorem handedOver_append {payloads : List ClientPayload} {kind : ClientPayload → Bool}
    (h : d.sent = c.sent ++ payloads) :
    d.handedOver kind = c.handedOver kind + payloads.countP kind := by
  unfold handedOver
  rw [h, List.countP_append]
  push_cast
  rfl

/-- Without a payload or a count more, the times may only have gone on. -/
theorem Paced.of_quiet (hcount : d.frameCount = c.frameCount) (hsent : d.sent = c.sent)
    (hframe : c.lastFrameTime ≤ d.lastFrameTime)
    (hlight : c.lastLightSendTime ≤ d.lastLightSendTime)
    (hheavy : c.lastHeavyFrameTime ≤ d.lastHeavyFrameTime) : Paced c d := by
  constructor
  · rw [hcount]
    linarith
  · unfold handedOver
    rw [hsent]
    linarith
  · unfold handedOver
    rw [hsent]
    linarith

theorem scheduleNextFrame_paced : Paced c c.scheduleNextFrame := by
  unfold scheduleNextFrame
  split
  · exact .of_quiet rfl rfl le_rfl le_rfl le_rfl
  · exact .refl

theorem lightFrame_paced (hconfig : c.config.lightFrameSendIntervalMs = 1000) :
    Paced c (c.lightFrame f) := by
  unfold lightFrame
  split
  case isFalse => exact .refl
  case isTrue hdue =>
    have hinterval := hdue.2
    rw [hconfig] at hinterval
    constructor
    · simp
    · rw [handedOver_append rfl]
      simp
      linarith
    · rw [handedOver_append rfl]
      simp

theorem heavyFrame_paced (hconfig : c.config.heavyFrameIntervalMs = 2500) :
    Paced c (c.heavyFrame f) := by
  have hkinds : ∀ o : Option TelemetryHeavyFramePayload,
      (o.map ClientPayload.telemetryHeavyFrame).toList.countP (·.isLight) = 0 ∧
        (o.map ClientPayload.telemetryHeavyFrame).toList.countP (·.isHeavy) ≤ 1 := by
    intro o
    cases o <;> simp
  unfold heavyFrame
  split
  case isFalse => exact .refl
  case isTrue hdue =>
    rw [hconfig] at hdue
    constructor
    · simp
    · rw [handedOver_append rfl, (hkinds _).1]
      simp
    · rw [handedOver_append rfl]
      have hone := (Nat.cast_le (α := ℚ)).mpr (hkinds (processHeavyFrame c.rollingBuffer
        f.jpegBase64 f.timestamp f.now f.videoWidth f.videoHeight).2).2
      push_cast at hone
      linarith

theorem counted_paced (hconfig : c.config.maxLightFps = 15) (hearly : ¬ c.TooEarly f.timestamp) :
    Paced c { c with lastFrameTime := f.timestamp, frameCount := c.frameCount + 1 } := by
  unfold TooEarly at hearly
  rw [hconfig, not_or, not_lt] at hearly
  have helapsed := hearly.2
  constructor
  · push_cast
    linarith
  · simp [handedOver]
  · simp [handedOver]

/-- What a frame that counts hands over keeps the pace. -/
theorem Paced.handOver (h : Paced c d) (hconfig : d.config = ExamPage.captureConfig.required) :
    Paced c ((d.lightFrame f).heavyFrame f).scheduleNextFrame := by
  have hlight : d.config.lightFrameSendIntervalMs = 1000 := by rw [hconfig]; rfl
  have hheavy : (d.lightFrame f).config.heavyFrameIntervalMs = 2500 := by
    rw [(OffFrame.refl.lightFrame (f := f)).config, hconfig]
    rfl
  exact ((h.trans (lightFrame_paced hlight)).trans (heavyFrame_paced hheavy)).trans
    scheduleNextFrame_paced

theorem runFrame_paced (hconfig : c.config = ExamPage.captureConfig.required) :
    Paced c (c.runFrame id f) := by
  have hfps : c.config.maxLightFps = 15 := by rw [hconfig]; rfl
  have herase : Paced c { c with requested := c.requested.erase id } :=
    .of_quiet rfl rfl le_rfl le_rfl le_rfl
  unfold runFrame processFrame
  split
  case isFalse => exact .refl
  case isTrue =>
    split
    · exact herase
    split
    · exact herase.trans scheduleNextFrame_paced
    split
    · exact herase.trans scheduleNextFrame_paced
    case isFalse hearly => exact (herase.trans (counted_paced hfps hearly)).handOver hconfig

/-- The loop keeps its pace through whatever comes after `start()` has come to its end. -/
theorem step_paced {e : CaptureEvent} (hs : c.starting = none) (hstart : e ≠ .start)
    (hconfig : c.config = ExamPage.captureConfig.required) : Paced c (c.step e) := by
  rcases step_of_started hs hstart with rfl | ⟨id, f, rfl⟩ | hkept
  · exact .of_quiet rfl rfl le_rfl le_rfl le_rfl
  · exact runFrame_paced hconfig
  · rw [hkept]
    exact .refl

theorem Upto.scheduleNextFrame (h : c.Upto t) : c.scheduleNextFrame.Upto t := by
  unfold CaptureLoop.scheduleNextFrame
  split
  · exact ⟨h.frame, h.light, h.heavy⟩
  · exact h

theorem Upto.lightFrame (h : c.Upto t) (hf : f.timestamp ≤ t) : (c.lightFrame f).Upto t := by
  unfold CaptureLoop.lightFrame
  split
  · exact ⟨h.frame, hf, h.heavy⟩
  · exact h

theorem Upto.heavyFrame (h : c.Upto t) (hf : f.timestamp ≤ t) : (c.heavyFrame f).Upto t := by
  unfold CaptureLoop.heavyFrame
  split
  · exact ⟨h.frame, h.light, hf⟩
  · exact h

theorem Upto.runFrame (h : c.Upto t) (hf : f.timestamp ≤ t) : (c.runFrame id f).Upto t := by
  unfold CaptureLoop.runFrame processFrame
  split
  case isFalse => exact h
  case isTrue =>
    split
    · exact ⟨h.frame, h.light, h.heavy⟩
    split
    · exact scheduleNextFrame ⟨h.frame, h.light, h.heavy⟩
    split
    · exact scheduleNextFrame ⟨h.frame, h.light, h.heavy⟩
    · apply scheduleNextFrame
      refine heavyFrame (lightFrame ?_ hf) hf
      exact ⟨hf, h.light, h.heavy⟩

theorem Upto.step {e : CaptureEvent} (h : c.Upto t) (hs : c.starting = none) (hstart : e ≠ .start)
    (hframe : ∀ id f, e = .frame id f → f.timestamp ≤ t) : (c.step e).Upto t := by
  rcases step_of_started hs hstart with rfl | ⟨id, f, rfl⟩ | hkept
  · exact ⟨h.frame, h.light, h.heavy⟩
  · exact h.runFrame (hframe id f rfl)
  · rw [hkept]
    exact h

theorem step_config {e : CaptureEvent} : (c.step e).config = c.config := by
  cases e with
  -- No event replaces the configuration the loop was built with.
  | start =>
    show c.start.config = _
    unfold start
    split <;> rfl
  | stop => rfl
  | mediaReady =>
    show c.mediaReady.config = _
    unfold mediaReady
    split <;> rfl
  | mediaFailed m =>
    show (c.mediaFailed m).config = _
    unfold mediaFailed startFailed
    split
    · split <;> rfl
    · rfl
  | inferenceReady now =>
    show (c.inferenceReady now).config = _
    unfold inferenceReady
    split
    · exact (OffFrame.scheduleNextFrame OffFrame.refl).config
    · rfl
  | inferenceFailed =>
    show c.inferenceFailed.config = _
    unfold inferenceFailed
    split <;> rfl
  | frame id f => exact runFrame_offFrame.config

theorem step_starting {e : CaptureEvent} (hs : c.starting = none) (hstart : e ≠ .start) :
    (c.step e).starting = none := by
  rcases step_of_started hs hstart with rfl | ⟨id, f, rfl⟩ | hkept
  · exact hs
  · exact runFrame_offFrame.starting.trans hs
  · rw [hkept]
    exact hs

end

end CaptureLoop

namespace ExamPage

section
variable {p : ExamPage} {i : PageInput} {c : CaptureLoop} {t : ℚ}

/-- The page goes on with the loop `c`, at its pace and no later than `t`. -/
def Paces (t : ℚ) (c : CaptureLoop) (p : ExamPage) : Prop :=
  ∃ d ∈ p.captureLoop, CaptureLoop.Paced c d ∧ d.Upto t ∧ d.starting = none ∧
    d.config = captureConfig.required

theorem Paces.step (h : p.Invariant) (hpaces : p.Paces t c)
    (hi : ∀ id f clock, i = .frame id f clock → f.timestamp ≤ t) : (p.step i).Paces t c := by
  obtain ⟨d, hd, hpaced, hupto, hs, hconfig⟩ := hpaces
  refine ⟨_, step_captureLoop_of_some h hd, ?_⟩
  cases hevent : captureEvent i with
  | none => exact ⟨hpaced, hupto, hs, hconfig⟩
  | some e =>
    have hstart : e ≠ .start := by
      rintro rfl
      exact captureEvent_ne_start hevent
    have hframe : ∀ id f, e = .frame id f → f.timestamp ≤ t := by
      rintro id f rfl
      cases i with
      | frame id' f' clock =>
        obtain ⟨rfl, rfl⟩ := CaptureEvent.frame.inj (Option.some.inj hevent)
        exact hi id' f' clock rfl
      | init outcome => cases outcome <;> exact nomatch hevent
      | _ => exact nomatch hevent
    generalize hbuffer : p.killSwitch.rollingBuffer = b
    have hbuffered : CaptureLoop.Paced c { d with rollingBuffer := b } :=
      ⟨hpaced.frames, hpaced.light, hpaced.heavy⟩
    have huptoBuffered : { d with rollingBuffer := b }.Upto t :=
      ⟨hupto.frame, hupto.light, hupto.heavy⟩
    exact ⟨hbuffered.trans (CaptureLoop.step_paced hs hstart hconfig),
      huptoBuffered.step hs hstart hframe, CaptureLoop.step_starting hs hstart,
      CaptureLoop.step_config.trans hconfig⟩

/-- **In any stretch of a page's life the frames that count and the frames handed over fit its
    intervals**: fifteen a second, one a second, and one in two and a half. -/
theorem page_paced (sessionId : SessionId) (sessionToken : List Char)
    (creationError : Option String) (before after : List PageInput) (t : ℚ) (c d : CaptureLoop)
    (hc : c ∈ (Run.final step (booted sessionId sessionToken creationError) before).captureLoop)
    (hs : c.starting = none) (hupto : c.Upto t)
    (hafter : ∀ id f clock, PageInput.frame id f clock ∈ after → f.timestamp ≤ t)
    (hd : d ∈ (Run.final step (booted sessionId sessionToken creationError)
      (before ++ after)).captureLoop) :
    1000 * ((d.frameCount : ℚ) - c.frameCount) ≤ 15 * (t - c.lastFrameTime) ∧
      1000 * (d.handedOver (·.isLight) - c.handedOver (·.isLight)) ≤ t - c.lastLightSendTime ∧
      2500 * (d.handedOver (·.isHeavy) - c.handedOver (·.isHeavy)) ≤ t - c.lastHeavyFrameTime := by
  -- What holds at `c`: the invariant of the page, and the required rates in its configuration.
  have hinv : Run.Always step Invariant (booted sessionId sessionToken creationError) before :=
    Run.always_of_step (fun p i h => h.step i) invariant_booted
  have hconfig : Run.Always step (fun p => ∀ c ∈ p.captureLoop, c.config = captureConfig.required)
      (booted sessionId sessionToken creationError) before := by
    refine Run.always_of_step (fun p i h => ?_) ?_
    · exact step_forall_loop (fun _ => rfl) (fun _ _ hc => hc)
        (fun _ _ _ hc => CaptureLoop.step_config.trans hc) h
    · rw [booted_eq]
      intro c hc
      exact absurd hc (Option.not_mem_none c)
  have htimes : ∀ i ∈ after, ∀ id f clock, i = .frame id f clock → f.timestamp ≤ t := by
    rintro i hi id f clock rfl
    exact hafter id f clock hi
  -- From `c` on the counters are held against the stamps, for as long as no stamp passes `t`.
  have hrun : Run.Always step (fun p => p.Invariant ∧ p.Paces t c)
      (Run.final step (booted sessionId sessionToken creationError) before) after :=
    Run.always_of_eachStep
      (G := fun _ i => ∀ id f clock, i = .frame id f clock → f.timestamp ≤ t)
      (fun p i h hi => ⟨h.1.step i, h.2.step h.1 hi⟩)
      ⟨hinv.final, c, hc, .refl, hupto, hs, hconfig.final c hc⟩
      (Run.eachStep_of_mem htimes)
  obtain ⟨d', hd', hpaced, hlast, -, -⟩ := hrun.final.2
  rw [Run.final_append] at hd
  obtain rfl := Option.mem_unique hd hd'
  obtain ⟨hframes, hlight, hheavy⟩ := hpaced
  obtain ⟨hframe', hlight', hheavy'⟩ := hlast
  refine ⟨?_, ?_, ?_⟩ <;> linarith

/-- A frame with nobody in it, of a picture with a size. -/
def firstFrame : VideoFrame where
  toAnimationFrame := WatchedLoop.emptyFrame
  encoded _ := .inl rfl

theorem page_paced_firstFrame :
    1000 * (((filmingLoop.runFrame 0 firstFrame.toAnimationFrame).frameCount : ℚ) -
        filmingLoop.frameCount) ≤ 15 * (1000 - filmingLoop.lastFrameTime) := by
  have hzero : (0 : ℚ) ≤ 1000 := by norm_num
  refine (page_paced someSession ['t'] none untilFilming [.frame 0 firstFrame fun _ => someTime]
    1000 filmingLoop (filmingLoop.runFrame 0 firstFrame.toAnimationFrame) filmingLoop_mem rfl
    ⟨hzero, hzero, hzero⟩ ?_ rfl).1
  intro id f clock h
  obtain ⟨-, rfl, -⟩ := PageInput.frame.inj (List.mem_singleton.mp h)
  exact le_rfl

end

end ExamPage

end ProctorEngine.Browser
