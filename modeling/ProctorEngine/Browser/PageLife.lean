import ProctorEngine.Browser.PageWire

/-!
# The life of a page

What stays true of a page through everything its connections, its camera, its listeners and the
server do to it. The status display is the state of the connection. The loop is there from the first
connection that opens and is started once, **so one camera stream, one detector and one requested
animation frame are all there ever is**; and each flag of a kill-switch adds one overlay.

The camera goes by the unload alone. A page whose session the server has ended, or whose connection
is lost for good, goes on capturing, and hands over what nobody takes.

A page is the client, the loop, the handler of the kill-switch and what is on the screen, and an
input of the page moves several of them. `Invariant` ties them together, and its preservation is
taken apart by where the input comes from:

* an event of the connection goes through `AfterSocket`, which lists what the callbacks of `boot` do
  to each part;
* everything else writes to the connection at most, `Invariant.of_wrote`.

The loop has an invariant of its own, `StartedOnce`, which counts what is on together with what a
suspended `start()` is still going to turn on; the page needs no more of it than that it is kept.
Last comes what the page writes: every frame on its sockets is a heartbeat, or is about something
the page has made itself.
-/

set_option autoImplicit false

namespace ProctorEngine.Browser

/-! ## 1. The status and what is shown of it

The client sets its status several times in one event and tells of each change. Of all these the
last one counts: it is the status the client is left with, and the one that is on display. -/

section
variable {α : Type*} {s t : WSStatus} {ts : List WSStatus}

theorem statusChanges_getLastD (f : WSStatus → α) :
    ((statusChanges s ts).map f).getLastD (f s) = f (ts.getLastD s) := by
  induction ts generalizing s with
  | nil => rfl
  | cons t ts ih =>
    unfold statusChanges
    rw [List.getLastD_cons]
    split
    case isTrue h => rw [ih, h]
    case isFalse => rw [List.map_cons, List.getLastD_cons, ih]

/-- A status that is set last and is not the one before is told of. -/
theorem mem_statusChanges (hlast : ts.getLastD s = t) (hne : t ≠ s) :
    t ∈ statusChanges s ts := by
  induction ts generalizing s with
  | nil => exact absurd hlast.symm hne
  | cons u ts ih =>
    rw [List.getLastD_cons] at hlast
    unfold statusChanges
    by_cases hu : u = s
    · rw [if_pos hu]
      exact ih (hu ▸ hlast) hne
    · rw [if_neg hu]
      by_cases ht : t = u
      · rw [ht]
        exact List.mem_cons_self
      · exact List.mem_cons_of_mem _ (ih hlast ht)

end

namespace WsClient

section
variable {s : WsClient} {sessionId : SessionId} {i : Nat}

theorem emit_status {frame : Dict} : (s.emit frame).status = s.status := by
  unfold emit
  split <;> rfl

theorem connect_status {throws : Bool} :
    (s.connect throws).status = (s.connectStatuses throws).getLastD s.status := by
  unfold connect connectStatuses
  split
  · rfl
  · split <;> rfl

theorem startClosing_status : (s.startClosing i).status = s.status := by
  unfold startClosing
  split <;> rfl

theorem disconnect_status : s.disconnect.status = .disconnectedTerminal := by
  unfold disconnect
  dsimp only
  split <;> rfl

theorem handleMessage_status {now : UtcTime} {msg : ServerMessage} :
    (s.handleMessage sessionId now msg).status = s.status := by
  cases msg with
  | ping => exact emit_status
  | killSwitch reason flagId hflag =>
    show (handleKillSwitch _ _ _ _).status = _
    unfold handleKillSwitch
    split
    · exact emit_status
    · exact emit_status
  | ack => rfl
  | policyUpdate => rfl
  | unrecognised => rfl

theorem handleClose_status {code : Nat} :
    (s.handleClose code).status =
      if s.isTerminal ∨ 4000 ≤ code ∧ code < 5000 then .disconnectedTerminal
      else .reconnecting := by
  unfold handleClose
  dsimp only
  split
  case isTrue h => exact (if_pos (.inl h)).symm
  case isFalse h =>
    split
    case isTrue hcode => exact (if_pos (.inr hcode)).symm
    case isFalse hcode =>
      refine Eq.trans ?_ (if_neg (not_or.mpr ⟨h, hcode⟩)).symm
      unfold scheduleReconnect
      rw [if_neg h]

/-- The status after a step is the last one the step has set. -/
theorem step_status (e : ClientEvent) :
    (s.step sessionId e).status = (s.setStatuses e).getLastD s.status := by
  cases e with
  | connect throws => exact connect_status
  | disconnect => exact disconnect_status
  | send payload capturedAt now => exact emit_status
  | heartbeatTick =>
    show (if s.pingTimer then s.emit _ else s : WsClient).status = s.status
    split
    · exact emit_status
    · rfl
  | reconnectTimeout t throws =>
    unfold step setStatuses
    dsimp only
    split
    · exact connect_status
    · rfl
  | opened j =>
    unfold step setStatuses
    dsimp only
    split <;> rfl
  | message j msg now =>
    unfold step
    dsimp only
    split
    · exact handleMessage_status
    · rfl
  | closing j => exact startClosing_status
  -- The status after a close depends on whether it ends the connection: terminal before, or a code
  -- of the server's.
  | closed j code =>
    unfold step setStatuses
    dsimp only
    split
    · rw [handleClose_status]
      by_cases hend : s.isTerminal ∨ 4000 ≤ code ∧ code < 5000
      · rw [if_pos hend]
        exact if_pos hend
      · rw [if_neg hend]
        exact if_neg hend
    · rfl

/-- A socket that is open has been open, or the client is connected. -/
theorem setReadyState_open {j : Nat} {state : ReadyState} (hne : state ≠ .open)
    (h : (s.setReadyState j state).sockets[i]? = some .open) : s.sockets[i]? = some .open := by
  unfold setReadyState at h
  dsimp only at h
  rw [List.getElem?_set] at h
  split at h
  case isTrue hij =>
    split at h
    · exact absurd (Option.some.inj h) hne
    · exact nomatch h
  case isFalse => exact h

theorem startClosing_open {j : Nat} (h : (s.startClosing j).sockets[i]? = some .open) :
    s.sockets[i]? = some .open := by
  unfold startClosing at h
  split at h
  · exact setReadyState_open (by decide) h
  · exact h

/-- A new socket is connecting, and not open yet. -/
theorem connect_open {throws : Bool} (h : (s.connect throws).sockets[i]? = some .open) :
    s.sockets[i]? = some .open := by
  unfold connect at h
  split at h
  · exact h
  · split at h
    · exact h
    · dsimp only at h
      rw [List.getElem?_append] at h
      split at h
      case isTrue => exact h
      case isFalse =>
        rw [List.getElem?_singleton] at h
        split at h
        · exact nomatch h
        · exact nomatch h

theorem disconnect_open (h : s.disconnect.sockets[i]? = some .open) :
    s.sockets[i]? = some .open := by
  have hsockets : (clearReconnect (stopHeartbeat { s with isTerminal := true })).sockets =
      s.sockets := clearReconnect_sockets
  unfold disconnect at h
  dsimp only at h
  rw [← hsockets]
  split at h
  · exact startClosing_open h
  · exact h

theorem handleClose_sockets {code : Nat} : (s.handleClose code).sockets = s.sockets := by
  unfold handleClose scheduleReconnect
  dsimp only
  split
  · rfl
  · split <;> rfl

/-- The one event that opens a socket is its own, and it connects the client. -/
theorem open_of_step {e : ClientEvent}
    (h : (s.step sessionId e).sockets[i]? = some .open) :
    s.sockets[i]? = some .open ∨ (s.step sessionId e).status = .connected := by
  cases e with
  | connect throws => exact .inl (connect_open h)
  | disconnect => exact .inl (disconnect_open h)
  | send payload capturedAt now => exact .inl (by rwa [← emit_sockets])
  | heartbeatTick =>
    unfold step at h
    dsimp only at h
    split at h
    · exact .inl (by rwa [emit_sockets] at h)
    · exact .inl h
  | reconnectTimeout t throws =>
    unfold step at h
    dsimp only at h
    split at h
    · exact .inl (connect_open (s := { s with timeouts := s.timeouts.erase t }) h)
    · exact .inl h
  -- The one event that opens a socket, and it sets the status with it.
  | opened j =>
    by_cases hj : s.sockets[j]? = some .connecting
    · right
      show (if _ then _ else _ : WsClient).status = _
      rw [if_pos hj]
      rfl
    · left
      unfold step at h
      dsimp only at h
      rwa [if_neg hj] at h
  | message j msg now =>
    unfold step at h
    dsimp only at h
    split at h
    · exact .inl (by rwa [handleMessage_sockets] at h)
    · exact .inl h
  | closing j => exact .inl (startClosing_open h)
  | closed j code =>
    unfold step at h
    dsimp only at h
    split at h
    · rw [handleClose_sockets] at h
      exact .inl (setReadyState_open (by decide) h)
    · exact .inl h

end

end WsClient

/-! ## 2. A loop that is started once

`start()` suspends twice, for the camera and for the detector, and an animation frame asks for the
next one while it runs. The invariant counts both what is there and what is owed, so that each step
of a start moves something from the one to the other. -/

namespace CaptureLoop

/-- What a suspended `start()` has still to turn on. -/
def streamsOwed : Option Starting → Nat
  | some .media => 1
  | some (.inference _) | none => 0

def detectorsOwed : Option Starting → Nat
  | some (.inference _) => 1
  | some .media | none => 0

def framesOwed : Option Starting → Nat
  | some _ => 1
  | none => 0

/-- What is on, with what is still to be turned on, is at most one of each. -/
structure StartedOnce (c : CaptureLoop) : Prop where
  streams : c.streams + streamsOwed c.starting ≤ 1
  live : c.live.length ≤ c.streams
  detectors : c.detectors.length + detectorsOwed c.starting ≤ c.streams
  requested : c.requested.length + framesOwed c.starting ≤ 1

/-- The parts of a loop that an animation frame leaves as they are. -/
structure OffFrame (c d : CaptureLoop) : Prop where
  config : d.config = c.config
  mediaCapture : d.mediaCapture = c.mediaCapture
  faceInference : d.faceInference = c.faceInference
  isRunningFlag : d.isRunningFlag = c.isRunningFlag
  starting : d.starting = c.starting
  live : d.live = c.live
  detectors : d.detectors = c.detectors
  streams : d.streams = c.streams

section
variable {c d : CaptureLoop} {id : Nat} {f : AnimationFrame}

theorem OffFrame.refl : OffFrame c c := ⟨rfl, rfl, rfl, rfl, rfl, rfl, rfl, rfl⟩

theorem OffFrame.scheduleNextFrame (h : OffFrame c d) : OffFrame c d.scheduleNextFrame := by
  unfold CaptureLoop.scheduleNextFrame
  split
  · exact ⟨h.config, h.mediaCapture, h.faceInference, h.isRunningFlag, h.starting, h.live,
      h.detectors, h.streams⟩
  · exact h

theorem OffFrame.lightFrame (h : OffFrame c d) : OffFrame c (d.lightFrame f) := by
  unfold CaptureLoop.lightFrame
  split
  · exact ⟨h.config, h.mediaCapture, h.faceInference, h.isRunningFlag, h.starting, h.live,
      h.detectors, h.streams⟩
  · exact h

theorem OffFrame.heavyFrame (h : OffFrame c d) : OffFrame c (d.heavyFrame f) := by
  unfold CaptureLoop.heavyFrame
  split
  · exact ⟨h.config, h.mediaCapture, h.faceInference, h.isRunningFlag, h.starting, h.live,
      h.detectors, h.streams⟩
  · exact h

theorem runFrame_offFrame : OffFrame c (c.runFrame id f) := by
  unfold runFrame processFrame
  split
  case isFalse => exact .refl
  case isTrue =>
    split
    · exact ⟨rfl, rfl, rfl, rfl, rfl, rfl, rfl, rfl⟩
    split
    · exact OffFrame.scheduleNextFrame ⟨rfl, rfl, rfl, rfl, rfl, rfl, rfl, rfl⟩
    split
    · exact OffFrame.scheduleNextFrame ⟨rfl, rfl, rfl, rfl, rfl, rfl, rfl, rfl⟩
    · apply OffFrame.scheduleNextFrame
      apply OffFrame.heavyFrame
      apply OffFrame.lightFrame
      exact ⟨rfl, rfl, rfl, rfl, rfl, rfl, rfl, rfl⟩

theorem scheduleNextFrame_requested :
    c.scheduleNextFrame.requested.length ≤ c.requested.length + 1 := by
  unfold scheduleNextFrame
  split
  · simp
  · exact Nat.le_succ _

theorem lightFrame_requested : (c.lightFrame f).requested = c.requested := by
  unfold lightFrame
  split <;> rfl

theorem heavyFrame_requested : (c.heavyFrame f).requested = c.requested := by
  unfold heavyFrame
  split <;> rfl

theorem processFrame_requested :
    (c.processFrame f).requested.length ≤ c.requested.length + 1 := by
  unfold processFrame
  split
  · exact Nat.le_succ _
  split
  · exact scheduleNextFrame_requested
  split
  · exact scheduleNextFrame_requested
  · refine scheduleNextFrame_requested.trans ?_
    rw [heavyFrame_requested, lightFrame_requested]

/-- A frame that runs asks for the next one in its own place. -/
theorem runFrame_requested : (c.runFrame id f).requested.length ≤ c.requested.length := by
  unfold runFrame
  split
  case isFalse => exact le_rfl
  case isTrue hmem =>
    refine processFrame_requested.trans ?_
    have hpos := List.length_pos_of_mem hmem
    show (c.requested.erase id).length + 1 ≤ _
    rw [List.length_erase_of_mem hmem]
    omega

namespace StartedOnce

theorem started (b : RollingBuffer) : (ExamPage.startedLoop b).StartedOnce :=
  ⟨le_rfl, le_rfl, le_rfl, le_rfl⟩

theorem startFailed (h : c.StartedOnce) (e : CaptureInitError) : (c.startFailed e).StartedOnce where
  streams := (Nat.le_add_right _ _).trans h.streams
  live := h.live
  detectors := (Nat.le_add_right _ _).trans h.detectors
  requested := (Nat.le_add_right _ _).trans h.requested

theorem mediaReady (h : c.StartedOnce) : c.mediaReady.StartedOnce := by
  unfold CaptureLoop.mediaReady
  split
  case isFalse => exact h
  case isTrue hs =>
    -- the stream that was owed is on, and the detector is owed now
    obtain ⟨hstreams, hlive, hdetectors, hrequested⟩ := h
    simp only [hs, streamsOwed, detectorsOwed, framesOwed] at hstreams hdetectors hrequested
    constructor
    · show c.streams + 1 + 0 ≤ 1
      omega
    · show (c.live ++ [c.streams]).length ≤ c.streams + 1
      rw [List.length_append, List.length_singleton]
      omega
    · show c.detectors.length + 1 ≤ c.streams + 1
      omega
    · exact hrequested

theorem mediaFailed (h : c.StartedOnce) (e : MediaCaptureError) :
    (c.mediaFailed e).StartedOnce := by
  unfold CaptureLoop.mediaFailed
  split
  case isFalse => exact h
  case isTrue hs =>
    split
    case isFalse => exact h.startFailed _
    case isTrue =>
      -- a stream without a video: it is on, and the start ends here
      obtain ⟨hstreams, hlive, hdetectors, hrequested⟩ := h
      simp only [hs, streamsOwed, detectorsOwed, framesOwed] at hstreams hdetectors hrequested
      constructor
      · show c.streams + 1 + 0 ≤ 1
        omega
      · show (c.live ++ [c.streams]).length ≤ c.streams + 1
        rw [List.length_append, List.length_singleton]
        omega
      · show c.detectors.length + 0 ≤ c.streams + 1
        omega
      · show c.requested.length + 0 ≤ 1
        omega

theorem inferenceReady (h : c.StartedOnce) (now : ℚ) : (c.inferenceReady now).StartedOnce := by
  unfold CaptureLoop.inferenceReady
  split
  case h_2 => exact h
  case h_1 runner hs =>
    obtain ⟨hstreams, hlive, hdetectors, hrequested⟩ := h
    simp only [hs, streamsOwed, detectorsOwed, framesOwed] at hstreams hdetectors hrequested
    -- the loop runs, so its first frame is requested
    show StartedOnce { c with
      detectors := c.detectors ++ [runner]
      isRunningFlag := true
      isInitializingFlag := false
      starting := none
      lastFrameTime := now
      lastLightSendTime := now
      lastHeavyFrameTime := now
      animationFrameId := some c.requests
      requested := c.requested ++ [c.requests]
      requests := c.requests + 1 }
    constructor
    · exact hstreams
    · exact hlive
    · show (c.detectors ++ [runner]).length + 0 ≤ c.streams
      rw [List.length_append, List.length_singleton]
      omega
    · show (c.requested ++ [c.requests]).length + 0 ≤ 1
      rw [List.length_append, List.length_singleton]
      omega

theorem inferenceFailed (h : c.StartedOnce) : c.inferenceFailed.StartedOnce := by
  unfold CaptureLoop.inferenceFailed
  split
  · exact h.startFailed _
  · exact h

theorem stop (h : c.StartedOnce) : c.stop.StartedOnce where
  streams := h.streams
  live := (List.length_filter_le _ _).trans h.live
  detectors := (Nat.add_le_add_right (List.length_filter_le _ _) _).trans h.detectors
  requested := (Nat.add_le_add_right (List.length_filter_le _ _) _).trans h.requested

theorem runFrame (h : c.StartedOnce) : (c.runFrame id f).StartedOnce := by
  have hoff : OffFrame c (c.runFrame id f) := runFrame_offFrame
  constructor
  · rw [hoff.streams, hoff.starting]
    exact h.streams
  · rw [hoff.live, hoff.streams]
    exact h.live
  · rw [hoff.detectors, hoff.starting, hoff.streams]
    exact h.detectors
  · rw [hoff.starting]
    exact (Nat.add_le_add_right runFrame_requested _).trans h.requested

/-- Every event but a second `start()`, which `startCaptureLoopOnce` keeps away. -/
theorem step {e : CaptureEvent} (he : e ≠ .start) (h : c.StartedOnce) : (c.step e).StartedOnce := by
  cases e with
  | start => exact absurd rfl he
  | stop => exact h.stop
  | mediaReady => exact h.mediaReady
  | mediaFailed m => exact h.mediaFailed m
  | inferenceReady now => exact h.inferenceReady now
  | inferenceFailed => exact h.inferenceFailed
  | frame id f => exact h.runFrame

end StartedOnce

end

end CaptureLoop

/-! ## 3. The invariant of a page

The invariant of the whole page. `captureLoopStarted` is the flag the page keeps for itself, and the
loop is a value that may not be there; that the two agree is a field like the others. -/

namespace WsClient

section
variable {s t : WsClient} {sessionId : SessionId} {e : SocketEvent}

theorem client_ne_connect (e : SocketEvent) : ∀ throws, e.client ≠ .connect throws := by
  cases e <;> exact nofun

/-- A client that has written, and done nothing else. -/
def Wrote (s t : WsClient) : Prop := ∃ sent, t = { s with sent }

theorem emit_wrote {frame : Dict} : s.Wrote (s.emit frame) := by
  unfold emit
  split
  · exact ⟨_, rfl⟩
  · exact ⟨s.sent, rfl⟩

theorem Wrote.trans {u : WsClient} (h : s.Wrote t) (h' : t.Wrote u) : s.Wrote u := by
  obtain ⟨sent, rfl⟩ := h
  obtain ⟨sent', rfl⟩ := h'
  exact ⟨sent', rfl⟩

theorem sends_wrote {payloads : List ClientPayload} {clock : ClientPayload → UtcTime} :
    s.Wrote (Run.final (step sessionId) s (ExamPage.sends payloads clock)) := by
  induction payloads generalizing s with
  | nil => exact ⟨s.sent, rfl⟩
  | cons payload payloads ih =>
    show s.Wrote (Run.final _ (s.send sessionId payload none (clock payload)) _)
    exact emit_wrote.trans ih

variable (sessionId) in
/-- The event that calls the kill-switch handler. -/
theorem step_of_killSwitchCall {payload : KillSwitchPayload}
    (h : s.killSwitchCall e = some payload) :
    ∃ now, s.step sessionId e.client =
      { s with isTerminal := true }.handleKillSwitch sessionId payload.flagId now := by
  unfold killSwitchCall at h
  split at h
  case h_1 i reason flagId hflag now =>
    split at h
    case isTrue hopen =>
      obtain rfl := Option.some.inj h
      exact ⟨now, if_pos hopen⟩
    case isFalse => cases h
  case h_2 => cases h

theorem startClosing_handledFlagIds {i : Nat} :
    (s.startClosing i).handledFlagIds = s.handledFlagIds := by
  unfold startClosing
  split <;> rfl

theorem emit_handledFlagIds {frame : Dict} : (s.emit frame).handledFlagIds = s.handledFlagIds := by
  obtain ⟨sent, h⟩ : s.Wrote (s.emit frame) := emit_wrote
  rw [h]

theorem connect_handledFlagIds {throws : Bool} :
    (s.connect throws).handledFlagIds = s.handledFlagIds := by
  unfold connect
  split
  · rfl
  · split <;> rfl

theorem handleClose_handledFlagIds {code : Nat} :
    (s.handleClose code).handledFlagIds = s.handledFlagIds := by
  unfold handleClose scheduleReconnect
  dsimp only
  split
  · rfl
  · split <;> rfl

/-- No other event of the connection makes a flag a handled one. -/
theorem step_handledFlagIds (h : s.killSwitchCall e = none) :
    (s.step sessionId e.client).handledFlagIds = s.handledFlagIds := by
  cases e with
  | heartbeatTick =>
    show (if s.pingTimer then s.emit _ else s : WsClient).handledFlagIds = _
    split
    · exact emit_handledFlagIds
    · rfl
  | reconnectTimeout timeout creationError =>
    show (if timeout ∈ s.timeouts then _ else s : WsClient).handledFlagIds = _
    split
    · exact connect_handledFlagIds
    · rfl
  | opened i =>
    show (if s.sockets[i]? = some .connecting then _ else s : WsClient).handledFlagIds = _
    split <;> rfl
  | message i msg now =>
    show (if s.sockets[i]? = some .open then s.handleMessage sessionId now msg
      else s).handledFlagIds = _
    split
    case isFalse => rfl
    case isTrue hopen =>
      cases msg with
      | ping => exact emit_handledFlagIds
      | ack => rfl
      | policyUpdate => rfl
      | unrecognised => rfl
      -- A kill-switch of an open socket is a call, which the hypothesis excludes.
      | killSwitch reason flagId hflag =>
        unfold killSwitchCall at h
        dsimp only at h
        rw [if_pos hopen] at h
        exact nomatch h
  | closing i => exact startClosing_handledFlagIds
  | closed i code reason =>
    show (if i < s.sockets.length ∧ s.sockets[i]? ≠ some .closed then _ else s :
      WsClient).handledFlagIds = _
    split
    · exact handleClose_handledFlagIds
    · rfl

end

end WsClient

namespace ExamPage

/-- The parts of a page agree: what is shown with the connection, the flag with the loop, the
    handled flags of the client with those of the handler, the overlays with both. -/
structure Invariant (p : ExamPage) : Prop where
  connection : p.ws.ConnectionInvariant
  shown : p.statusUI = updateStatusUI p.ws.status
  started : p.captureLoopStarted = p.captureLoop.isSome
  connected : p.ws.status = .connected → p.captureLoopStarted = true
  opened : ∀ i : Nat, p.ws.sockets[i]? = some .open → p.captureLoopStarted = true
  once : ∀ c ∈ p.captureLoop, c.StartedOnce
  handled : p.ws.handledFlagIds = p.killSwitch.handledFlagIds
  distinct : p.killSwitch.handledFlagIds.Nodup
  overlays : p.overlays.length = p.killSwitch.handledFlagIds.length
  ended : p.killSwitch.handledFlagIds ≠ [] → p.ws.isTerminal = true

section
variable {p q : ExamPage} {e : SocketEvent} {sessionId : SessionId} {sessionToken : List Char}
  {creationError : Option String}

theorem runLoop_isSome {e : CaptureEvent} :
    (p.runLoop e).captureLoop.isSome = p.captureLoop.isSome := by
  rw [runLoop_captureLoop, Option.isSome_map]

/-- What does not come from the connection writes to it at most, and keeps off the rest. -/
theorem Invariant.of_wrote (h : p.Invariant) (hws : p.ws.Wrote q.ws)
    (hstarted : q.captureLoopStarted = p.captureLoopStarted)
    (hloop : q.captureLoop.isSome = p.captureLoop.isSome)
    (honce : ∀ c ∈ q.captureLoop, c.StartedOnce)
    (hhandled : q.killSwitch.handledFlagIds = p.killSwitch.handledFlagIds)
    (hui : q.statusUI = p.statusUI) (hoverlays : q.overlays = p.overlays) : q.Invariant := by
  obtain ⟨sent, hws⟩ := hws
  have hconn := h.connection
  -- Field by field: each speaks of parts that writing leaves as they are.
  constructor
  · rw [hws]
    exact ⟨hconn.oneToken, hconn.remembered, hconn.noTimeout, hconn.disconnected⟩
  · rw [hui, hws]
    exact h.shown
  · rw [hstarted, hloop]
    exact h.started
  · rw [hws, hstarted]
    exact h.connected
  · rw [hws, hstarted]
    exact h.opened
  · exact honce
  · rw [hws, hhandled]
    exact h.handled
  · rw [hhandled]
    exact h.distinct
  · rw [hoverlays, hhandled]
    exact h.overlays
  · rw [hhandled, hws]
    exact h.ended

/-- An event of the connection leaves the page connected only if it has told of it. -/
theorem mem_shown (hbefore : p.ws.status ≠ .connected)
    (h : (p.ws.step p.sessionId e.client).status = .connected) : .connected ∈ p.shown e := by
  rw [WsClient.step_status] at h
  exact mem_statusChanges h (Ne.symm hbefore)

theorem killed_none (h : p.ws.killSwitchCall e = none) : p.killed e = p := by
  unfold killed
  rw [h]
  rfl

theorem killed_some {payload : KillSwitchPayload} (h : p.ws.killSwitchCall e = some payload) :
    p.killed e = p.onKillSwitch payload := by
  unfold killed
  rw [h]
  rfl

/-- The page and the connection keep the same set of handled flags. -/
theorem killed_handledFlagIds (h : p.Invariant) :
    (p.ws.step p.sessionId e.client).handledFlagIds = (p.killed e).killSwitch.handledFlagIds := by
  cases hcall : p.ws.killSwitchCall e with
  | none => rw [killed_none hcall, WsClient.step_handledFlagIds hcall, h.handled]
  | some payload =>
    obtain ⟨now, hstep⟩ := WsClient.step_of_killSwitchCall p.sessionId hcall
    rw [killed_some hcall, hstep]
    exact KillSwitchPage.handleKillSwitch_wsClient h.handled

/-- A flag that is handled for the first time adds one overlay, and no other call adds any. -/
theorem killed_overlays (h : p.Invariant) :
    (p.killed e).killSwitch.handledFlagIds.Nodup ∧
      (p.killed e).overlays.length = (p.killed e).killSwitch.handledFlagIds.length := by
  cases hcall : p.ws.killSwitchCall e with
  | none =>
    rw [killed_none hcall]
    exact ⟨h.distinct, h.overlays⟩
  | some payload =>
    rw [killed_some hcall]
    rcases p.killSwitch.handleKillSwitch_cases payload with
      ⟨-, hpage, -, heffects⟩ | ⟨hnew, hflags, -, -, message, heffects⟩
    · unfold onKillSwitch
      rw [hpage, heffects]
      refine ⟨h.distinct, ?_⟩
      show (p.overlays ++ []).length = _
      rw [List.append_nil]
      exact h.overlays
    · unfold onKillSwitch
      dsimp only
      rw [hflags, heffects]
      refine ⟨h.distinct.cons hnew, ?_⟩
      show (p.overlays ++ [message]).length = _
      rw [List.length_append, h.overlays, List.length_cons]
      rfl

theorem killed_ended (h : p.Invariant) (hne : (p.killed e).killSwitch.handledFlagIds ≠ []) :
    (p.ws.step p.sessionId e.client).isTerminal = true := by
  cases hcall : p.ws.killSwitchCall e with
  | none =>
    rw [killed_none hcall] at hne
    have hkept : (p.ws.connectionStep p.sessionId
        (.event ⟨e.client, WsClient.client_ne_connect e⟩)).isTerminal = true :=
      (WsClient.step_of_isTerminal h.connection (h.ended hne) _).1
    exact hkept
  | some payload =>
    obtain ⟨now, hstep⟩ := WsClient.step_of_killSwitchCall p.sessionId hcall
    rw [hstep]
    exact WsClient.handleKillSwitch_isTerminal

/-- The loop is there once the connection has opened, and stays. -/
theorem startCaptureLoopOnce_started (h : p.captureLoopStarted = p.captureLoop.isSome) :
    p.startCaptureLoopOnce.captureLoopStarted = true ∧
      p.startCaptureLoopOnce.captureLoop.isSome = true := by
  unfold startCaptureLoopOnce
  split
  case isTrue hstarted => exact ⟨hstarted, h.symm.trans hstarted⟩
  case isFalse => exact ⟨rfl, rfl⟩

theorem startCaptureLoopOnce_killSwitch : p.startCaptureLoopOnce.killSwitch = p.killSwitch := by
  unfold startCaptureLoopOnce
  split <;> rfl

theorem startCaptureLoopOnce_overlays : p.startCaptureLoopOnce.overlays = p.overlays := by
  unfold startCaptureLoopOnce
  split <;> rfl

/-- What an event of the connection does to the rest of the page. -/
structure AfterSocket (p : ExamPage) (e : SocketEvent) (q : ExamPage) : Prop where
  ws : q.ws = p.ws.step p.sessionId e.client
  statusUI : q.statusUI = ((p.shown e).map updateStatusUI).getLastD p.statusUI
  killSwitch : q.killSwitch = (p.killed e).killSwitch
  overlays : q.overlays = (p.killed e).overlays
  captureLoop : q.captureLoopStarted = q.captureLoop.isSome
  kept : p.captureLoopStarted = true → q.captureLoopStarted = true
  connected : .connected ∈ p.shown e → q.captureLoopStarted = true

theorem onSocket_after (h : p.captureLoopStarted = p.captureLoop.isSome) :
    AfterSocket p e (p.onSocket e) := by
  have hkilled : (p.killed e).captureLoopStarted = (p.killed e).captureLoop.isSome := by
    rw [killed_captureLoopStarted, killed_captureLoop]
    exact h
  obtain ⟨hstarted, hsome⟩ := startCaptureLoopOnce_started hkilled
  obtain ⟨errorDisplay, heq⟩ := onSocket_eq (p := p) (e := e)
  rw [heq]
  by_cases hconnected : .connected ∈ p.shown e
  · rw [if_pos hconnected]
    exact ⟨rfl, rfl, startCaptureLoopOnce_killSwitch, startCaptureLoopOnce_overlays,
      hstarted.trans hsome.symm, fun _ => hstarted, fun _ => hstarted⟩
  · rw [if_neg hconnected]
    exact ⟨rfl, rfl, rfl, rfl, hkilled, fun h => killed_captureLoopStarted.trans h,
      fun h => absurd h hconnected⟩

theorem Invariant.socket (h : p.Invariant) (e : SocketEvent)
    (honce : ∀ c ∈ (p.onSocket e).captureLoop, c.StartedOnce) : (p.onSocket e).Invariant := by
  have hafter : AfterSocket p e (p.onSocket e) := onSocket_after h.started
  generalize p.onSocket e = q at hafter honce
  obtain ⟨hdistinct, hcount⟩ := killed_overlays (e := e) h
  -- connected before or not: the loop was started then, or is started by the status that is told
  have hopen : (p.ws.step p.sessionId e.client).status = .connected →
      q.captureLoopStarted = true := by
    intro hstatus
    by_cases hbefore : p.ws.status = .connected
    · exact hafter.kept (h.connected hbefore)
    · exact hafter.connected (mem_shown hbefore hstatus)
  constructor
  · rw [hafter.ws]
    exact h.connection.step (.event ⟨e.client, WsClient.client_ne_connect e⟩)
  · rw [hafter.statusUI, hafter.ws, WsClient.step_status, h.shown]
    exact statusChanges_getLastD updateStatusUI
  · exact hafter.captureLoop
  · rw [hafter.ws]
    exact hopen
  · intro i hi
    rw [hafter.ws] at hi
    rcases WsClient.open_of_step hi with hi | hstatus
    · exact hafter.kept (h.opened i hi)
    · exact hopen hstatus
  · exact honce
  · rw [hafter.ws, hafter.killSwitch]
    exact killed_handledFlagIds h
  · rw [hafter.killSwitch]
    exact hdistinct
  · rw [hafter.overlays, hafter.killSwitch]
    exact hcount
  · rw [hafter.killSwitch, hafter.ws]
    exact killed_ended h

theorem Invariant.offLoop (h : p.Invariant) (hoff : OffLoop p q)
    (hloop : q.captureLoop.isSome = p.captureLoop.isSome)
    (honce : ∀ c ∈ q.captureLoop, c.StartedOnce) : q.Invariant :=
  h.of_wrote ⟨p.ws.sent, hoff.ws⟩ hoff.captureLoopStarted hloop honce hoff.handledFlagIds
    hoff.statusUI hoff.overlays

theorem Invariant.step (h : p.Invariant) (i : PageInput) : (p.step i).Invariant := by
  have honce : ∀ c ∈ (p.step i).captureLoop, c.StartedOnce :=
    step_forall_loop CaptureLoop.StartedOnce.started
      (fun _ _ hc => ⟨hc.streams, hc.live, hc.detectors, hc.requested⟩)
      (fun _ _ he hc => hc.step he) h.once
  cases i with
  -- the error display is no part of the invariant
  | errored socket => exact h
  | socket e => exact h.socket e honce
  | dom e now => exact h.of_wrote WsClient.emit_wrote rfl rfl honce rfl rfl rfl
  | init outcome =>
    apply h.offLoop onInit_offLoop _ honce
    rw [onInit_captureLoop]
    exact runLoop_isSome
  | frame id f clock =>
    have hoff := runLoop_offLoop (p := p) (e := .frame id f.toAnimationFrame)
    exact h.of_wrote WsClient.sends_wrote hoff.captureLoopStarted runLoop_isSome honce
      hoff.handledFlagIds hoff.statusUI hoff.overlays
  -- the unload stops the loop, the one way a camera goes off
  | beforeunload => exact h.offLoop runLoop_offLoop runLoop_isSome honce

theorem invariant_booted : (booted sessionId sessionToken creationError).Invariant := by
  rw [booted_eq]
  constructor
  · exact WsClient.connectionInvariant_connect _
  · rfl
  · rfl
  · cases creationError <;> exact nofun
  · intro i hi
    exact absurd (WsClient.connect_open hi) (by simp [WsClient.new])
  · intro c hc
    exact absurd hc (Option.not_mem_none c)
  · cases creationError <;> rfl
  · exact List.nodup_nil
  · rfl
  · exact fun hne => absurd rfl hne

end

end ExamPage

/-! ## 4. Where the frames come from

A frame of a page is traced to what made it: a listener, the handler of the kill-switch, or a frame
of the loop. What a page has made it has made for good, so an old frame stays accounted for and only
the frames of this step have to be looked at. -/

namespace CaptureLoop

variable {c : CaptureLoop} {b : RollingBuffer}

/-- What is handed over does not depend on what the buffer holds. -/
theorem runFrame_sent_rollingBuffer {id : Nat} {f : AnimationFrame} :
    ({ c with rollingBuffer := b }.runFrame id f).sent = (c.runFrame id f).sent := by
  have hheavy : { c with rollingBuffer := b }.heavyPayloads f = c.heavyPayloads f := by
    unfold heavyPayloads
    rw [processHeavyFrame_payload (d := c.rollingBuffer)]
    rfl
  rw [runFrame_sent, runFrame_sent, hheavy]
  rfl

theorem sent_subset_step {e : CaptureEvent} : c.sent ⊆ (c.step e).sent := by
  -- only an animation frame hands anything over
  by_cases he : ∃ id f, e = .frame id f
  · obtain ⟨id, f, rfl⟩ := he
    show c.sent ⊆ (c.runFrame id f).sent
    rw [runFrame_sent]
    exact List.subset_append_left _ _
  · rw [(step_quiet fun id f heq => he ⟨id, f, heq⟩).2]
    exact List.Subset.refl _

end CaptureLoop

namespace ExamPage

/-- What a page has made to send: of the listeners, of the handler, of the loop. -/
inductive Made (p : ExamPage) : ClientPayload → Prop
  | dom (e : DomEvent) : Made p (.browserEvent e.payload)
  | ack {flagId : String} (h : flagId ∈ p.killSwitch.handledFlagIds) :
      Made p (.killSwitchAck ⟨flagId⟩)
  | captured {c : CaptureLoop} {payload : ClientPayload} (hc : c ∈ p.captureLoop)
      (h : payload ∈ c.sent) : Made p payload

/-- A frame of the page: a heartbeat, or an envelope of its session about what it has made. -/
def Writes (p : ExamPage) (frame : Dict) : Prop :=
  frame = WsClient.pingFrame ∨ frame = WsClient.pongFrame ∨
    ∃ payload now, frame = buildEnvelope payload p.sessionId.val none now ∧ p.Made payload

section
variable {p q : ExamPage} {i : PageInput}

theorem Made.mono {payload : ClientPayload} (h : p.Made payload)
    (hflags : p.killSwitch.handledFlagIds ⊆ q.killSwitch.handledFlagIds)
    (hloop : ∀ c ∈ p.captureLoop, ∃ d ∈ q.captureLoop, c.sent ⊆ d.sent) : q.Made payload := by
  cases h with
  | dom e => exact .dom e
  | ack h => exact .ack (hflags h)
  | captured hc h =>
    obtain ⟨d, hd, hsent⟩ := hloop _ hc
    exact .captured hd (hsent h)

theorem killed_subset {e : SocketEvent} :
    p.killSwitch.handledFlagIds ⊆ (p.killed e).killSwitch.handledFlagIds := by
  cases hcall : p.ws.killSwitchCall e with
  | none =>
    rw [killed_none hcall]
    exact List.Subset.refl _
  | some payload =>
    rw [killed_some hcall]
    rcases p.killSwitch.handleKillSwitch_cases payload with ⟨-, hpage, -, -⟩ | ⟨-, hflags, -, -, -⟩
    · show _ ⊆ (p.killSwitch.handleKillSwitch payload).1.handledFlagIds
      rw [hpage]
      exact List.Subset.refl _
    · show _ ⊆ (p.killSwitch.handleKillSwitch payload).1.handledFlagIds
      rw [hflags]
      exact List.subset_cons_self _ _

theorem onKillSwitch_handles {payload : KillSwitchPayload} :
    payload.flagId ∈ (p.onKillSwitch payload).killSwitch.handledFlagIds := by
  show _ ∈ (p.killSwitch.handleKillSwitch payload).1.handledFlagIds
  rcases p.killSwitch.handleKillSwitch_cases payload with ⟨hmem, hpage, -, -⟩ | ⟨-, hflags, -, -, -⟩
  · rw [hpage]
    exact hmem
  · rw [hflags]
    exact List.mem_cons_self

theorem step_killSwitch_subset (h : p.Invariant) :
    p.killSwitch.handledFlagIds ⊆ (p.step i).killSwitch.handledFlagIds := by
  cases i with
  | socket e =>
    show _ ⊆ (p.onSocket e).killSwitch.handledFlagIds
    rw [(onSocket_after h.started).killSwitch]
    exact killed_subset
  | init outcome => exact onInit_offLoop.handledFlagIds ▸ List.Subset.refl _
  | frame id f clock =>
    exact (runLoop_offLoop (e := .frame id f.toAnimationFrame)).handledFlagIds ▸
      List.Subset.refl _
  | beforeunload =>
    exact (runLoop_offLoop (e := .stop)).handledFlagIds ▸ List.Subset.refl _
  | errored socket => exact List.Subset.refl _
  | dom e now => exact List.Subset.refl _

theorem step_sent_subset (h : p.Invariant) :
    ∀ c ∈ p.captureLoop, ∃ d ∈ (p.step i).captureLoop, c.sent ⊆ d.sent := by
  intro c hc
  rcases step_captureLoop (p := p) (e := i) with hloop | ⟨hunstarted, -⟩
  · rw [hloop, Option.mem_def.mp hc]
    refine ⟨_, rfl, ?_⟩
    cases captureEvent i with
    | none => exact List.Subset.refl _
    | some e =>
      exact CaptureLoop.sent_subset_step
        (c := { c with rollingBuffer := p.killSwitch.rollingBuffer })
  · rw [h.started, Option.mem_def.mp hc] at hunstarted
    exact nomatch hunstarted

theorem Writes.step {frame : Dict} (h : p.Invariant) (hwrites : p.Writes frame) :
    (p.step i).Writes frame := by
  rcases hwrites with hping | hpong | ⟨payload, now, hframe, hmade⟩
  · exact .inl hping
  · exact .inr (.inl hpong)
  · refine .inr (.inr ⟨payload, now, ?_, ?_⟩)
    · rw [step_sessionId]
      exact hframe
    · exact hmade.mono (step_killSwitch_subset h) (step_sent_subset h)

theorem framePayloads_made {id : Nat} {f : VideoFrame} {clock : ClientPayload → UtcTime}
    {payload : ClientPayload} (h : payload ∈ p.framePayloads id f) :
    (p.step (.frame id f clock)).Made payload := by
  have hloop : (p.step (.frame id f clock)).captureLoop = p.captureLoop.map fun c =>
      { c with rollingBuffer := p.killSwitch.rollingBuffer }.runFrame id f.toAnimationFrame :=
    runLoop_captureLoop
  cases hc : p.captureLoop with
  | none =>
    unfold framePayloads at h
    rw [hc] at h
    exact absurd h List.not_mem_nil
  | some c =>
    rw [hc] at hloop
    refine .captured hloop ?_
    unfold framePayloads at h
    rw [hc] at h
    rw [CaptureLoop.runFrame_sent_rollingBuffer]
    exact List.mem_of_mem_drop h

theorem entries_frame {s : WsClient} {frame : Option Dict} {f : Nat × Dict}
    (h : f ∈ s.entries frame) : frame = some f.2 := by
  cases frame with
  | none => exact absurd h List.not_mem_nil
  | some frame =>
    unfold WsClient.entries at h
    obtain ⟨i, -, rfl⟩ := Option.map_eq_some_iff.mp (Option.mem_toList.mp h)
    rfl

/-- What is handed to the client one after the other is written as it was made, or not at all. -/
theorem eachStep_sends_writes {s : WsClient} {payloads : List ClientPayload}
    {clock : ClientPayload → UtcTime} (h : ∀ payload ∈ payloads, q.Made payload) :
    Run.EachStep (WsClient.step q.sessionId)
      (fun t e => ∀ f ∈ t.entries (t.frameOf q.sessionId e), q.Writes f.2) s
      (sends payloads clock) := by
  have hlabel : ∀ e ∈ sends payloads clock, ∃ payload now,
      e = .send payload none now ∧ q.Made payload := by
    intro e he
    obtain ⟨payload, hpayload, rfl⟩ := List.mem_map.mp he
    exact ⟨payload, clock payload, rfl, h payload hpayload⟩
  refine (Run.eachStep_of_mem hlabel).mono ?_
  rintro t e ⟨payload, now, rfl, hmade⟩ f hf
  exact .inr (.inr ⟨payload, now, (Option.some.inj (entries_frame hf)).symm, hmade⟩)

theorem socket_writes (h : p.Invariant) (e : SocketEvent) {f : Nat × Dict}
    (hf : f ∈ p.ws.entries (p.ws.frameOf p.sessionId e.client)) :
    (p.step (.socket e)).Writes f.2 := by
  have hframe := entries_frame hf
  cases e with
  | heartbeatTick =>
    unfold SocketEvent.client WsClient.frameOf at hframe
    dsimp only at hframe
    split at hframe
    · exact .inl (Option.some.inj hframe).symm
    · exact nomatch hframe
  | message i msg now =>
    unfold SocketEvent.client WsClient.frameOf at hframe
    dsimp only at hframe
    cases msg with
    | ping =>
      dsimp only at hframe
      split at hframe
      · exact .inr (.inl (Option.some.inj hframe).symm)
      · exact nomatch hframe
    -- the acknowledgement, and the handler has the flag by then
    | killSwitch reason flagId hflag =>
      dsimp only at hframe
      split at hframe
      case isFalse => exact nomatch hframe
      case isTrue hopen =>
        refine .inr (.inr ⟨.killSwitchAck ⟨flagId⟩, now, ?_, ?_⟩)
        · rw [step_sessionId]
          exact (Option.some.inj hframe).symm
        · apply Made.ack
          have hcall : p.ws.killSwitchCall (.message i (.killSwitch reason flagId hflag) now) =
              some ⟨reason, flagId, hflag⟩ := if_pos hopen
          show flagId ∈ (p.onSocket _).killSwitch.handledFlagIds
          rw [(onSocket_after h.started).killSwitch, killed_some hcall]
          exact onKillSwitch_handles
    | ack => exact nomatch hframe
    | policyUpdate => exact nomatch hframe
    | unrecognised => exact nomatch hframe
  -- no other event of the connection writes
  | _ => exact nomatch hframe

/-- **A page writes nothing it has not made.** -/
theorem step_writes (h : p.Invariant) (hwrites : ∀ f ∈ p.ws.sent, p.Writes f.2) :
    ∀ f ∈ (p.step i).ws.sent, (p.step i).Writes f.2 := by
  rw [step_ws, WsClient.forall_sent_iff (P := (p.step i).Writes)]
  refine ⟨fun f hf => (hwrites f hf).step h, ?_⟩
  rw [← step_sessionId (e := i)]
  cases i with
  | errored socket => trivial
  | socket e =>
    refine ⟨fun f hf => ?_, trivial⟩
    rw [step_sessionId] at hf
    exact socket_writes h e hf
  | dom e now =>
    refine ⟨fun f hf => ?_, trivial⟩
    exact .inr (.inr ⟨_, now, (Option.some.inj (entries_frame hf)).symm, .dom e⟩)
  | init outcome => trivial
  | frame id f clock => exact eachStep_sends_writes fun payload h => framePayloads_made h
  | beforeunload => trivial

/-! ## 5. The page of every run

What the invariant says in the words of somebody who looks at the page, without the parts that only
the induction needs. -/

/-- What is true of a page whatever happens to it. -/
structure Sound (p : ExamPage) : Prop where
  shown : p.statusUI = updateStatusUI p.ws.status
  sockets : p.ws.liveSockets ≤ 1 ∧ p.ws.timeouts.length ≤ 1
  loop : p.ws.openSocket.isSome → p.captureLoop.isSome
  one : ∀ c ∈ p.captureLoop, c.streams ≤ 1 ∧ c.live.length ≤ 1 ∧ c.detectors.length ≤ 1 ∧
    c.requested.length ≤ 1
  overlays : p.overlays.length = p.killSwitch.handledFlagIds.length ∧
    p.killSwitch.handledFlagIds.Nodup
  ended : p.overlays ≠ [] → p.ws.isTerminal = true
  writes : ∀ f ∈ p.ws.sent, p.Writes f.2

theorem Invariant.sound (h : p.Invariant) (hwrites : ∀ f ∈ p.ws.sent, p.Writes f.2) :
    p.Sound where
  shown := h.shown
  sockets := ⟨h.connection.liveSockets_le, h.connection.timeouts_le⟩
  loop := by
    intro hopen
    obtain ⟨i, hi⟩ := Option.isSome_iff_exists.mp hopen
    rw [← h.started]
    exact h.opened i (by simpa using (Option.filter_eq_some_iff.mp hi).2)
  one := by
    intro c hc
    obtain ⟨hstreams, hlive, hdetectors, hrequested⟩ := h.once c hc
    refine ⟨?_, ?_, ?_, ?_⟩ <;> omega
  overlays := ⟨h.overlays, h.distinct⟩
  ended := by
    intro hne
    apply h.ended
    rw [← List.length_pos_iff, ← h.overlays]
    exact List.length_pos_iff.mpr hne
  writes := hwrites

/-- **Whatever happens to a page, it shows the state of its connection, holds one camera at most,
    locks once for each flag, and writes nothing it has not made.** -/
theorem page_sound (sessionId : SessionId) (sessionToken : List Char)
    (creationError : Option String) (is : List PageInput) :
    Run.Always step Sound (booted sessionId sessionToken creationError) is := by
  have hnone : (booted sessionId sessionToken creationError).ws.sent = [] := by
    rw [booted_eq]
    exact WsClient.connect_sent
  refine (Run.always_of_step (I := fun p => p.Invariant ∧ ∀ f ∈ p.ws.sent, p.Writes f.2) ?_
    ⟨invariant_booted, ?_⟩).mono fun p h => h.1.sound h.2
  · exact fun p i h => ⟨h.1.step i, step_writes h.1 h.2⟩
  · rw [hnone]
    exact List.forall_mem_nil _

end

end ExamPage

end ProctorEngine.Browser
