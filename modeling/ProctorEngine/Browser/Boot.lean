import ProctorEngine.Browser.CaptureLifecycle
import ProctorEngine.Browser.KillSwitch
import ProctorEngine.Browser.Redirect
import ProctorEngine.Browser.TerminalConnection
import ProctorEngine.Browser.WireAgreement

/-!
# `boot`

`main.ts` makes one page of the parts: the connection, the capture loop, the kill-switch handler and
the listeners, with the rolling buffer and the two displays between them. The parts know little of
one another. The loop starts with the first connection that opens, hands over what it captures
whether or not a connection is there to take it, and is stopped by the unload; the kill-switch and
the end of the connection never reach it. **So the wire and the camera are two machines under one
clock**, and a run of the page is a run of each.

Here are the two projections. A thing that happens to the page is a list of events of the client and
at most one event of the loop.

The callbacks that `main.ts` registers are functions of the page, and an event of the connection is
the client's own step with the callbacks called on the way: the kill-switch handler first, then a
status change for each status the client goes through, then the end of the connection. What the
client calls in a step is read off its state before the step (`setStatuses`, `killSwitchCall`,
`disconnectReason`), since the client of `WsClient` knows no callbacks.

The error display is the one part of the page that no statement here looks at. Every other part is
determined by the projections.
-/

set_option autoImplicit false

namespace ProctorEngine.Browser

/-! ## 1. What happens to a page

The inputs of a page: what the browser reports to the connection, to the listeners and to the loop,
and the unload. -/

/-- What `attachBrowserEventListeners` listens to, with what the listeners read. -/
inductive DomEvent where
  | visibilitychange (hidden : Bool)
  | blur
  | focus
  | fullscreenchange (isFullscreen : Bool)
  | copy
  | paste
  | contextmenu (tagName : Option String)

namespace DomEvent

def eventType : DomEvent → String
  | .visibilitychange _ => "visibilitychange"
  | .blur => "blur"
  | .focus => "focus"
  | .fullscreenchange _ => "fullscreenchange"
  | .copy => "copy"
  | .paste => "paste"
  | .contextmenu _ => "contextmenu"

def detail : DomEvent → Dict
  | .visibilitychange hidden => [("hidden", .bool hidden)]
  | .blur | .focus => [("relatedTarget", .null)]
  | .fullscreenchange isFullscreen => [("is_fullscreen", .bool isFullscreen)]
  | .copy | .paste => []
  | .contextmenu tagName => [("target", .str (tagName.getD "unknown"))]

theorem eventType_valid (e : DomEvent) : e.eventType ∈ validBrowserEvents := by
  cases e <;> simp [eventType, validBrowserEvents]

def payload (e : DomEvent) : TelemetryBrowserEventPayload where
  eventType := ⟨e.eventType, e.eventType_valid⟩
  detail := e.detail

end DomEvent

/-- What the browser reports to the connection. A socket that cannot be made says why. -/
inductive SocketEvent where
  | heartbeatTick
  | reconnectTimeout (timeout : Nat) (creationError : Option String)
  | opened (socket : Nat)
  | message (socket : Nat) (msg : ServerMessage) (now : UtcTime)
  | closing (socket : Nat)
  | closed (socket : Nat) (code : Nat) (reason : String)

def SocketEvent.client : SocketEvent → ClientEvent
  | .heartbeatTick => .heartbeatTick
  | .reconnectTimeout timeout creationError => .reconnectTimeout timeout creationError.isSome
  | .opened socket => .opened socket
  | .message socket msg now => .message socket msg now
  | .closing socket => .closing socket
  | .closed socket code _ => .closed socket code

/-- How what `start()` awaits is settled. -/
inductive InitOutcome where
  | mediaReady
  | mediaFailed (e : MediaCaptureError)
  | inferenceReady (now : ℚ)
  | inferenceFailed

def InitOutcome.capture : InitOutcome → CaptureEvent
  | .mediaReady => .mediaReady
  | .mediaFailed e => .mediaFailed e
  | .inferenceReady now => .inferenceReady now
  | .inferenceFailed => .inferenceFailed

/-- A picture of a canvas: one with a side of nought encodes to no data. -/
structure VideoFrame extends AnimationFrame where
  encoded : videoWidth = 0 ∨ videoHeight = 0 → jpegBase64 = none ∨ jpegBase64 = some ""

inductive PageInput where
  | errored (socket : Nat)
  | socket (e : SocketEvent)
  | dom (e : DomEvent) (now : UtcTime)
  | init (outcome : InitOutcome)
  /-- An animation frame, with the instants its envelopes are stamped with. -/
  | frame (id : Nat) (f : VideoFrame) (clock : ClientPayload → UtcTime)
  | beforeunload

/-! ## 2. The displays

The status line shows the last status, and a status that does not change is not reported. -/

def WSStatus.name : WSStatus → String
  | .connecting => "connecting"
  | .connected => "connected"
  | .reconnecting => "reconnecting"
  | .disconnectedTerminal => "disconnected_terminal"

/-- The class of `status-dot` and the text of `status-text`. -/
structure StatusUI where
  className : String
  textContent : String
deriving DecidableEq

def updateStatusUI (status : WSStatus) : StatusUI where
  className := "dot " ++ status.name
  textContent :=
    match status with
    | .connecting => "Connecting…"
    | .connected => "Connected"
    | .reconnecting => "Reconnecting…"
    | .disconnectedTerminal => "Disconnected"

namespace WsClient

/-- The calls of `setStatus` in `connect`. -/
def connectStatuses (s : WsClient) (throws : Bool) : List WSStatus :=
  if s.isTerminal then []
  else if throws then [.connecting, .disconnectedTerminal]
  else [.connecting]

/-- The calls of `setStatus` in a step. -/
def setStatuses (s : WsClient) : ClientEvent → List WSStatus
  | .connect throws => s.connectStatuses throws
  | .disconnect => [.disconnectedTerminal]
  | .reconnectTimeout t throws => if t ∈ s.timeouts then s.connectStatuses throws else []
  | .opened i => if s.sockets[i]? = some .connecting then [.connected] else []
  | .closed i code =>
    if i < s.sockets.length ∧ s.sockets[i]? ≠ some .closed then
      if s.isTerminal ∨ 4000 ≤ code ∧ code < 5000 then [.disconnectedTerminal] else [.reconnecting]
    else []
  | .send .. | .heartbeatTick | .message .. | .closing _ => []

/-- The call of `onKillSwitch` in a step. -/
def killSwitchCall (s : WsClient) : SocketEvent → Option KillSwitchPayload
  | .message i (.killSwitch reason flagId flagIdNonempty) _ =>
    if s.sockets[i]? = some .open then some ⟨reason, flagId, flagIdNonempty⟩ else none
  | _ => none

/-- The reason `onDisconnect` is called with in a step. -/
def disconnectReason (s : WsClient) : SocketEvent → Option String
  | .reconnectTimeout t (some message) =>
    if t ∈ s.timeouts ∧ s.isTerminal = false then some ("WebSocket creation failed: " ++ message)
    else none
  | .closed i code reason =>
    if (i < s.sockets.length ∧ s.sockets[i]? ≠ some .closed) ∧ s.isTerminal = false ∧
        4000 ≤ code ∧ code < 5000 then
      some ("Authentication or session error (" ++ toString code ++ "): " ++ reason)
    else none
  | _ => none

end WsClient

/-- `setStatus` calls `onStatusChange` where the status becomes another. -/
def statusChanges : WSStatus → List WSStatus → List WSStatus
  | _, [] => []
  | s, t :: ts => if t = s then statusChanges s ts else t :: statusChanges t ts

/-! ## 3. The page

The parts in one record. The loop and the kill-switch handler share one rolling buffer, which is
kept with the handler and lent to the loop for a step. -/

structure ExamPage where
  sessionId : SessionId
  sessionToken : List Char
  ws : WsClient
  captureLoop : Option CaptureLoop
  captureLoopStarted : Bool
  /-- The document, the flags handled so far, and the one rolling buffer. -/
  killSwitch : KillSwitchPage
  statusUI : StatusUI
  errorDisplay : Option String
  /-- The messages of the overlays added to the body. -/
  overlays : List String

namespace ExamPage

/-- `index.html` with the launch read and nothing connected. -/
def launched (sessionId : SessionId) (sessionToken : List Char) : ExamPage where
  sessionId := sessionId
  sessionToken := sessionToken
  ws := .new
  captureLoop := none
  captureLoopStarted := false
  killSwitch := .boot
  statusUI := ⟨"dot connecting", "Connecting…"⟩
  errorDisplay := none
  overlays := []

def showError (p : ExamPage) (msg : String) : ExamPage := { p with errorDisplay := some msg }

/-- The configuration `startCaptureLoopOnce` gives the loop. -/
def captureConfig : CaptureLoopConfig := ⟨some 2500, some 15, some 1000⟩

def startCaptureLoopOnce (p : ExamPage) : ExamPage :=
  if p.captureLoopStarted then p
  else { p with
    captureLoopStarted := true
    captureLoop := some (CaptureLoop.new p.killSwitch.rollingBuffer captureConfig).start }

def onStatusChange (p : ExamPage) (status : WSStatus) : ExamPage :=
  if status = .connected then
    { p with statusUI := updateStatusUI status }.startCaptureLoopOnce
  else { p with statusUI := updateStatusUI status }

def onKillSwitch (p : ExamPage) (payload : KillSwitchPayload) : ExamPage :=
  { p with
    killSwitch := (p.killSwitch.handleKillSwitch payload).1
    overlays := p.overlays ++
      (p.killSwitch.handleKillSwitch payload).2.2.filterMap fun
        | .lock message => some message
        | .drain _ | .ack _ => none }

def onDisconnect (p : ExamPage) (reason : String) : ExamPage :=
  p.showError ("Disconnected: " ++ reason)

/-- `ws.connect()`, with why no socket could be made. -/
def connect (p : ExamPage) (creationError : Option String) : ExamPage :=
  let changed := (statusChanges p.ws.status (p.ws.connectStatuses creationError.isSome)).foldl
    onStatusChange { p with ws := p.ws.connect creationError.isSome }
  match creationError with
  | none => changed
  | some message =>
    if p.ws.isTerminal then changed
    else changed.onDisconnect ("WebSocket creation failed: " ++ message)

/-- The page after the callback of the kill-switch has had its turn. -/
def killed (p : ExamPage) (e : SocketEvent) : ExamPage :=
  (p.ws.killSwitchCall e).elim p p.onKillSwitch

/-- The statuses an event of the connection shows. -/
def shown (p : ExamPage) (e : SocketEvent) : List WSStatus :=
  statusChanges p.ws.status (p.ws.setStatuses e.client)

/-- The page `boot` makes of a launch. -/
def booted (sessionId : SessionId) (sessionToken : List Char) (creationError : Option String) :
    ExamPage :=
  (launched sessionId sessionToken).connect creationError

/-- An event of the connection, with the calls it makes of the three callbacks. -/
def onSocket (p : ExamPage) (e : SocketEvent) : ExamPage :=
  let changed := (p.shown e).foldl onStatusChange
    { p.killed e with ws := p.ws.step p.sessionId e.client }
  (p.ws.disconnectReason e).elim changed changed.onDisconnect

/-- The loop takes a step, on the buffer it shares with the kill-switch handler. -/
def runLoop (p : ExamPage) (e : CaptureEvent) : ExamPage :=
  match p.captureLoop with
  | none => p
  | some c =>
    let c := { c with rollingBuffer := p.killSwitch.rollingBuffer }.step e
    { p with
      captureLoop := some c
      killSwitch := { p.killSwitch with rollingBuffer := c.rollingBuffer } }

/-- Whether the `start()` that is suspended is rejected. -/
def initFails (p : ExamPage) : InitOutcome → Bool
  | .mediaFailed _ => p.captureLoop.any (·.starting = some .media)
  | .inferenceFailed => p.captureLoop.any fun c =>
      match c.starting with
      | some (.inference _) => true
      | some .media | none => false
  | .mediaReady | .inferenceReady _ => false

/-- `start()` goes on. What it throws has one message, whatever the cause. -/
def onInit (p : ExamPage) (outcome : InitOutcome) : ExamPage :=
  if p.initFails outcome then
    (p.runLoop outcome.capture).showError ("Camera/init error: Failed to start capture loop. " ++
      "Reload the page or check camera permissions.")
  else p.runLoop outcome.capture

/-- What the loop hands to `ws.send` in an animation frame. -/
def framePayloads (p : ExamPage) (id : Nat) (f : VideoFrame) : List ClientPayload :=
  p.captureLoop.elim [] fun c => (c.runFrame id f.toAnimationFrame).sent.drop c.sent.length

def sends (payloads : List ClientPayload) (clock : ClientPayload → UtcTime) : List ClientEvent :=
  payloads.map fun payload => .send payload none (clock payload)

def onFrame (p : ExamPage) (id : Nat) (f : VideoFrame) (clock : ClientPayload → UtcTime) :
    ExamPage :=
  { p.runLoop (.frame id f.toAnimationFrame) with
    ws := Run.final (WsClient.step p.sessionId) p.ws (sends (p.framePayloads id f) clock) }

def step (p : ExamPage) : PageInput → ExamPage
  | .errored _ => { p with ws := p.ws.handleError }
  | .socket e => p.onSocket e
  | .dom e now => { p with ws := p.ws.send p.sessionId (.browserEvent e.payload) none now }
  | .init outcome => p.onInit outcome
  | .frame id f clock => p.onFrame id f clock
  | .beforeunload => p.runLoop .stop

end ExamPage

/-- `boot`: what is shown where the launch cannot be read, or the page it makes. -/
def boot (location : PageLocation) (creationError : Option String) :
    Except String (ExamPage × PageLocation) :=
  match h : consumeRedirectFragment location with
  | .error e => .error ("Launch error: " ++ e.message ++ ". Please relaunch from your LMS.")
  | .ok (params, location') =>
    have hid : String.ofList params.sessionId ≠ "" := by
      intro hempty
      exact (consumeRedirectFragment_nonempty h).2 (by simpa using hempty)
    .ok (ExamPage.booted ⟨String.ofList params.sessionId, hid⟩ params.sessionToken creationError,
      location')

/-! ## 4. The two projections

`step_ws` and `step_captureLoop` are the two; what is proved of the client alone or of the loop
alone holds of a page through them. -/

namespace ExamPage

/-- The events of the client in what happens to the page. -/
def clientEvents (p : ExamPage) : PageInput → List ClientEvent
  | .errored _ | .init _ | .beforeunload => []
  | .socket e => [e.client]
  | .dom e now => [.send (.browserEvent e.payload) none now]
  | .frame id f clock => sends (p.framePayloads id f) clock

/-- The event of the loop. -/
def captureEvent : PageInput → Option CaptureEvent
  | .errored _ | .socket _ | .dom .. => none
  | .init outcome => some outcome.capture
  | .frame id f _ => some (.frame id f.toAnimationFrame)
  | .beforeunload => some .stop

section
variable {p : ExamPage} {e : PageInput} {sessionId : SessionId} {sessionToken : List Char}
  {creationError : Option String}

/-- A page that `boot` has made is connecting, or has no socket and shows why. -/
theorem booted_eq :
    booted sessionId sessionToken creationError =
      { launched sessionId sessionToken with
        ws := WsClient.new.connect creationError.isSome
        statusUI := updateStatusUI (WsClient.new.connect creationError.isSome).status
        errorDisplay := creationError.map fun message =>
          "Disconnected: " ++ ("WebSocket creation failed: " ++ message) } := by
  cases creationError with
  | none => rfl
  | some message => rfl

theorem startCaptureLoopOnce_again :
    p.startCaptureLoopOnce.startCaptureLoopOnce = p.startCaptureLoopOnce := by
  unfold startCaptureLoopOnce
  split <;> rfl

theorem startCaptureLoopOnce_statusUI {ui : StatusUI} :
    { p with statusUI := ui }.startCaptureLoopOnce =
      { p.startCaptureLoopOnce with statusUI := ui } := by
  unfold startCaptureLoopOnce
  split <;> rfl

theorem startCaptureLoopOnce_ws {ws : WsClient} :
    { p with ws }.startCaptureLoopOnce = { p.startCaptureLoopOnce with ws } := by
  unfold startCaptureLoopOnce
  split <;> rfl

/-- A run of status changes shows the last of them, and starts the loop if the connection has
    opened. -/
theorem foldl_onStatusChange {ts : List WSStatus} :
    ts.foldl onStatusChange p =
      { (if .connected ∈ ts then p.startCaptureLoopOnce else p) with
        statusUI := (ts.map updateStatusUI).getLastD p.statusUI } := by
  induction ts generalizing p with
  | nil => rfl
  | cons t ts ih =>
    rw [List.foldl_cons, ih, List.map_cons, List.getLastD_cons]
    by_cases ht : t = .connected
    · have hnext : p.onStatusChange t =
          { p.startCaptureLoopOnce with statusUI := updateStatusUI t } :=
        (if_pos ht).trans startCaptureLoopOnce_statusUI
      rw [hnext, startCaptureLoopOnce_statusUI, startCaptureLoopOnce_again, ht,
        if_pos List.mem_cons_self, ite_self]
    · have hmem : WSStatus.connected ∈ t :: ts ↔ WSStatus.connected ∈ ts := by
        rw [List.mem_cons, or_iff_right (Ne.symm ht)]
      rw [show p.onStatusChange t = { p with statusUI := updateStatusUI t } from if_neg ht,
        startCaptureLoopOnce_statusUI]
      simp only [hmem]
      split <;> rfl

/-- The parts of a page that the loop has nothing to do with. -/
structure OffLoop (p q : ExamPage) : Prop where
  sessionId : q.sessionId = p.sessionId
  ws : q.ws = p.ws
  captureLoopStarted : q.captureLoopStarted = p.captureLoopStarted
  handledFlagIds : q.killSwitch.handledFlagIds = p.killSwitch.handledFlagIds
  statusUI : q.statusUI = p.statusUI
  overlays : q.overlays = p.overlays

theorem runLoop_offLoop {e : CaptureEvent} : OffLoop p (p.runLoop e) := by
  unfold runLoop
  split
  · exact ⟨rfl, rfl, rfl, rfl, rfl, rfl⟩
  · exact ⟨rfl, rfl, rfl, rfl, rfl, rfl⟩

theorem runLoop_captureLoop {e : CaptureEvent} :
    (p.runLoop e).captureLoop = p.captureLoop.map fun c =>
      { c with rollingBuffer := p.killSwitch.rollingBuffer }.step e := by
  unfold runLoop
  cases hloop : p.captureLoop with
  | none => exact hloop
  | some c => rfl

theorem onInit_offLoop {outcome : InitOutcome} : OffLoop p (p.onInit outcome) := by
  have h := runLoop_offLoop (p := p) (e := outcome.capture)
  unfold onInit
  split
  · exact ⟨h.sessionId, h.ws, h.captureLoopStarted, h.handledFlagIds, h.statusUI, h.overlays⟩
  · exact h

theorem onInit_captureLoop {outcome : InitOutcome} :
    (p.onInit outcome).captureLoop = (p.runLoop outcome.capture).captureLoop := by
  unfold onInit
  split <;> rfl

theorem killed_statusUI {e : SocketEvent} : (p.killed e).statusUI = p.statusUI := by
  unfold killed
  cases p.ws.killSwitchCall e <;> rfl

/-- What an event of the connection does to the page, but for the errors it shows. -/
theorem onSocket_eq {e : SocketEvent} :
    ∃ errorDisplay, p.onSocket e =
      { (if .connected ∈ p.shown e then (p.killed e).startCaptureLoopOnce else p.killed e) with
        ws := p.ws.step p.sessionId e.client
        statusUI := ((p.shown e).map updateStatusUI).getLastD p.statusUI
        errorDisplay } := by
  have hchanged : (p.shown e).foldl onStatusChange
      { p.killed e with ws := p.ws.step p.sessionId e.client } =
      { (if .connected ∈ p.shown e then (p.killed e).startCaptureLoopOnce else p.killed e) with
        ws := p.ws.step p.sessionId e.client
        statusUI := ((p.shown e).map updateStatusUI).getLastD p.statusUI } := by
    have hui : (p.killed e).statusUI = p.statusUI := killed_statusUI
    rw [foldl_onStatusChange, ← hui]
    by_cases hconnected : .connected ∈ p.shown e
    · rw [if_pos hconnected, if_pos hconnected, startCaptureLoopOnce_ws]
    · rw [if_neg hconnected, if_neg hconnected]
  unfold onSocket
  dsimp only
  rw [hchanged]
  cases p.ws.disconnectReason e with
  | none => exact ⟨_, rfl⟩
  | some reason => exact ⟨_, rfl⟩

theorem startCaptureLoopOnce_sessionId : p.startCaptureLoopOnce.sessionId = p.sessionId := by
  unfold startCaptureLoopOnce
  split <;> rfl

theorem killed_sessionId {e : SocketEvent} : (p.killed e).sessionId = p.sessionId := by
  unfold killed
  cases p.ws.killSwitchCall e <;> rfl

theorem step_sessionId : (p.step e).sessionId = p.sessionId := by
  cases e with
  | errored i => rfl
  | socket e =>
    obtain ⟨errorDisplay, heq⟩ := onSocket_eq (p := p) (e := e)
    show (p.onSocket e).sessionId = _
    rw [heq]
    show (if _ then _ else _ : ExamPage).sessionId = _
    split
    · exact startCaptureLoopOnce_sessionId.trans killed_sessionId
    · exact killed_sessionId
  | dom e now => rfl
  | init outcome => exact onInit_offLoop.sessionId
  | frame id f clock => exact runLoop_offLoop.sessionId
  | beforeunload => exact runLoop_offLoop.sessionId

/-- **On the wire a page is a client**, to which the events of the page are its own. -/
theorem step_ws :
    (p.step e).ws = Run.final (WsClient.step p.sessionId) p.ws (p.clientEvents e) := by
  cases e with
  | errored i => rfl
  | socket e =>
    obtain ⟨errorDisplay, heq⟩ := onSocket_eq (p := p) (e := e)
    show (p.onSocket e).ws = _
    rw [heq]
    rfl
  | dom e now => rfl
  | init outcome => exact onInit_offLoop.ws
  | frame id f clock => rfl
  | beforeunload => exact runLoop_offLoop.ws

theorem killed_captureLoop {e : SocketEvent} : (p.killed e).captureLoop = p.captureLoop := by
  unfold killed
  cases p.ws.killSwitchCall e <;> rfl

theorem killed_captureLoopStarted {e : SocketEvent} :
    (p.killed e).captureLoopStarted = p.captureLoopStarted := by
  unfold killed
  cases p.ws.killSwitchCall e <;> rfl

/-- The loop that the first connection starts. -/
def startedLoop (rollingBuffer : RollingBuffer) : CaptureLoop :=
  (CaptureLoop.new rollingBuffer captureConfig).start

/-- **Before the camera a page is a loop**: what happens to the page is an event of the loop or
    nothing to it, unless it is the connection that opens and starts it. -/
theorem step_captureLoop :
    (p.step e).captureLoop = p.captureLoop.map (fun c =>
        ((captureEvent e).map { c with rollingBuffer := p.killSwitch.rollingBuffer }.step).getD c) ∨
      p.captureLoopStarted = false ∧ ∃ b, (p.step e).captureLoop = some (startedLoop b) := by
  cases e with
  | errored i => exact .inl (by simp [captureEvent, step])
  | socket e =>
    obtain ⟨errorDisplay, heq⟩ := onSocket_eq (p := p) (e := e)
    show (p.onSocket e).captureLoop = _ ∨ _ ∧ ∃ b, (p.onSocket e).captureLoop = _
    rw [heq]
    -- The loop starts on the first connection of the page, and on no later one.
    by_cases hopened : .connected ∈ p.shown e ∧ p.captureLoopStarted = false
    · refine .inr ⟨hopened.2, (p.killed e).killSwitch.rollingBuffer, ?_⟩
      show (if _ then _ else _ : ExamPage).captureLoop = _
      rw [if_pos hopened.1]
      unfold startCaptureLoopOnce
      rw [killed_captureLoopStarted, hopened.2]
      rfl
    · left
      have hkept : (p.killed e).captureLoop = p.captureLoop.map fun c => c := by
        rw [Option.map_id', killed_captureLoop]
      show (if _ then _ else _ : ExamPage).captureLoop = _
      split
      case isFalse => exact hkept
      case isTrue hconnected =>
        unfold startCaptureLoopOnce
        rw [killed_captureLoopStarted, if_pos (by simpa [hconnected] using hopened)]
        exact hkept
  | dom e now => exact .inl (by simp [captureEvent, step])
  | init outcome => exact .inl (onInit_captureLoop.trans runLoop_captureLoop)
  | frame id f clock => exact .inl runLoop_captureLoop
  | beforeunload => exact .inl runLoop_captureLoop

theorem captureEvent_ne_start {i : PageInput} : captureEvent i ≠ some .start := by
  cases i with
  | init outcome => cases outcome <;> simp [captureEvent, InitOutcome.capture]
  | _ => simp [captureEvent]

/-- The rule for the loop: what holds when it has been started, of any buffer, and is kept by
    every step but another `start()`, holds of it. -/
theorem step_forall_loop {Q : CaptureLoop → Prop} (hstarted : ∀ b, Q (startedLoop b))
    (hbuffer : ∀ c b, Q c → Q { c with rollingBuffer := b })
    (hstep : ∀ c e, e ≠ .start → Q c → Q (c.step e)) (h : ∀ c ∈ p.captureLoop, Q c) :
    ∀ c ∈ (p.step e).captureLoop, Q c := by
  intro c hc
  rcases step_captureLoop (p := p) (e := e) with hloop | ⟨-, b, hloop⟩
  · rw [hloop, Option.mem_map] at hc
    obtain ⟨c, hc, rfl⟩ := hc
    cases hevent : captureEvent e with
    | none => exact h c hc
    | some e' =>
      apply hstep _ e' _ (hbuffer c _ (h c hc))
      rintro rfl
      exact captureEvent_ne_start hevent
  · rw [hloop, Option.mem_some_iff] at hc
    exact hc ▸ hstarted b

end

end ExamPage

section
variable {location location' : PageLocation} {page : ExamPage} {creationError : Option String}

/-- The page of a launch is the one that is booted with what the fragment says. -/
theorem boot_eq_booted (h : boot location creationError = .ok (page, location')) :
    ∃ params, ∃ hid : String.ofList params.sessionId ≠ "",
      consumeRedirectFragment location = .ok (params, location') ∧
        page = .booted ⟨String.ofList params.sessionId, hid⟩ params.sessionToken
          creationError := by
  unfold boot at h
  split at h
  case h_1 => exact nomatch h
  case h_2 params _ hread =>
    obtain ⟨rfl, rfl⟩ := Prod.mk.inj (Except.ok.inj h)
    exact ⟨params, _, hread, rfl⟩

/-- A page that is loaded again has no launch to read. -/
theorem boot_again {creationError' : Option String}
    (h : boot location creationError = .ok (page, location')) :
    boot location' creationError' =
      .error "Launch error: Missing URL fragment. Please relaunch from your LMS." := by
  obtain ⟨params, -, hread, -⟩ := boot_eq_booted h
  have hagain := consumeRedirectFragment_again hread
  unfold boot
  split
  case h_1 e herror =>
    obtain rfl := Except.error.inj (herror.symm.trans hagain)
    rfl
  case h_2 hok => exact nomatch hok.symm.trans hagain

end

end ProctorEngine.Browser
