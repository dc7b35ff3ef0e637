import ProctorEngine.Browser.Envelope

/-!
# `WsClient`

The client's connection as a state machine over the events of the page: calls of its methods,
timers, and what the browser reports on a socket. A socket is its position in the list of the
sockets made so far; the callbacks are bound to the client and not to the socket, so **every
frame goes to the socket the client currently holds**, whichever socket the event came from.

The frames are kept as the log `sent`, each with the socket it went to.
-/

set_option autoImplicit false

namespace ProctorEngine.Browser

/-- `WebSocket.readyState`. -/
inductive ReadyState where
  | connecting | open | closing | closed
deriving DecidableEq, Repr

inductive WSStatus where
  | connecting | connected | reconnecting | disconnectedTerminal
deriving DecidableEq, Repr

/-- A message of the server as the client reads it. -/
inductive ServerMessage where
  /-- The exact text `{"type":"ping"}`. -/
  | ping
  | ack
  | killSwitch (reason flagId : String) (flagIdNonempty : flagId ≠ "")
  | policyUpdate
  /-- Whatever `parseServerMessage` returns `null` for. -/
  | unrecognised

/-- The session id of a launch, which `consumeRedirectFragment` refuses to be empty. -/
abbrev SessionId := { s : String // s ≠ "" }

structure WsClient where
  sockets : List ReadyState
  /-- `this.ws` -/
  ws : Option Nat
  status : WSStatus
  reconnectAttempt : Nat
  /-- The timeouts that have not fired, and `this.reconnectTimer`. -/
  timeouts : List Nat
  timeoutsMade : Nat
  reconnectTimer : Option Nat
  /-- Whether `this.pingTimer` is a live interval. -/
  pingTimer : Bool
  isTerminal : Bool
  /-- `handledFlagIds` of the kill-switch handler. -/
  handledFlagIds : List String
  sent : List (Nat × Dict)

inductive ClientEvent where
  /-- `connect()`; whether `new WebSocket` throws. -/
  | connect (throws : Bool)
  | disconnect
  | send (payload : ClientPayload) (capturedAt : Option UtcTime) (now : UtcTime)
  /-- The interval of the heartbeat fires. -/
  | heartbeatTick
  /-- The timeout of a scheduled reconnect fires. -/
  | reconnectTimeout (timeout : Nat) (throws : Bool)
  | opened (socket : Nat)
  | message (socket : Nat) (msg : ServerMessage) (now : UtcTime)
  /-- A close is under way on a socket. -/
  | closing (socket : Nat)
  | closed (socket : Nat) (code : Nat)

namespace WsClient

/-- A client as constructed. -/
def new : WsClient where
  sockets := []
  ws := none
  status := .disconnectedTerminal
  reconnectAttempt := 0
  timeouts := []
  timeoutsMade := 0
  reconnectTimer := none
  pingTimer := false
  isTerminal := false
  handledFlagIds := []
  sent := []

/-- `this.ws?.readyState === WebSocket.OPEN`, with the socket. -/
def openSocket (s : WsClient) : Option Nat :=
  s.ws.filter fun i => s.sockets[i]? = some .open

/-- `this.ws.send` behind the `readyState` guard. -/
def emit (s : WsClient) (frame : Dict) : WsClient :=
  match s.openSocket with
  | some i => { s with sent := s.sent ++ [(i, frame)] }
  | none => s

def stopHeartbeat (s : WsClient) : WsClient := { s with pingTimer := false }

def startHeartbeat (s : WsClient) : WsClient := { s.stopHeartbeat with pingTimer := true }

def handleTerminalDisconnect (s : WsClient) : WsClient :=
  { s with isTerminal := true, status := .disconnectedTerminal }

def connect (s : WsClient) (throws : Bool) : WsClient :=
  if s.isTerminal then s
  else if throws then handleTerminalDisconnect { s with status := .connecting }
  else { s with
    status := .connecting
    sockets := s.sockets ++ [.connecting]
    ws := some s.sockets.length }

def clearReconnect (s : WsClient) : WsClient :=
  match s.reconnectTimer with
  | some t => { s with timeouts := s.timeouts.erase t, reconnectTimer := none }
  | none => s

def setReadyState (s : WsClient) (socket : Nat) (state : ReadyState) : WsClient :=
  { s with sockets := s.sockets.set socket state }

/-- `close()`, or the server's close arriving: a socket that is not closed yet is closing. -/
def startClosing (s : WsClient) (socket : Nat) : WsClient :=
  if s.sockets[socket]? = some .connecting ∨ s.sockets[socket]? = some .open then
    s.setReadyState socket .closing
  else s

def disconnect (s : WsClient) : WsClient :=
  let s := clearReconnect (stopHeartbeat { s with isTerminal := true })
  match s.ws with
  | some i => { s.startClosing i with ws := none, status := .disconnectedTerminal }
  | none => { s with status := .disconnectedTerminal }

/-- `send` of what `buildEnvelope` builds. -/
def send (s : WsClient) (sessionId : SessionId) (payload : ClientPayload)
    (capturedAt : Option UtcTime) (now : UtcTime) : WsClient :=
  s.emit (buildEnvelope payload sessionId.val capturedAt now)

def handleOpen (s : WsClient) : WsClient :=
  startHeartbeat { s with reconnectAttempt := 0, status := .connected }

/-- `handleKillSwitch`: the overlay and the evidence are for a flag's first delivery, the
    acknowledgement is for every one. -/
def handleKillSwitch (s : WsClient) (sessionId : SessionId) (flagId : String) (now : UtcTime) :
    WsClient :=
  if flagId ∈ s.handledFlagIds then s.send sessionId (.killSwitchAck ⟨flagId⟩) none now
  else { s with handledFlagIds := flagId :: s.handledFlagIds }.send sessionId
    (.killSwitchAck ⟨flagId⟩) none now

def handleMessage (s : WsClient) (sessionId : SessionId) (now : UtcTime) :
    ServerMessage → WsClient
  | .ping => s.emit [("type", .str "pong")]
  | .killSwitch _ flagId _ => { s with isTerminal := true }.handleKillSwitch sessionId flagId now
  | .ack | .policyUpdate | .unrecognised => s

def scheduleReconnect (s : WsClient) : WsClient :=
  if s.isTerminal then s
  else { s with
    status := .reconnecting
    reconnectAttempt := s.reconnectAttempt + 1
    timeouts := s.timeoutsMade :: s.timeouts
    timeoutsMade := s.timeoutsMade + 1
    reconnectTimer := some s.timeoutsMade }

def handleClose (s : WsClient) (code : Nat) : WsClient :=
  let s := { s.stopHeartbeat with ws := none }
  if s.isTerminal then { s with status := .disconnectedTerminal }
  else if 4000 ≤ code ∧ code < 5000 then s.handleTerminalDisconnect
  else s.scheduleReconnect

/-- One event of the page. An event whose cause is not there — a tick of a cleared interval,
    an opening of a socket that is not connecting — does nothing. -/
def step (sessionId : SessionId) (s : WsClient) : ClientEvent → WsClient
  | .connect throws => s.connect throws
  | .disconnect => s.disconnect
  | .send payload capturedAt now => s.send sessionId payload capturedAt now
  | .heartbeatTick => if s.pingTimer then s.emit [("type", .str "ping")] else s
  | .reconnectTimeout t throws =>
    if t ∈ s.timeouts then { s with timeouts := s.timeouts.erase t }.connect throws else s
  | .opened i =>
    if s.sockets[i]? = some .connecting then (s.setReadyState i .open).handleOpen else s
  | .message i msg now =>
    if s.sockets[i]? = some .open then s.handleMessage sessionId now msg else s
  | .closing i => s.startClosing i
  | .closed i code =>
    if i < s.sockets.length ∧ s.sockets[i]? ≠ some .closed then
      (s.setReadyState i .closed).handleClose code
    else s

end WsClient

end ProctorEngine.Browser
