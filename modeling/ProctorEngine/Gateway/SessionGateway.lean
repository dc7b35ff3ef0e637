import ProctorEngine.Gateway.SessionRouting
import ProctorEngine.Lib.Run

/-!
# `SessionGatewayDO`

The edge proxy: one socket to the browser, one to the origin, and six listeners between them. A
message on one goes to the other if that one is `OPEN`; a close event on one closes the other with
the same code; an error closes the other with 1011. Every listener swallows what it throws.

What `close` throws on is decided by the code, and the code of a close event is not always one that
`close` takes: a connection that drops reports 1006 and a close frame without a code 1005. **An
event with a reserved code reaches the listener and goes no further**, so the other socket stays
open; everything else about the proxy is as documented.

The two sides have the same three listeners, with their own texts, so a listener is a function of
the side, and a statement about one side is one about both (`Side.cases_other`). An event is
delivered to a socket by the runtime, which decides in which order events come and when a socket
that is closing is closed; the proxy has no say in it, and a run is any list of events. All that is
assumed is that nothing arrives on a socket after its close event.

The log of a socket has what arrived while both sockets were open and everything that was sent on
it. A message that arrives while the other socket is closing is not forwarded, and is not counted.
-/

set_option autoImplicit false

namespace ProctorEngine
namespace Gateway

/-! ## 1. Sockets

A socket with its log. `close` is the runtime's: it throws on four codes, and on an open socket it
begins the handshake. -/

/-- The data of a message event. -/
inductive MessageData where
  | text (s : String)
  | binary (bytes : List UInt8)
deriving DecidableEq, Repr

inductive ReadyState where
  | open | closing | closed
deriving DecidableEq, Repr

/-- A WebSocket with what has happened on it. -/
structure Socket where
  readyState : ReadyState
  /-- Its close event has fired. -/
  closed : Bool
  /-- An error event has fired. -/
  errored : Bool
  /-- What arrived on it while both sockets were open. -/
  received : List MessageData
  sent : List MessageData
  closedWith : Option (Nat × String)
deriving DecidableEq, Repr

namespace Socket

/-- After `accept`. -/
def accepted : Socket := ⟨.open, false, false, [], [], none⟩

def send (s : Socket) (data : MessageData) : Socket := { s with sent := s.sent ++ [data] }

/-- The codes `close` throws on. -/
def reservedCode (code : Nat) : Prop := code ∈ [1004, 1005, 1006, 1015]

instance {code : Nat} : Decidable (reservedCode code) := inferInstanceAs (Decidable (_ ∈ _))

/-- `close`, which throws or begins the closing handshake of an open socket. -/
def close (s : Socket) (code : Nat) (reason : String) : Option Socket :=
  if reservedCode code then none
  else if s.readyState = .open then
    some { s with readyState := .closing, closedWith := some (code, reason) }
  else some s

/-- `close` between `try` and `catch`. -/
def tryClose (s : Socket) (code : Nat) (reason : String) : Socket := (s.close code reason).getD s

section
variable {s : Socket} {code : Nat} {reason : String}

theorem tryClose_reserved (h : reservedCode code) : s.tryClose code reason = s := by
  simp [tryClose, close, h]

theorem tryClose_readyState (h : ¬ reservedCode code) :
    (s.tryClose code reason).readyState ≠ .open := by
  by_cases hopen : s.readyState = .open
  · simp [tryClose, close, h, hopen]
  · simp [tryClose, close, h, hopen]

/-- A socket is not opened by closing it. -/
theorem open_of_tryClose (h : (s.tryClose code reason).readyState = .open) :
    s.readyState = .open := by
  by_cases hcode : reservedCode code
  · rwa [tryClose_reserved hcode] at h
  · exact absurd h (tryClose_readyState hcode)

/-- What `close` leaves alone. -/
theorem tryClose_frame (s : Socket) (code : Nat) (reason : String) :
    (s.tryClose code reason).closed = s.closed ∧ (s.tryClose code reason).errored = s.errored ∧
      (s.tryClose code reason).received = s.received ∧
      (s.tryClose code reason).sent = s.sent := by
  unfold tryClose close
  split
  · exact ⟨rfl, rfl, rfl, rfl⟩
  · split <;> exact ⟨rfl, rfl, rfl, rfl⟩

end

end Socket

/-! ## 2. A connection

One step is an event and what its listener does to the other socket. -/

/-- `serverSocket` and `originWs`. -/
inductive Side where
  | server | origin
deriving DecidableEq, Repr

def Side.other : Side → Side
  | .server => .origin
  | .origin => .server

@[simp] theorem Side.other_other {side : Side} : side.other.other = side := by cases side <;> rfl

theorem Side.cases_other {P : Side → Prop} (side : Side) (h : P side) (h' : P side.other)
    (x : Side) : P x := by
  cases side <;> cases x <;> first
    | exact h
    | exact h'

structure Connection where
  serverSocket : Socket
  originWs : Socket
deriving DecidableEq, Repr

inductive SocketEvent where
  | message (side : Side) (data : MessageData)
  | close (side : Side) (code : Nat) (reason : String)
  /-- An error, which the connection may or may not survive. -/
  | error (side : Side) (fatal : Bool)
deriving DecidableEq, Repr

namespace Connection

/-- Both sockets accepted. -/
def start : Connection := ⟨.accepted, .accepted⟩

def get (c : Connection) : Side → Socket
  | .server => c.serverSocket
  | .origin => c.originWs

def update (c : Connection) (side : Side) (f : Socket → Socket) : Connection :=
  match side with
  | .server => { c with serverSocket := f c.serverSocket }
  | .origin => { c with originWs := f c.originWs }

section
variable {c : Connection} {side : Side} {f : Socket → Socket}

@[simp] theorem get_update : (c.update side f).get side = f (c.get side) := by cases side <;> rfl

@[simp] theorem get_update_other : (c.update side f).get side.other = c.get side.other := by
  cases side <;> rfl

@[simp] theorem get_other_update : (c.update side.other f).get side = c.get side := by
  cases side <;> rfl

end

def BothOpen (c : Connection) : Prop :=
  c.serverSocket.readyState = .open ∧ c.originWs.readyState = .open

instance {c : Connection} : Decidable c.BothOpen := inferInstanceAs (Decidable (_ ∧ _))

/-- The reason a socket is closed with when its peer's gave none. -/
def fallbackReason : Side → String
  | .server => "Client disconnected"
  | .origin => "Origin disconnected"

def errorReason : Side → String
  | .server => "Client socket error"
  | .origin => "Origin socket error"

/-- `event.code || 1000`. -/
def codeOr (code : Nat) : Nat := if code = 0 then 1000 else code

/-- The message listener of one side, on the other. -/
def forward (other : Socket) (data : MessageData) : Socket :=
  if other.readyState = .open then other.send data else other

/-- One event and its listener. Nothing arrives on a socket after its close event. A message goes to
    the other socket if that one is open, a close and an error close the other one, in a `try` of
    their own. -/
def step (c : Connection) : SocketEvent → Connection
  | .message side data =>
    if (c.get side).closed then c
    else
      (c.update side fun s =>
        if c.BothOpen then { s with received := s.received ++ [data] } else s).update side.other
        (forward · data)
  | .close side code reason =>
    if (c.get side).closed then c
    else
      (c.update side fun s => { s with readyState := .closed, closed := true }).update side.other
        (·.tryClose (codeOr code) (if reason = "" then fallbackReason side else reason))
  | .error side fatal =>
    (c.update side fun s =>
      { s with errored := true, readyState := if fatal then .closed else s.readyState }).update
      side.other (·.tryClose 1011 (errorReason side))

end Connection

/-! ## 3. `fetch`

The upgrade, up to the binding of the two sockets. The origin is a function that fails or
answers. -/

structure Env where
  originWsUrl : Option String
deriving DecidableEq, Repr

/-- The headers `fetch` reads. -/
structure Request where
  upgrade : Option String
  secWebSocketProtocol : Option String
  cfConnectingIp : Option String
  xForwardedFor : Option String
deriving DecidableEq, Repr

structure OriginRequest where
  url : String
  secWebSocketProtocol : Option String
  xForwardedFor : Option String
deriving DecidableEq, Repr

structure OriginResponse where
  status : Nat
  webSocket : Bool
  secWebSocketProtocol : Option String
deriving DecidableEq, Repr

inductive Response where
  /-- 426. -/
  | upgradeRequired
  /-- 502. -/
  | unavailable
  /-- The origin's own answer. -/
  | rejected (response : OriginResponse)
  /-- 101, with the sockets bound. -/
  | upgraded (secWebSocketProtocol : Option String) (connection : Connection)
deriving DecidableEq, Repr

/-- A header that is there and not empty. -/
def truthy (header : Option String) : Option String := header.filter (· ≠ "")

/-- `header.split(",")[0].trim()`. -/
def firstProtocol (header : String) : String :=
  String.ofList (trim (header.toList.takeWhile (· ≠ ',')))

def originRequest (env : Env) (request : Request) : OriginRequest where
  url := (truthy env.originWsUrl).getD "ws://localhost:8000/ws"
  secWebSocketProtocol := truthy request.secWebSocketProtocol
  xForwardedFor := truthy ((truthy request.cfConnectingIp).or request.xForwardedFor)

/-- `fetch`, with the origin as a function that fails or answers. The upgrade is answered with a
    protocol where the origin chose one, or else with the first that the client offered. -/
def fetch (env : Env) (origin : OriginRequest → Option OriginResponse) (request : Request) :
    Response :=
  if request.upgrade.map (·.toList.map Char.toLower) ≠ some "websocket".toList then
    .upgradeRequired
  else
    match origin (originRequest env request) with
    | none => .unavailable
    | some response =>
      if response.status ≠ 101 ∨ ¬ response.webSocket then .rejected response
      else
        .upgraded
          ((truthy response.secWebSocketProtocol).or
            ((truthy request.secWebSocketProtocol).map firstProtocol))
          .start

theorem fetch_upgraded {env : Env} {origin : OriginRequest → Option OriginResponse}
    {request : Request} {secWebSocketProtocol : Option String} {c : Connection}
    (h : fetch env origin request = .upgraded secWebSocketProtocol c) : c = .start := by
  unfold fetch at h
  repeat' split at h
  all_goals cases h
  rfl

/-! ## 4. The lifecycle

Two invariants. Messages are forwarded in every run; that the sockets close together fails by the
reserved codes, and by nothing else. -/

namespace Connection

instance {P : Side → Prop} [DecidablePred P] : Decidable (∀ side, P side) :=
  decidable_of_iff (P .server ∧ P .origin)
    ⟨fun h side => by cases side <;> [exact h.1; exact h.2], fun h => ⟨h _, h _⟩⟩

/-- Once a socket has closed or errored, the other one is open no longer. -/
def Coupled (c : Connection) : Prop :=
  ∀ side, (c.get side).closed ∨ (c.get side).errored → (c.get side.other).readyState ≠ .open

/-- What arrived while both were open has been sent, in order and before anything else; and
    while both are open nothing else has been sent. -/
def Forwards (c : Connection) : Prop :=
  ∀ side, (c.get side).received <+: (c.get side.other).sent ∧
    (c.BothOpen → (c.get side.other).sent = (c.get side).received)

instance {c : Connection} : Decidable c.Coupled := inferInstanceAs (Decidable (∀ _, _))

instance {c : Connection} : Decidable c.Forwards := inferInstanceAs (Decidable (∀ _, _))

/-- A close event that has an open socket to close carries a code `close` takes. -/
def Propagates (c : Connection) : SocketEvent → Prop
  | .close side code _ =>
    (c.get side).closed ∨ (c.get side.other).readyState ≠ .open ∨ ¬ Socket.reservedCode code
  | .message _ _ | .error _ _ => True

instance {c : Connection} : DecidablePred c.Propagates
  | .close _ _ _ => inferInstanceAs (Decidable (_ ∨ _ ∨ _))
  | .message _ _ | .error _ _ => isTrue trivial

section
variable {c : Connection} {side : Side} {f g : Socket → Socket}

theorem bothOpen_iff (side : Side) :
    c.BothOpen ↔ (c.get side).readyState = .open ∧ (c.get side.other).readyState = .open := by
  cases side with
  | server => exact Iff.rfl
  | origin => exact and_comm

theorem coupled_iff (side : Side) :
    c.Coupled ↔
      ((c.get side).closed ∨ (c.get side).errored → (c.get side.other).readyState ≠ .open) ∧
      ((c.get side.other).closed ∨ (c.get side.other).errored →
        (c.get side).readyState ≠ .open) := by
  constructor
  · intro h
    exact ⟨h side, by simpa using h side.other⟩
  · intro h
    exact Side.cases_other side h.1 (by simpa using h.2)

theorem forwards_iff (side : Side) :
    c.Forwards ↔
      ((c.get side).received <+: (c.get side.other).sent ∧
        (c.BothOpen → (c.get side.other).sent = (c.get side).received)) ∧
      ((c.get side.other).received <+: (c.get side).sent ∧
        (c.BothOpen → (c.get side).sent = (c.get side.other).received)) := by
  constructor
  · intro h
    exact ⟨h side, by simpa using h side.other⟩
  · intro h
    exact Side.cases_other side h.1 (by simpa using h.2)

/-- A listener that leaves the messages alone and opens nothing keeps them forwarded. -/
theorem Forwards.update (h : Forwards c)
    (hf : ∀ s, (f s).received = s.received ∧ (f s).sent = s.sent ∧
      ((f s).readyState = .open → s.readyState = .open))
    (hg : ∀ s, (g s).received = s.received ∧ (g s).sent = s.sent ∧
      ((g s).readyState = .open → s.readyState = .open)) :
    Forwards ((c.update side f).update side.other g) := by
  obtain ⟨hreceived, hsent, hopen⟩ := hf (c.get side)
  obtain ⟨hreceived', hsent', hopen'⟩ := hg (c.get side.other)
  have hboth : ((c.update side f).update side.other g).BothOpen → c.BothOpen := by
    simp only [bothOpen_iff side, get_update, get_update_other, get_other_update]
    exact fun hb => ⟨hopen hb.1, hopen' hb.2⟩
  rw [forwards_iff side] at h ⊢
  simp only [get_update, get_update_other, get_other_update, hreceived, hsent, hreceived', hsent']
  exact ⟨⟨h.1.1, fun hb => h.1.2 (hboth hb)⟩, ⟨h.2.1, fun hb => h.2.2 (hboth hb)⟩⟩

theorem reservedCode_codeOr {code : Nat} :
    Socket.reservedCode (codeOr code) ↔ Socket.reservedCode code := by
  unfold codeOr
  split
  · subst_vars
    decide
  · exact Iff.rfl

/-- What the message listener leaves alone. -/
theorem forward_frame {s : Socket} {data : MessageData} :
    (forward s data).closed = s.closed ∧ (forward s data).errored = s.errored ∧
      (forward s data).readyState = s.readyState ∧ (forward s data).received = s.received := by
  unfold forward
  split <;> exact ⟨rfl, rfl, rfl, rfl⟩

theorem Coupled.message {data : MessageData} (h : Coupled c) :
    Coupled (c.step (.message side data)) := by
  simp only [step]
  split
  · exact h
  · rw [coupled_iff side] at h ⊢
    simp only [get_update, get_update_other, get_other_update, forward_frame]
    split <;> exact h

theorem Forwards.message {data : MessageData} (h : Forwards c) :
    Forwards (c.step (.message side data)) := by
  simp only [step]
  split
  · exact h
  by_cases hboth : c.BothOpen
  · -- received here and sent there
    have hother : (c.get side.other).readyState = .open := ((bothOpen_iff side).mp hboth).2
    rw [forwards_iff side] at h ⊢
    simp only [get_update, get_update_other, get_other_update, if_pos hboth, forward, if_pos hother,
      Socket.send, h.1.2 hboth]
    exact ⟨⟨List.prefix_rfl, fun _ => trivial⟩, ⟨h.2.1, fun _ => h.2.2 hboth⟩⟩
  · -- not counted as received; sent all the same if the other one is open
    have hboth' : ¬ ((c.update side fun s => if c.BothOpen then
        { s with received := s.received ++ [data] } else s).update side.other
        (forward · data)).BothOpen := by
      rw [bothOpen_iff side]
      simp only [get_update, get_update_other, get_other_update, if_neg hboth, forward_frame]
      exact fun hb => hboth ((bothOpen_iff side).mpr hb)
    rw [forwards_iff side] at h ⊢
    refine ⟨⟨?_, fun hb => absurd hb hboth'⟩, ⟨?_, fun hb => absurd hb hboth'⟩⟩
    all_goals
      simp only [get_update, get_update_other, get_other_update, if_neg hboth, forward_frame]
    rotate_left
    · exact h.2.1
    unfold forward
    split
    · exact h.1.1.trans (List.prefix_append _ _)
    · exact h.1.1

/-- **A close event keeps the sockets coupled exactly when it propagates.** -/
theorem coupled_close_iff {code : Nat} {reason : String} (h : Coupled c) :
    Coupled (c.step (.close side code reason)) ↔ c.Propagates (.close side code reason) := by
  simp only [step, Propagates]
  by_cases hclosed : (c.get side).closed
  · rw [if_pos hclosed]
    exact iff_of_true h (.inl hclosed)
  · rw [if_neg hclosed, or_iff_right hclosed, coupled_iff side]
    simp only [get_update, get_update_other, get_other_update, true_or, forall_const]
    constructor
    · rintro ⟨hother, -⟩
      by_cases hcode : Socket.reservedCode code
      · rw [Socket.tryClose_reserved (reservedCode_codeOr.mpr hcode)] at hother
        exact .inl hother
      · exact .inr hcode
    · intro hprop
      refine ⟨?_, by simp⟩
      rcases hprop with hother | hcode
      · exact fun hopen => hother (Socket.open_of_tryClose hopen)
      · exact Socket.tryClose_readyState fun hreserved => hcode (reservedCode_codeOr.mp hreserved)

theorem Coupled.error {fatal : Bool} (h : Coupled c) : Coupled (c.step (.error side fatal)) := by
  rw [coupled_iff side] at h
  simp only [step, coupled_iff side, get_update, get_update_other, get_other_update, or_true,
    forall_const]
  refine ⟨Socket.tryClose_readyState (by decide), ?_⟩
  obtain ⟨hclosed, herrored, -, -⟩ :=
    Socket.tryClose_frame (c.get side.other) 1011 (errorReason side)
  rw [hclosed, herrored]
  intro hother
  cases fatal with
  | true => simp
  | false => exact h.2 hother

theorem Forwards.step {event : SocketEvent} (h : Forwards c) : Forwards (c.step event) := by
  have hclose : ∀ (code : Nat) (reason : String) (s : Socket),
      (s.tryClose code reason).received = s.received ∧ (s.tryClose code reason).sent = s.sent ∧
        ((s.tryClose code reason).readyState = .open → s.readyState = .open) :=
    fun code reason s =>
      ⟨(Socket.tryClose_frame _ _ _).2.2.1, (Socket.tryClose_frame _ _ _).2.2.2,
        Socket.open_of_tryClose⟩
  cases event with
  | message side data => exact h.message
  | close side code reason =>
    simp only [Connection.step]
    split
    · exact h
    · exact h.update (fun s => ⟨rfl, rfl, by simp⟩) (hclose _ _)
  | error side fatal =>
    exact h.update (fun s => ⟨rfl, rfl, by cases fatal <;> simp⟩) (hclose _ _)

theorem coupled_step_iff {event : SocketEvent} (h : Coupled c) :
    Coupled (c.step event) ↔ c.Propagates event := by
  cases event with
  | message side data => exact iff_of_true h.message trivial
  | close side code reason => exact coupled_close_iff h
  | error side fatal => exact iff_of_true h.error trivial

end

end Connection

/-- **A run is coupled and forwards exactly when no close event with a reserved code finds the other
    socket open.** The listener hands the code it received to `close()`, which throws on the
    reserved ones, and the `catch` takes that for a socket already closed. -/
theorem lifecycle_iff (env : Env) (origin : OriginRequest → Option OriginResponse)
    (request : Request) (events : List SocketEvent) (secWebSocketProtocol : Option String)
    (c : Connection) (h : fetch env origin request = .upgraded secWebSocketProtocol c) :
    Run.Always Connection.step (fun c => c.Coupled ∧ c.Forwards) c events ↔
      Run.EachStep Connection.step Connection.Propagates c events := by
  obtain rfl : c = .start := fetch_upgraded h
  have hforwards : Connection.start.Forwards := by decide
  have hcoupled : Connection.start.Coupled := by decide
  refine Run.always_iff_eachStep (I := Connection.Forwards) (fun c e hc => hc.step)
    ?_ hforwards ⟨hcoupled, hforwards⟩
  intro c e hc hp
  rw [and_iff_left hc.step]
  exact Connection.coupled_step_iff hp.1

/-- An origin that accepts. -/
def acceptingOrigin (_ : OriginRequest) : Option OriginResponse := some ⟨101, true, none⟩

def upgradeRequest : Request := ⟨some "websocket", some "proctoring-v1.token", none, none⟩

/-- A browser that drops reports 1006, and one that closes without a code reports 1005: the
    origin stays open. -/
theorem dropped_not_coupled :
    fetch ⟨none⟩ acceptingOrigin upgradeRequest =
      .upgraded (some "proctoring-v1.token") .start ∧
    (∀ code ∈ [1005, 1006],
      (Connection.start.step (.close .server code "")).originWs.readyState = .open) ∧
    ¬ Run.Always Connection.step (fun c => c.Coupled ∧ c.Forwards) Connection.start
      [.close .server 1006 ""] := by
  refine ⟨by decide +kernel, by decide, by decide⟩

/-- Messages both ways, then the origin refuses the session. -/
def refusedEvents : List SocketEvent :=
  [.message .server (.text "telemetry"), .message .origin (.text "ack"),
    .close .origin 4009 "Consent has not been recorded for this session.",
    .close .server 4009 ""]

theorem refusedEvents_lifecycle :
    (Run.final Connection.step .start refusedEvents).serverSocket.closedWith =
      some (4009, "Consent has not been recorded for this session.") ∧
    Run.Always Connection.step (fun c => c.Coupled ∧ c.Forwards) .start refusedEvents :=
  ⟨by decide, (lifecycle_iff ⟨none⟩ acceptingOrigin upgradeRequest refusedEvents
    (some "proctoring-v1.token") .start (by decide +kernel)).mpr (by decide)⟩

end Gateway
end ProctorEngine
