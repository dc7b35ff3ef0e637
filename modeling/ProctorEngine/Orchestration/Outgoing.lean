import ProctorEngine.Evidence.Service
import ProctorEngine.Orchestration.Ledger
import ProctorEngine.Websocket.Deliver

/-!
# The outgoing half of a connection

What `websocket_endpoint` sets up beside the receive loop. The worker's callback runs on the
worker's thread and only schedules a callback of the event loop; that one puts the kill-switch
on a queue of the connection; the drain task takes it from there, registers it with the delivery
service and writes it; the heartbeat writes pings. All of them write on one socket, and **the
drain is cancelled as soon as the handler leaves its loop**, with whatever it has in hand.

A write is one step: the frame is handed to the transport, or the call raises. The socket
refuses everything after a close.

The service around the connections is the whole one: launches, requests, transactions that
overlap them and retention runs go on in between.
-/

set_option autoImplicit false

namespace ProctorEngine

/-! ## 1. The socket

What the server writes, and what it takes for a failed write. -/

/-- `WS_CLOSE_HEARTBEAT_TIMEOUT`. -/
def wsCloseHeartbeatTimeout : Nat := 4007

/-- The arguments of the kill-switch callback. -/
structure KillSwitchItem where
  flagId : String
  reason : String
deriving DecidableEq, Repr

def KillSwitchPayload.item (payload : KillSwitchPayload) : KillSwitchItem :=
  ⟨payload.flagId, payload.reason⟩

inductive ServerWrite where
  | text (d : Deliver)
  | close (code : Nat) (reason : String)

namespace ServerWrite

def isClose : ServerWrite → Bool
  | .text _ => false
  | .close _ _ => true

/-- The kill-switch a text carries. -/
def killSwitch? : ServerWrite → Option KillSwitchItem
  | .text (.killSwitch payload) => some payload.item
  | .text .ping | .text (.ack _ _) | .close _ _ => none

end ServerWrite

/-- Why a kill-switch that was raised is never written. -/
inductive KillSwitchLoss where
  /-- `call_soon_threadsafe` raised. -/
  | loopClosed
  /-- `prepare_kill_switch` raised. -/
  | refused
  | sendFailed
  /-- The drain was cancelled in `send_json`. -/
  | cancelled
deriving DecidableEq, Repr

/-- How a turn of `_heartbeat_loop` goes. -/
inductive PingOutcome where
  | sent
  | raised
  /-- `TimeoutError`, with the frame at the transport or not. -/
  | timedOut (written : Bool)
deriving DecidableEq, Repr

/-! ## 2. The tasks of a connection

The callback of the worker's thread, the queue, the drain that takes from it, and the heartbeat. A
kill-switch moves between them and is never copied. -/

structure Outgoing where
  /-- Scheduled on the event loop and not yet run. -/
  callbacks : List KillSwitchItem
  killSwitchQueue : List KillSwitchItem
  /-- What the drain is in `send_json` with. -/
  sending : Option KillSwitchPayload
  /-- Whether `_heartbeat_loop` goes on. -/
  heartbeat : Bool
  written : List ServerWrite
  /-- Every call of `on_kill_switch`. -/
  raised : List KillSwitchItem
  lost : List (KillSwitchLoss × KillSwitchItem)

namespace Outgoing

def new : Outgoing := ⟨[], [], none, true, [], [], []⟩

/-- `send_json` or `close`; `none` is its exception. -/
def write (out : Outgoing) (w : ServerWrite) (fails : Bool) : Option Outgoing :=
  if fails ∨ out.written.any ServerWrite.isClose then none
  else some { out with written := out.written ++ [w] }

/-- What `_message_loop` writes after a frame. -/
def answer (out : Outgoing) (now : DateTime) (fails : Bool) : FrameOutcome → Option Outgoing
  | .ignored | .raised => some out
  | .acked seq => out.write (.text (.ack seq now)) fails
  | .closed code reason => out.write (.close code reason) fails

/-- `_on_kill_switch`. -/
def onKillSwitch (fails : Bool) (out : Outgoing) (killSwitch : UUID × String) : Outgoing :=
  let item : KillSwitchItem := ⟨killSwitch.1.str, killSwitch.2⟩
  if fails then
    { out with raised := out.raised ++ [item], lost := out.lost ++ [(.loopClosed, item)] }
  else { out with raised := out.raised ++ [item], callbacks := out.callbacks ++ [item] }

/-- `kill_switch_drain_task.cancel()`. A drain that waits on its queue holds nothing. -/
def cancelDrain (out : Outgoing) : Outgoing :=
  match out.sending with
  | none => out
  | some payload =>
    { out with sending := none, lost := out.lost ++ [(.cancelled, payload.item)] }

/-- The event loop runs the oldest callback: `kill_switch_queue.put_nowait`. -/
def runCallback (out : Outgoing) : Outgoing :=
  match out.callbacks with
  | [] => out
  | item :: callbacks =>
    { out with callbacks := callbacks, killSwitchQueue := out.killSwitchQueue ++ [item] }

/-- The drain goes on from `send_json`. What that raises is logged. -/
def sent (out : Outgoing) (fails : Bool) : Outgoing :=
  match out.sending with
  | none => out
  | some payload =>
    match out.write (.text (.killSwitch payload)) fails with
    | some out => { out with sending := none }
    | none => { out with sending := none, lost := out.lost ++ [(.sendFailed, payload.item)] }

/-- A turn of `_heartbeat_loop`. -/
def beat (out : Outgoing) : PingOutcome → Outgoing
  | .sent => (out.write (.text .ping) false).getD { out with heartbeat := false }
  | .raised => { out with heartbeat := false }
  | .timedOut written =>
    let out := (out.write (.text .ping) (!written)).getD out
    { (out.write (.close wsCloseHeartbeatTimeout "Heartbeat timeout.") false).getD out with
      heartbeat := false }

end Outgoing

/-- What a thread of a connection, or a task of its handler, does next. -/
inductive LineStep where
  /-- A move of a thread; whether the write or the `call_soon_threadsafe` in it raises. -/
  | act (action : Action) (fails : Bool)
  | runCallback
  | takeKillSwitch (now : ℚ)
  | sendKillSwitch (fails : Bool)
  | heartbeat (outcome : PingOutcome)

/-- A connection with its outgoing half. -/
structure Line where
  conn : Connection
  out : Outgoing

namespace Line

/-- What a move of a thread hands to the outgoing half; `none` is an exception in the handler. A
    frame is answered, and a commit may hand a kill-switch to the callback. -/
def after (py : Pydantic) (sh : Shared) (line : Line) (fails : Bool) : Action → Option Outgoing
  | .receive now frame =>
    if line.conn.handler = .serving then
      line.out.answer now fails (receiveFrame py line.conn.claims.sessionId
        ⟨line.conn.delivery, sh.eventBuffer⟩ now frame).1
    else some line.out
  | .commitFlag c =>
    match line.conn.workerPc with
    | .loaded item examSession =>
      some ((persistLoaded sh.db examSession item c).killSwitches.foldl
        (Outgoing.onKillSwitch fails) line.out)
    | _ => some line.out
  | _ => some line.out

/-- A move of a thread. An exception of the handler ends its loop like a disconnect, and the
    drain goes when the loop does. -/
def act (py : Pydantic) (sh : Shared) (line : Line) (action : Action) (fails : Bool) :
    Shared × Line :=
  let moved := line.conn.act py sh action
  let conn := if (line.after py sh fails action).isSome then moved.2 else moved.2.disconnect
  let out := (line.after py sh fails action).getD line.out
  (moved.1, ⟨conn, if conn.handler = .serving then out else out.cancelDrain⟩)

/-- The drain takes the next kill-switch off its queue and registers it. One that the delivery
    service refuses is lost here. -/
def takeKillSwitch (line : Line) (now : ℚ) : Line :=
  if line.conn.handler = .serving ∧ line.out.sending = none then
    match line.out.killSwitchQueue with
    | [] => line
    | item :: rest =>
      let prepared := line.conn.delivery.prepareKillSwitch item.flagId item.reason now
      { conn := { line.conn with delivery := prepared.2 }
        out :=
          match prepared.1 with
          | .ok payload => { line.out with killSwitchQueue := rest, sending := some payload }
          | .error _ =>
            { line.out with killSwitchQueue := rest, lost := line.out.lost ++ [(.refused, item)] } }
  else line

def step (py : Pydantic) (sh : Shared) (line : Line) : LineStep → Shared × Line
  | .act action fails => line.act py sh action fails
  | .runCallback => (sh, { line with out := line.out.runCallback })
  | .takeKillSwitch now => (sh, line.takeKillSwitch now)
  | .sendKillSwitch fails => (sh, { line with out := line.out.sent fails })
  | .heartbeat outcome =>
    if line.out.heartbeat ∧ line.conn.handler ≠ .finished ∧ line.conn.handler ≠ .crashed then
      (sh, { line with out := line.out.beat outcome })
    else (sh, line)

end Line

/-! ## 3. The process

The service of `Ledger`, with a half like this for each connection. -/

/-- The service with the outgoing half of its `i`-th connection. -/
structure Process where
  engine : Engine
  outgoing : Nat → Outgoing

inductive ProcessStep where
  /-- A step of the service that is no move of a thread: those are steps of a line. -/
  | service (l : ServiceStep)
  | on (i : Nat) (l : LineStep)

namespace Process

def start (engine : Engine) : Process := ⟨engine, fun _ => .new⟩

def db (p : Process) : Database := p.engine.db

def line? (p : Process) (i : Nat) : Option Line :=
  p.engine.system.connections[i]?.map fun conn => ⟨conn, p.outgoing i⟩

def put (p : Process) (i : Nat) (moved : Shared × Line) : Process where
  engine := { p.engine with
    system := ⟨moved.1, p.engine.system.connections.set i moved.2.conn⟩ }
  outgoing := Function.update p.outgoing i moved.2.out

def step (py : Pydantic) (deps : OrchestrationDeps) (p : Process) : ProcessStep → Process
  | .service (.pipeline (.on _ _)) => p
  | .service l => { p with engine := p.engine.serve py deps l }
  | .on i l =>
    match p.line? i with
    | none => p
    | some line => p.put i (line.step py p.engine.system.shared l)

end Process

end ProctorEngine
