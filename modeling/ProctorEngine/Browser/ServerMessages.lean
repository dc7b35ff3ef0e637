import ProctorEngine.Browser.WsClient
import ProctorEngine.Websocket.Deliver

/-!
# What the page reads

`handleMessage` compares the text with one literal before it parses anything, and
`parseServerMessage` looks at the two members of the envelope and not into the payload. **Every
text the server writes is read as what it is**: the literal is the very text of the server's
`ping`, and the reason and the flag of a kill-switch arrive as they were sent, whatever
characters they hold.
-/

set_option autoImplicit false

namespace ProctorEngine.Browser

open JsonText

/-! ## 1. Reading -/

inductive ServerMessageType where
  | ack | killSwitch | policyUpdate
deriving DecidableEq

def ServerMessageType.value : ServerMessageType → String
  | .ack => "ack"
  | .killSwitch => "kill_switch"
  | .policyUpdate => "policy_update"

/-- `['ack', 'kill_switch', 'policy_update'].includes(raw.type)`, with the one it is. -/
def serverMessageType? (type : Units) : Option ServerMessageType :=
  [ServerMessageType.ack, .killSwitch, .policyUpdate].find? fun t => utf16 t.value = type

/-- The type and the payload of an envelope; `none` is `null`. -/
def parseServerMessage (rawText : List Char) : Option (ServerMessageType × Value) :=
  match parse rawText with
  | none => none
  | some raw =>
    match raw.member? (utf16 "type"), raw.member? (utf16 "payload") with
    | some (.str type), some payload => (serverMessageType? type).map fun t => (t, payload)
    | _, _ => none

/-- A string the handler of the kill-switch looks up in the payload. -/
def payloadText? (payload : Value) (name : String) : Option String :=
  (payload.member? (utf16 name)).bind Value.text?

/-- The message of a text. The handler of the kill-switch is modelled on payloads with a reason
    and a flag. -/
def readMessage (rawText : List Char) : Option ServerMessage :=
  if rawText = "\x7b\"type\":\"ping\"\x7d".toList then some .ping
  else
    match parseServerMessage rawText with
    | none => some .unrecognised
    | some (.ack, _) => some .ack
    | some (.policyUpdate, _) => some .policyUpdate
    | some (.killSwitch, payload) =>
      match payloadText? payload "reason", payloadText? payload "flag_id" with
      | some reason, some flagId =>
        if h : flagId ≠ "" then some (.killSwitch reason flagId h) else none
      | _, _ => none

/-! ## 2. The server's texts -/

/-- The message a text of the server stands for. -/
def asMessage : Deliver → ServerMessage
  | .ping => .ping
  | .ack _ _ => .ack
  | .killSwitch payload => .killSwitch payload.reason payload.flagId payload.flagIdNonempty

section
variable {isoformat : DateTime → String} {d : Deliver}

theorem sendJson_ping (isoformat : DateTime → String) :
    Deliver.ping.sendJson isoformat = "\x7b\"type\":\"ping\"\x7d".toList := by
  show (Tree.obj [("type", .scalar (.str "ping"))]).write = _
  decide

/-- Only the `ping` is taken for one. -/
theorem sendJson_ne_ping (h : d ≠ .ping) :
    d.sendJson isoformat ≠ "\x7b\"type\":\"ping\"\x7d".toList := by
  intro htext
  rw [← sendJson_ping isoformat] at htext
  have hread : (d.toJsonDict isoformat).read = (Deliver.ping.toJsonDict isoformat).read := by
    apply Option.some.inj
    rw [← parse_write, ← parse_write]
    exact congrArg parse htext
  cases d with
  | ping => exact h rfl
  | ack seq receivedAt => simp [Deliver.toJsonDict, Tree.read, readTrees] at hread
  | killSwitch payload => simp [Deliver.toJsonDict, Tree.read, readTrees] at hread

/-- The two members every envelope of the server has. -/
theorem member?_envelope (type : String) (payload : Tree) :
    (Tree.obj [("type", .scalar (.str type)), ("payload", payload)]).read.member?
        (utf16 "type") = some (.str (utf16 type)) ∧
      (Tree.obj [("type", .scalar (.str type)), ("payload", payload)]).read.member?
        (utf16 "payload") = some payload.read := by
  have hname : utf16 "payload" ≠ utf16 "type" := by decide
  constructor
  · simp [Tree.read, readTrees, Value.member?, Scalar.read, hname]
  · simp [Tree.read, readTrees, Value.member?]

theorem parseServerMessage_write {t : ServerMessageType} {payload : Tree} :
    parseServerMessage
        (Tree.obj [("type", .scalar (.str t.value)), ("payload", payload)]).write =
      some (t, payload.read) := by
  have htype : serverMessageType? (utf16 t.value) = some t := by
    cases t <;> decide
  obtain ⟨htag, hpayload⟩ := member?_envelope t.value payload
  unfold parseServerMessage
  rw [parse_write]
  dsimp only
  rw [htag, hpayload]
  dsimp only
  rw [htype, Option.map_some]

theorem payloadText?_killSwitch (payload : KillSwitchPayload) {read : Value}
    (h : read = (Tree.obj [("reason", .scalar (.str payload.reason)),
      ("flag_id", .scalar (.str payload.flagId))]).read) :
    payloadText? read "reason" = some payload.reason ∧
      payloadText? read "flag_id" = some payload.flagId := by
  have hname : utf16 "flag_id" ≠ utf16 "reason" := by decide
  subst h
  constructor
  · simp [payloadText?, Tree.read, readTrees, Value.member?, Scalar.read, hname, text?_str]
  · simp [payloadText?, Tree.read, readTrees, Value.member?, Scalar.read, text?_str]

theorem readMessage_ping (isoformat : DateTime → String) :
    readMessage (Deliver.ping.sendJson isoformat) = some .ping := by
  unfold readMessage
  rw [if_pos (sendJson_ping isoformat)]

theorem readMessage_ack (isoformat : DateTime → String) (seq : Nat) (receivedAt : DateTime) :
    readMessage ((Deliver.ack seq receivedAt).sendJson isoformat) = some .ack := by
  unfold readMessage
  rw [if_neg (sendJson_ne_ping (by simp)), Deliver.sendJson, Deliver.toJsonDict,
    show "ack" = ServerMessageType.ack.value from rfl, parseServerMessage_write]

theorem readMessage_killSwitch (isoformat : DateTime → String) (payload : KillSwitchPayload) :
    readMessage ((Deliver.killSwitch payload).sendJson isoformat) =
      some (.killSwitch payload.reason payload.flagId payload.flagIdNonempty) := by
  unfold readMessage
  rw [if_neg (sendJson_ne_ping (by simp)), Deliver.sendJson, Deliver.toJsonDict,
    show "kill_switch" = ServerMessageType.killSwitch.value from rfl, parseServerMessage_write]
  dsimp only
  obtain ⟨hreason, hflag⟩ := payloadText?_killSwitch payload rfl
  rw [hreason, hflag]
  exact dif_pos payload.flagIdNonempty

/-- **Every text the server writes is read as what it is.** A ping, an acknowledgement and a
    kill-switch, for every flag id and reason, through the encoder of the one end and the reader of
    the other. -/
theorem readMessage_sendJson (isoformat : DateTime → String) (d : Deliver) :
    readMessage (d.sendJson isoformat) = some (asMessage d) := by
  cases d with
  | ping => exact readMessage_ping isoformat
  | ack seq receivedAt => exact readMessage_ack isoformat seq receivedAt
  | killSwitch payload => exact readMessage_killSwitch isoformat payload

end

end ProctorEngine.Browser
