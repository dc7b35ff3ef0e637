import ProctorEngine.Lib.JsonText
import ProctorEngine.Websocket.Parse
import ProctorEngine.Websocket.Server

/-!
# `_message_loop`

One turn of the server's receive loop: the frame just received, the delivery service of the
connection and the event buffer go in; what the client sees and the new state come out.
**A frame is either answered — acknowledged, or ignored as a `pong` — or it ends the
connection**, by a close with a 4xxx code or by an exception the loop does not catch.

The close can itself raise. Its frame is a control frame, which holds 125 bytes: two for the
code and 123 for the reason. The reason of a refused envelope is cut to 120 *characters*, and it
repeats what the client wrote, so characters of more than one byte can take it over the limit.

The frame comes in as the JSON value of its text. What `json.loads` returns beyond JSON, and the
loop over a whole connection, are in `Websocket/MessageLoopRuns.lean`.
-/

set_option autoImplicit false

namespace ProctorEngine

/-- `WS_CLOSE_SESSION_MISMATCH`. -/
def wsCloseSessionMismatch : Nat := 4004

/-- `WS_CLOSE_PROTOCOL_ERROR`. -/
def wsCloseProtocolError : Nat := 4006

inductive FrameOutcome where
  | ignored
  | acked (seq : Nat)
  | closed (code : Nat) (reason : String)
  /-- An exception the loop does not catch: an `AttributeError` (`raw.get` of a JSON value that
      is no object), a `TypeError` of the lookup, or what `websocket.close` raises. -/
  | raised
deriving DecidableEq, Repr

/-- The loop goes on. -/
def FrameOutcome.Answered : FrameOutcome → Prop
  | .ignored | .acked _ => True
  | .closed _ _ | .raised => False

instance : DecidablePred FrameOutcome.Answered
  | .ignored | .acked _ => isTrue trivial
  | .closed _ _ | .raised => isFalse id

/-- What one turn of the loop reads and writes. -/
structure LoopState where
  delivery : DeliveryService
  eventBuffer : TelemetryEventBuffer

/-- `str(exc)[:120]`. -/
def truncateReason (s : String) : String := String.ofList (s.toList.take 120)

/-- `websocket.close`. A reason that does not fit in a close frame raises, and no close is sent. -/
@[irreducible] def closeFrame (code : Nat) (reason : String) : FrameOutcome :=
  if (JsonText.utf8 reason.toList).length ≤ 123 then .closed code reason else .raised

/-- The loop after `parse_client_message`. `sessionId` is the session of the token. An
    acknowledgement of a kill-switch is recorded and everything else is buffered; both are acked
    with the next number. -/
def receiveMessage (sessionId : String) (st : LoopState) (now : DateTime)
    (message : ClientMessage) : FrameOutcome × LoopState :=
  if message.sessionId ≠ sessionId then
    (.closed wsCloseSessionMismatch "session_id in message does not match token.", st)
  else match message.payload with
    | .killSwitchAck payload =>
      let (_, delivery) := st.delivery.recordKillSwitchAck payload.flagId
      let (seq, delivery) := delivery.nextAck
      (.acked seq, { st with delivery := delivery })
    | _ =>
      let (seq, delivery) := st.delivery.nextAck
      (.acked seq, ⟨delivery, st.eventBuffer.push message now⟩)

/-- One turn of the loop on a frame, given as the JSON value its text denotes and `none`
    where it denotes none. -/
def receiveFrame (c : Pydantic) (sessionId : String) (st : LoopState) (now : DateTime)
    (frame : Option Json) : FrameOutcome × LoopState :=
  match frame with
  | none => (closeFrame wsCloseProtocolError "Invalid JSON.", st)
  | some (.obj raw) =>
    if Json.get? raw "type" = some (.str "pong") then (.ignored, st)
    else match parseClientMessage c raw with
      | .error (.envelope e) => (closeFrame wsCloseProtocolError (truncateReason (e.text c)), st)
      | .error .unhashableType => (.raised, st)
      | .ok message => receiveMessage sessionId st now message
  | some _ => (.raised, st)

/-- The server answers a frame in whatever state it finds the connection. -/
def Answers (c : Pydantic) (sessionId : String) (frame : Option Json) : Prop :=
  ∀ st now, (receiveFrame c sessionId st now frame).1.Answered

section
variable {c : Pydantic} {sessionId : String} {raw : Dict} {st : LoopState} {now : DateTime}

theorem answers_pong (h : Json.get? raw "type" = some (.str "pong")) :
    Answers c sessionId (some (.obj raw)) := by
  intro st now
  unfold receiveFrame
  simp [h, FrameOutcome.Answered]

/-- A close is no answer, whether its frame goes out or not. -/
theorem not_answered_closeFrame (code : Nat) (reason : String) :
    ¬ (closeFrame code reason).Answered := by
  unfold closeFrame
  split
  · exact id
  · exact id

theorem receiveMessage_answered {message : ClientMessage} (hsid : message.sessionId = sessionId) :
    (receiveMessage sessionId st now message).1.Answered := by
  simp only [receiveMessage, hsid, ne_eq, not_true_eq_false, if_false]
  cases message.payload <;> trivial

/-- A typed envelope of the session is acknowledged. -/
theorem answers_of_parse {message : ClientMessage} (h : parseClientMessage c raw = .ok message)
    (hsid : message.sessionId = sessionId) : Answers c sessionId (some (.obj raw)) := by
  intro st now
  unfold receiveFrame
  by_cases hpong : Json.get? raw "type" = some (.str "pong")
  · simp [hpong, FrameOutcome.Answered]
  · simp only [hpong, if_false, h]
    exact receiveMessage_answered hsid

/-- An envelope error closes the connection with the protocol-error code, if the reason fits,
    and the state of the connection is as it was. -/
theorem receiveFrame_of_envelopeError {e : EnvelopeValidationError}
    (hpong : Json.get? raw "type" ≠ some (.str "pong"))
    (h : parseClientMessage c raw = .error (.envelope e)) :
    receiveFrame c sessionId st now (some (.obj raw)) =
      (closeFrame wsCloseProtocolError (truncateReason (e.text c)), st) := by
  unfold receiveFrame
  simp only [hpong, if_false, h]

/-- An envelope error is no answer, in any state. -/
theorem not_answers_of_envelopeError {e : EnvelopeValidationError}
    (hpong : Json.get? raw "type" ≠ some (.str "pong"))
    (h : parseClientMessage c raw = .error (.envelope e)) :
    ¬ Answers c sessionId (some (.obj raw)) := by
  intro hanswers
  have hclosed : (receiveFrame c sessionId ⟨.new, .new 1 (by decide)⟩ 0 _).1.Answered :=
    hanswers _ _
  simp only [receiveFrame_of_envelopeError hpong h, not_answered_closeFrame] at hclosed

theorem receiveMessage_eventBuffer (sessionId : String) (st : LoopState) (now : DateTime)
    (message : ClientMessage) :
    (receiveMessage sessionId st now message).2.eventBuffer = st.eventBuffer ∨
      (receiveMessage sessionId st now message).2.eventBuffer =
        st.eventBuffer.push message now := by
  unfold receiveMessage
  split
  · exact .inl rfl
  · split
    · exact .inl rfl
    · exact .inr rfl

/-- A turn of the loop pushes one message or none. -/
theorem receiveFrame_eventBuffer (c : Pydantic) (sessionId : String) (st : LoopState)
    (now : DateTime) (frame : Option Json) :
    (receiveFrame c sessionId st now frame).2.eventBuffer = st.eventBuffer ∨
      ∃ message, (receiveFrame c sessionId st now frame).2.eventBuffer =
        st.eventBuffer.push message now := by
  unfold receiveFrame
  split
  · exact .inl rfl
  · split
    · exact .inl rfl
    · split
      · exact .inl rfl
      · exact .inl rfl
      · rename_i message _
        exact (receiveMessage_eventBuffer sessionId st now message).imp_right fun h => ⟨message, h⟩
  · exact .inl rfl

end

end ProctorEngine
