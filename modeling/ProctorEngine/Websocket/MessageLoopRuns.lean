import ProctorEngine.Lib.Run
import ProctorEngine.Websocket.LoadedMessage

/-!
# Runs of `_message_loop`

The loop over a whole connection: one text after another goes through `json.loads` and a turn
of the loop, until a turn ends it. Between two texts the other tasks of the connection, and the
other connections that share the event buffer, change everything but the loop's own counter.

What should become of a frame is read off the frame alone (`way`). **A frame is handled that
way exactly when it is `Manageable`**. An exception escapes the loop for

- a value that is no object (`raw.get` is an `AttributeError`);
- a `type` no dictionary can look up (a `TypeError` out of `parse_client_message`);
- a text `json.loads` gives up on otherwise than by a `JSONDecodeError`;
- an envelope refused in words the close frame cannot carry: `websocket.close` raises, and the
  4006 is never sent. Four two-byte characters in the `type` are enough, or half a surrogate pair.

The acknowledgements are in order whatever happens.

The turn here takes all that `json.loads` returns. On the values of JSON it is `receiveFrame`
(`turn_toPy`), the turn the rest of the development runs.
-/

set_option autoImplicit false

namespace ProctorEngine

/-! ## 1. The loop

A turn takes what `json.loads` has made of a text and returns what becomes of the connection, with
the state of the loop afterwards. The log has the frames received so far with their outcomes. -/

/-- What `json.loads` makes of a text. -/
inductive JsonLoads where
  | value (raw : PyJson)
  | decodeError
  /-- A `RecursionError`, or the plain `ValueError` of an integer with too many digits. -/
  | otherException

def JsonLoads.isPong : JsonLoads → Bool
  | .value (.obj raw) =>
    match PyJson.get? raw "type" with
    | some (.str s) => decide (s = PyStr.ofString "pong")
    | _ => false
  | _ => false

theorem isPong_iff {raw : PyDict} : (JsonLoads.value (.obj raw)).isPong = true ↔
    PyJson.get? raw "type" = some (.str (PyStr.ofString "pong")) := by
  show (match PyJson.get? raw "type" with
    | some (.str s) => decide (s = PyStr.ofString "pong")
    | _ => false) = true ↔ _
  split
  · rename_i s htype
    rw [htype, decide_eq_true_iff, Option.some.injEq, PyJson.str.injEq]
  · rename_i hother
    exact iff_of_false Bool.false_ne_true (hother _)

/-- One turn of the loop. Only a `JSONDecodeError` of `json.loads` is caught, and only the
    parser's own error. -/
def turn {c : Pydantic} (p : PyReading c) (sessionId : String) (st : LoopState) (now : DateTime)
    (frame : JsonLoads) : FrameOutcome × LoopState :=
  match frame with
  | .value (.obj raw) =>
    if frame.isPong then (.ignored, st)
    else match p.parse raw with
      | .error (.envelope text) => (closeRefusal text, st)
      | .error .unhashableType => (.raised, st)
      | .ok message => receiveMessage sessionId st now message
  | .value _ => (.raised, st)
  | .decodeError => (closeFrame wsCloseProtocolError "Invalid JSON.", st)
  | .otherException => (.raised, st)

/-- **On the values of JSON a turn is `receiveFrame`.** -/
theorem turn_toPy {c : Pydantic} (p : PyReading c) (sessionId : String) (st : LoopState)
    (now : DateTime) (v : Json) :
    turn p sessionId st now (.value v.toPy) = receiveFrame c sessionId st now (some v) := by
  cases v with
  | null => rfl
  | bool b => rfl
  | num n => rfl
  | str s => rfl
  | arr xs => rfl
  | obj raw =>
    have hpong : (JsonLoads.value (Json.obj raw).toPy).isPong = true ↔
        Json.get? raw "type" = some (.str "pong") := by
      rw [Json.toPy, isPong_iff, PyJson.get?_toPyFields]
      cases Json.get? raw "type" with
      | none => simp
      | some t => cases t <;> simp [Json.toPy, PyStr.ofString_injective.eq_iff]
    unfold turn receiveFrame
    simp only [Json.toPy] at hpong ⊢
    by_cases h : Json.get? raw "type" = some (.str "pong")
    · simp [hpong, h]
    · simp only [hpong, h, if_false, p.parse_toPyFields]
      cases parseClientMessage c raw with
      | ok message => rfl
      | error e =>
        cases e with
        | envelope e => exact congrArg (·, st) (closeRefusal_ofString _)
        | unhashableType => rfl

structure HandledFrame where
  frame : JsonLoads
  outcome : FrameOutcome

/-- A connection, with the log of the frames its loop has received. -/
structure MessageLoop where
  loop : LoopState
  ended : Bool
  handled : List HandledFrame

inductive LoopEvent where
  | text (rawText : String) (now : DateTime)
  /-- The kill-switch drain and the users of the shared event buffer. -/
  | otherTasks (pendingKill : Option PendingKillSwitch) (killSwitchAcked : Bool)
      (eventBuffer : TelemetryEventBuffer)

namespace MessageLoop

def new (ackGraceSeconds : ℚ) (maxRetries : Nat) (eventBuffer : TelemetryEventBuffer) :
    MessageLoop :=
  ⟨⟨.new ackGraceSeconds maxRetries, eventBuffer⟩, false, []⟩

def step {c : Pydantic} (p : PyReading c) (sessionId : String) (loads : String → JsonLoads)
    (s : MessageLoop) : LoopEvent → MessageLoop
  | .text rawText now =>
    if s.ended then s
    else
      let (outcome, loop) := turn p sessionId s.loop now (loads rawText)
      ⟨loop, !decide outcome.Answered, s.handled ++ [⟨loads rawText, outcome⟩]⟩
  | .otherTasks pendingKill killSwitchAcked eventBuffer =>
    { s with
      loop :=
        ⟨{ s.loop.delivery with pendingKill := pendingKill, killSwitchAcked := killSwitchAcked },
          eventBuffer⟩ }

end MessageLoop

/-! ## 2. How a frame should be handled

For each way a frame can go, that the frame is of that kind and that the turn did to the state what
the kind asks for and no more. No two kinds overlap (`HandledAs.eq_way`), so that being handled in
some way and in exactly one are the same. -/

/-- The client message a frame holds. -/
def clientMessage? {c : Pydantic} (p : PyReading c) : JsonLoads → Option ClientMessage
  | .value (.obj raw) => (p.parse raw).toOption
  | _ => none

inductive Way where
  | ignored | buffered | killSwitchAcked | closedMalformed | closedForeign
deriving DecidableEq, Repr

/-- The frame is of the kind this way is for, and the turn was as it should be for the kind. Each
    way fixes the answer, and the state after it down to the counter and the buffer. -/
def HandledAs {c : Pydantic} (p : PyReading c) (sessionId : String) (st : LoopState)
    (now : DateTime) (frame : JsonLoads) : Way → Prop
  | .ignored => frame.isPong ∧ turn p sessionId st now frame = (.ignored, st)
  | .buffered => ∃ message, clientMessage? p frame = some message ∧
      message.sessionId = sessionId ∧ (∀ ack, message.payload ≠ .killSwitchAck ack) ∧
      turn p sessionId st now frame =
        (.acked st.delivery.seq, ⟨st.delivery.nextAck.2, st.eventBuffer.push message now⟩)
  | .killSwitchAcked => ∃ message ack, clientMessage? p frame = some message ∧
      message.sessionId = sessionId ∧ message.payload = .killSwitchAck ack ∧
      turn p sessionId st now frame =
        (.acked st.delivery.seq,
          { st with delivery := (st.delivery.recordKillSwitchAck ack.flagId).2.nextAck.2 })
  | .closedMalformed => frame.isPong = false ∧ clientMessage? p frame = none ∧
      ∃ reason, turn p sessionId st now frame = (.closed wsCloseProtocolError reason, st)
  | .closedForeign => ∃ message, clientMessage? p frame = some message ∧
      message.sessionId ≠ sessionId ∧
      ∃ reason, turn p sessionId st now frame = (.closed wsCloseSessionMismatch reason, st)

/-- The one way for a frame. -/
def way {c : Pydantic} (p : PyReading c) (sessionId : String) (frame : JsonLoads) : Way :=
  match clientMessage? p frame with
  | none => if frame.isPong then .ignored else .closedMalformed
  | some message =>
    if message.sessionId ≠ sessionId then .closedForeign
    else match message.payload with
      | .killSwitchAck _ => .killSwitchAcked
      | _ => .buffered

/-- `json.loads` raises the exception the loop expects, or answers with an object that is a
    `pong` or whose `type` the parser can dispatch on. -/
def JsonLoads.Manageable {c : Pydantic} (p : PyReading c) (frame : JsonLoads) : Prop :=
  match frame with
  | .value (.obj raw) => frame.isPong = true ∨ p.Dispatches raw
  | .value _ => False
  | .decodeError => True
  | .otherException => False

section
variable {c : Pydantic} {p : PyReading c} {sessionId : String} {st : LoopState} {now : DateTime}
  {raw : PyDict} {frame : JsonLoads} {message : ClientMessage}

/-- A `pong` is no client message. -/
theorem isPong_of_message (h : clientMessage? p frame = some message) : frame.isPong = false := by
  unfold clientMessage? at h
  split at h
  · rw [← Bool.not_eq_true, isPong_iff]
    intro hpong
    obtain ⟨text, htext⟩ := p.parse_of_pong hpong
    rw [htext] at h
    cases h
  · cases h

theorem HandledAs.eq_way {w : Way} (h : HandledAs p sessionId st now frame w) :
    w = way p sessionId frame := by
  unfold way
  cases w with
  | ignored =>
    cases hmessage : clientMessage? p frame with
    | none => simp [h.1]
    | some message => exact absurd h.1 (by simp [isPong_of_message hmessage])
  | buffered =>
    -- `hpayload` decides the match on the payload
    obtain ⟨message, hmessage, hsession, hpayload, -⟩ := h
    simp [hmessage, hsession]
  | killSwitchAcked =>
    obtain ⟨message, ack, hmessage, hsession, hpayload, -⟩ := h
    simp [hmessage, hsession, hpayload]
  | closedMalformed =>
    obtain ⟨hpong, hmessage, -⟩ := h
    simp [hmessage, hpong]
  | closedForeign =>
    obtain ⟨message, hmessage, hsession, -⟩ := h
    simp [hmessage, hsession]

/-- A turn on an object that is no `pong`. -/
theorem turn_of_parse (hpong : (JsonLoads.value (.obj raw)).isPong = false) :
    turn p sessionId st now (.value (.obj raw)) =
      match p.parse raw with
      | .error (.envelope text) => (closeRefusal text, st)
      | .error .unhashableType => (.raised, st)
      | .ok message => receiveMessage sessionId st now message := by
  unfold turn
  simp only [hpong, Bool.false_eq_true, if_false]

/-- A message is acknowledged, or the connection closed for its session. -/
theorem handledAs_of_message (hparse : p.parse raw = .ok message) :
    ∃ w, HandledAs p sessionId st now (.value (.obj raw)) w := by
  have hmessage : clientMessage? p (.value (.obj raw)) = some message := by
    simp [clientMessage?, hparse, Except.toOption]
  have hturn : turn p sessionId st now (.value (.obj raw)) =
      receiveMessage sessionId st now message := by
    rw [turn_of_parse (isPong_of_message hmessage), hparse]
  by_cases hsession : message.sessionId = sessionId
  · by_cases hack : ∃ ack, message.payload = .killSwitchAck ack
    · obtain ⟨ack, hpayload⟩ := hack
      refine ⟨.killSwitchAcked, message, ack, hmessage, hsession, hpayload, hturn.trans ?_⟩
      simp only [receiveMessage, hsession, ne_eq, not_true_eq_false, if_false, hpayload]
      rw [← st.delivery.recordKillSwitchAck_seq ack.flagId]
      rfl
    · have hne : ∀ ack, message.payload ≠ .killSwitchAck ack := fun ack h => hack ⟨ack, h⟩
      refine ⟨.buffered, message, hmessage, hsession, hne, hturn.trans ?_⟩
      simp only [receiveMessage, hsession, ne_eq, not_true_eq_false, if_false]
      cases hpayload : message.payload with
      | killSwitchAck ack => exact absurd hpayload (hne ack)
      | telemetryLight payload => rfl
      | telemetryHeavyFrame payload => rfl
      | audioChunk payload => rfl
      | browserEvent payload => rfl
  · refine ⟨.closedForeign, message, hmessage, hsession,
      "session_id in message does not match token.", hturn.trans ?_⟩
    simp [receiveMessage, hsession]

/-- "Invalid JSON." fits in a close frame. -/
theorem turn_decodeError :
    turn p sessionId st now .decodeError = (.closed wsCloseProtocolError "Invalid JSON.", st) := by
  have hfits : (JsonText.utf8 "Invalid JSON.".toList).length ≤ 123 := by decide +kernel
  unfold turn closeFrame
  simp only [if_pos hfits]

/-- A manageable frame is handled in some way. Any other holds no message, and an exception
    escapes. -/
theorem turn_cases (p : PyReading c) (sessionId : String) (st : LoopState) (now : DateTime)
    (frame : JsonLoads) :
    (frame.Manageable p ∧ ∃ w, HandledAs p sessionId st now frame w) ∨
      (¬ frame.Manageable p ∧ clientMessage? p frame = none ∧
        turn p sessionId st now frame = (.raised, st)) := by
  cases frame with
  | decodeError => exact .inl ⟨trivial, .closedMalformed, rfl, rfl, _, turn_decodeError⟩
  | otherException => exact .inr ⟨id, rfl, rfl⟩
  | value v =>
    cases v with
    | obj raw =>
      cases hpong : (JsonLoads.value (.obj raw)).isPong with
      | true => exact .inl ⟨.inl hpong, .ignored, hpong, by unfold turn; simp only [hpong, if_true]⟩
      | false =>
        have hmanageable : (JsonLoads.value (.obj raw)).Manageable p ↔ p.Dispatches raw := by
          simp [JsonLoads.Manageable, hpong]
        rw [hmanageable]
        rcases p.parse_cases raw with
          ⟨message, hparse, hdispatches⟩ | ⟨text, hparse, hfits⟩ | ⟨hparse, hdispatches⟩
        · exact .inl ⟨hdispatches, handledAs_of_message hparse⟩
        · have hmessage : clientMessage? p (.value (.obj raw)) = none := by
            simp [clientMessage?, hparse, Except.toOption]
          have hturn : turn p sessionId st now (.value (.obj raw)) = (closeRefusal text, st) := by
            rw [turn_of_parse hpong, hparse]
          -- whether the close goes out is whether its reason fits
          rw [hfits]
          by_cases h : text.Fits 120 123
          · obtain ⟨reason, hreason⟩ := closeRefusal_of_fits h
            exact .inl ⟨h, .closedMalformed, hpong, hmessage, reason, by rw [hturn, hreason]⟩
          · exact .inr ⟨h, hmessage, by rw [hturn, closeRefusal_of_not_fits h]⟩
        · refine .inr ⟨hdispatches, ?_, ?_⟩
          · simp [clientMessage?, hparse, Except.toOption]
          · rw [turn_of_parse hpong, hparse]
    | null => exact .inr ⟨id, rfl, rfl⟩
    | bool b => exact .inr ⟨id, rfl, rfl⟩
    | num n => exact .inr ⟨id, rfl, rfl⟩
    | nan => exact .inr ⟨id, rfl, rfl⟩
    | infinity negative => exact .inr ⟨id, rfl, rfl⟩
    | str s => exact .inr ⟨id, rfl, rfl⟩
    | arr xs => exact .inr ⟨id, rfl, rfl⟩

/-- **A frame is handled in exactly one way if it is manageable, and in none if it is not.** -/
theorem existsUnique_handledAs_iff :
    (∃! w, HandledAs p sessionId st now frame w) ↔ frame.Manageable p := by
  rcases turn_cases p sessionId st now frame with ⟨hframe, w, hw⟩ | ⟨hframe, -, hturn⟩
  · exact iff_of_true ⟨w, hw, fun w' hw' => hw'.eq_way.trans hw.eq_way.symm⟩ hframe
  · refine iff_of_false ?_ hframe
    intro ⟨w, hw, _⟩
    cases w with
    | ignored => simp [HandledAs, hturn] at hw
    | buffered => simp [HandledAs, hturn] at hw
    | killSwitchAcked => simp [HandledAs, hturn] at hw
    | closedMalformed => simp [HandledAs, hturn] at hw
    | closedForeign => simp [HandledAs, hturn] at hw

end

/-! ## 3. Runs

The counter is the number of messages accepted so far, and every acknowledgement carries it. What
the other tasks change in between is the rest of the state. -/

/-- The frame is a client message of the session. -/
def accepted {c : Pydantic} (p : PyReading c) (sessionId : String) (frame : JsonLoads) : Bool :=
  (clientMessage? p frame).any (·.sessionId = sessionId)

/-- The sequence number sent back. -/
def FrameOutcome.seq? : FrameOutcome → Option Nat
  | .acked seq => some seq
  | _ => none

namespace MessageLoop

/-- The sequence numbers of the acknowledgements sent. -/
def acks (s : MessageLoop) : List Nat := s.handled.filterMap (·.outcome.seq?)

/-- They are `0, 1, 2, …`, one for each accepted frame. -/
def AcksInOrder {c : Pydantic} (p : PyReading c) (sessionId : String) (s : MessageLoop) : Prop :=
  s.acks = List.range (s.handled.countP fun h => accepted p sessionId h.frame)

/-- A text the loop receives is handled in exactly one way. -/
def HandledOnce {c : Pydantic} (p : PyReading c) (sessionId : String) (loads : String → JsonLoads)
    (s : MessageLoop) : LoopEvent → Prop
  | .text rawText now =>
    s.ended = false → ∃! w, HandledAs p sessionId s.loop now (loads rawText) w
  | .otherTasks _ _ _ => True

/-- On a text the loop receives, `parse_client_message` raises no error but its own. -/
def RaisesOwnError {c : Pydantic} (p : PyReading c) (loads : String → JsonLoads)
    (s : MessageLoop) : LoopEvent → Prop
  | .text rawText _ => s.ended = false →
      ∀ raw, loads rawText = .value (.obj raw) →
        ∀ e, p.parse raw = .error e → ∃ text, e = .envelope text
  | .otherTasks _ _ _ => True

/-- The loop is total over a run, and acknowledges in order all along it. -/
structure Total {c : Pydantic} (p : PyReading c) (sessionId : String) (loads : String → JsonLoads)
    (s : MessageLoop) (es : List LoopEvent) : Prop where
  handled : Run.EachStep (step p sessionId loads) (HandledOnce p sessionId loads) s es
  errors : Run.EachStep (step p sessionId loads) (RaisesOwnError p loads) s es
  acks : Run.Always (step p sessionId loads) (AcksInOrder p sessionId) s es

/-- A text the loop receives is manageable. -/
def ReceivesManageable {c : Pydantic} (p : PyReading c) (loads : String → JsonLoads)
    (s : MessageLoop) : LoopEvent → Prop
  | .text rawText _ => s.ended = false → (loads rawText).Manageable p
  | .otherTasks _ _ _ => True

section
variable {c : Pydantic} {p : PyReading c} {sessionId : String} {loads : String → JsonLoads}
  {s : MessageLoop}

/-- A turn acknowledges with the counter and advances it, on an accepted frame; on any other it
    does neither. -/
theorem turn_seq (p : PyReading c) (sessionId : String) (st : LoopState) (now : DateTime)
    (frame : JsonLoads) :
    (accepted p sessionId frame = true ∧
      (turn p sessionId st now frame).1.seq? = some st.delivery.seq ∧
      (turn p sessionId st now frame).2.delivery.seq = st.delivery.seq + 1) ∨
    (accepted p sessionId frame = false ∧ (turn p sessionId st now frame).1.seq? = none ∧
      (turn p sessionId st now frame).2.delivery.seq = st.delivery.seq) := by
  unfold accepted
  rcases turn_cases p sessionId st now frame with ⟨-, w, hw⟩ | ⟨-, hmessage, hturn⟩
  · cases w with
    -- A pong is no client message, so it takes no number.
    | ignored =>
      obtain ⟨hpong, hturn⟩ := hw
      cases hmessage : clientMessage? p frame with
      | none => exact .inr ⟨rfl, by rw [hturn]; rfl, by rw [hturn]⟩
      | some message => exact absurd hpong (by simp [isPong_of_message hmessage])
    | buffered =>
      obtain ⟨message, hmessage, hsession, -, hturn⟩ := hw
      exact .inl ⟨by simp [hmessage, hsession], by rw [hturn]; rfl, by rw [hturn]; rfl⟩
    | killSwitchAcked =>
      obtain ⟨message, ack, hmessage, hsession, -, hturn⟩ := hw
      refine .inl ⟨by simp [hmessage, hsession], by rw [hturn]; rfl, ?_⟩
      rw [hturn]
      show (st.delivery.recordKillSwitchAck ack.flagId).2.seq + 1 = _
      rw [DeliveryService.recordKillSwitchAck_seq]
    | closedMalformed =>
      obtain ⟨-, hmessage, reason, hturn⟩ := hw
      exact .inr ⟨by simp [hmessage], by rw [hturn]; rfl, by rw [hturn]⟩
    | closedForeign =>
      obtain ⟨message, hmessage, hsession, reason, hturn⟩ := hw
      exact .inr ⟨by simp [hmessage, hsession], by rw [hturn]; rfl, by rw [hturn]⟩
  · exact .inr ⟨by simp [hmessage], by rw [hturn]; rfl, by rw [hturn]⟩

/-- The log accounts for the counter. -/
structure Counts {c : Pydantic} (p : PyReading c) (sessionId : String) (s : MessageLoop) :
    Prop where
  seq : s.loop.delivery.seq = s.handled.countP fun h => accepted p sessionId h.frame
  acks : AcksInOrder p sessionId s

theorem Counts.step (h : Counts p sessionId s) (e : LoopEvent) :
    Counts p sessionId (s.step p sessionId loads e) := by
  cases e with
  | otherTasks pendingKill killSwitchAcked eventBuffer => exact ⟨h.seq, h.acks⟩
  | text rawText now =>
    by_cases hended : s.ended = true
    · simp only [MessageLoop.step, hended, if_true]
      exact h
    · simp only [MessageLoop.step, hended]
      have hacks : s.handled.filterMap (·.outcome.seq?) =
          List.range (s.handled.countP fun h => accepted p sessionId h.frame) := h.acks
      rcases turn_seq p sessionId s.loop now (loads rawText) with
        ⟨haccepted, hack, hseq⟩ | ⟨haccepted, hack, hseq⟩
      · constructor
        · simp [hseq, haccepted, h.seq, List.countP_append]
        · simp [AcksInOrder, MessageLoop.acks, hack, haccepted, hacks, h.seq, List.countP_append,
            List.range_succ]
      · constructor
        · simp [hseq, haccepted, h.seq, List.countP_append]
        · simp [AcksInOrder, MessageLoop.acks, hack, haccepted, hacks, List.countP_append]

theorem raisesOwnError_of_manageable {e : LoopEvent} (h : ReceivesManageable p loads s e) :
    RaisesOwnError p loads s e := by
  cases e with
  | otherTasks pendingKill killSwitchAcked eventBuffer => trivial
  | text rawText now =>
    intro hended raw hraw err herr
    cases err with
    | envelope text => exact ⟨text, rfl⟩
    | unhashableType =>
      -- the turn would raise, so the frame would not be manageable
      have hmanageable := h hended
      rw [hraw] at hmanageable
      rcases hmanageable with hpong | hdispatches
      · obtain ⟨text, htext⟩ := p.parse_of_pong (isPong_iff.mp hpong)
        rw [htext] at herr
        cases herr
      · rcases p.parse_cases raw with ⟨_, hparse, _⟩ | ⟨_, hparse, _⟩ | ⟨_, hnot⟩
        · rw [hparse] at herr
          cases herr
        · rw [hparse] at herr
          cases herr
        · exact absurd hdispatches hnot

theorem handledOnce_iff {e : LoopEvent} :
    HandledOnce p sessionId loads s e ↔ ReceivesManageable p loads s e := by
  cases e with
  | otherTasks pendingKill killSwitchAcked eventBuffer => exact Iff.rfl
  | text rawText now => exact imp_congr_right fun _ => existsUnique_handledAs_iff

end

/-- **The loop is total exactly over the runs in which every text it receives is manageable.**
    Unmanageable are the texts `json.loads` fails on in another way, those that are no object, a
    type that cannot be hashed, and a refusal whose reason does not fit a close frame. -/
theorem total_iff {c : Pydantic} (p : PyReading c) (sessionId : String) (loads : String → JsonLoads)
    (ackGraceSeconds : ℚ) (maxRetries : Nat) (eventBuffer : TelemetryEventBuffer)
    (es : List LoopEvent) :
    Total p sessionId loads (.new ackGraceSeconds maxRetries eventBuffer) es ↔
      Run.EachStep (step p sessionId loads) (ReceivesManageable p loads)
        (.new ackGraceSeconds maxRetries eventBuffer) es := by
  constructor
  · intro h
    exact h.handled.mono fun s e => handledOnce_iff.mp
  · intro h
    refine ⟨h.mono fun s e => handledOnce_iff.mpr,
      h.mono fun s e => raisesOwnError_of_manageable, ?_⟩
    have hnew : Counts p sessionId (.new ackGraceSeconds maxRetries eventBuffer) := ⟨rfl, rfl⟩
    exact (Run.always_of_step (fun s e hs => hs.step e) hnew).mono fun s hs => hs.acks

/-- A JSON array ends the loop with an `AttributeError`. -/
theorem array_not_handled :
    ¬ ∀ (c : Pydantic) (p : PyReading c) (sessionId : String) (loads : String → JsonLoads)
      (ackGraceSeconds : ℚ) (maxRetries : Nat) (eventBuffer : TelemetryEventBuffer)
      (es : List LoopEvent),
        Total p sessionId loads (.new ackGraceSeconds maxRetries eventBuffer) es := by
  intro h
  have hrun := h .strict .strict "s-1"
    (fun text => if text = "[]" then .value (.arr []) else .decodeError) 30 3
    (.new 4096 (by decide)) [.text "[]" 0]
  exact existsUnique_handledAs_iff.mp (hrun.handled.1 rfl)

end MessageLoop

end ProctorEngine
