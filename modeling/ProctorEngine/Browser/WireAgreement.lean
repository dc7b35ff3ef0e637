import ProctorEngine.Lib.Run
import ProctorEngine.Websocket.MessageLoop
import ProctorEngine.Browser.WireFormat
import ProctorEngine.Browser.WsClient

/-!
# Does the server answer every frame the client sends?

The client sends three kinds of frame: envelopes, the `pong` that answers a server `ping`, and
**the `ping` of its own heartbeat**. The first two the server answers. The third it does not
know: a `ping` is an envelope of unknown type, and the answer is a close with code 4006, which
the client treats as the end of the session.

The frames of a run are the frames of its steps, so the verdict on a run is a verdict on each
step, taken in the state the step starts from.
-/

set_option autoImplicit false

namespace ProctorEngine.Browser

namespace WsClient

def pingFrame : Dict := [("type", .str "ping")]

def pongFrame : Dict := [("type", .str "pong")]

/-- The frame an event makes the client write, if a socket is open to take it. -/
def frameOf (sessionId : SessionId) (s : WsClient) : ClientEvent → Option Dict
  | .send payload capturedAt now => some (buildEnvelope payload sessionId.val capturedAt now)
  | .heartbeatTick => if s.pingTimer then some pingFrame else none
  | .message i .ping _ => if s.sockets[i]? = some .open then some pongFrame else none
  | .message i (.killSwitch _ flagId _) now =>
    if s.sockets[i]? = some .open then
      some (buildEnvelope (.killSwitchAck ⟨flagId⟩) sessionId.val none now)
    else none
  | _ => none

/-- What writing a frame, or none, appends to the log. -/
def entries (s : WsClient) : Option Dict → List (Nat × Dict)
  | none => []
  | some frame => (s.openSocket.map fun i => (i, frame)).toList

section
variable {sessionId : SessionId} {s : WsClient}

@[simp] theorem entries_none : s.entries none = [] := rfl

theorem emit_sent {frame : Dict} : (s.emit frame).sent = s.sent ++ s.entries (some frame) := by
  unfold emit entries
  cases s.openSocket with
  | none => simp
  | some i => rfl

theorem connect_sent {throws : Bool} : (s.connect throws).sent = s.sent := by
  unfold connect
  split
  · rfl
  · split <;> rfl

theorem startClosing_sent {i : Nat} : (s.startClosing i).sent = s.sent := by
  unfold startClosing
  split <;> rfl

theorem clearReconnect_sent : s.clearReconnect.sent = s.sent := by
  unfold clearReconnect
  split <;> rfl

theorem disconnect_sent : s.disconnect.sent = s.sent := by
  simp only [disconnect]
  split
  · exact startClosing_sent.trans clearReconnect_sent
  · exact clearReconnect_sent

theorem handleClose_sent {code : Nat} : (s.handleClose code).sent = s.sent := by
  simp only [handleClose, scheduleReconnect]
  split
  · rfl
  · split <;> rfl

/-- What is recorded about the flag is not what decides where its acknowledgement goes. -/
theorem handleKillSwitch_sent {flagId : String} {now : UtcTime} :
    (s.handleKillSwitch sessionId flagId now).sent =
      s.sent ++
        s.entries (some (buildEnvelope (.killSwitchAck ⟨flagId⟩) sessionId.val none now)) := by
  unfold handleKillSwitch
  split
  · exact emit_sent
  · exact emit_sent

theorem handleMessage_sent {i : Nat} {msg : ServerMessage} {now : UtcTime}
    (hopen : s.sockets[i]? = some .open) :
    (s.handleMessage sessionId now msg).sent =
      s.sent ++ s.entries (s.frameOf sessionId (.message i msg now)) := by
  cases msg with
  | ping =>
    rw [show s.frameOf sessionId (.message i .ping now) = some pongFrame from if_pos hopen]
    exact emit_sent
  | killSwitch reason flagId hflag =>
    rw [show s.frameOf sessionId (.message i (.killSwitch reason flagId hflag) now) = some _ from
      if_pos hopen]
    exact handleKillSwitch_sent
  | ack => exact (List.append_nil _).symm
  | policyUpdate => exact (List.append_nil _).symm
  | unrecognised => exact (List.append_nil _).symm

/-- **A step appends its own frame to the log and nothing else.** -/
theorem step_sent (e : ClientEvent) :
    (step sessionId s e).sent = s.sent ++ s.entries (s.frameOf sessionId e) := by
  cases e with
  | connect throws => exact connect_sent.trans (List.append_nil _).symm
  | disconnect => exact disconnect_sent.trans (List.append_nil _).symm
  | send payload capturedAt now => exact emit_sent
  -- Frames leave from `emit` alone: by a send, a heartbeat, or an answer to a message.
  | heartbeatTick =>
    simp only [step, frameOf]
    split
    · exact emit_sent
    · exact (List.append_nil _).symm
  | reconnectTimeout t throws =>
    refine Eq.trans ?_ (List.append_nil _).symm
    simp only [step]
    split
    · exact connect_sent
    · rfl
  | opened i =>
    refine Eq.trans ?_ (List.append_nil _).symm
    simp only [step]
    split <;> rfl
  | message i msg now =>
    by_cases hopen : s.sockets[i]? = some .open
    · have hstep : step sessionId s (.message i msg now) = s.handleMessage sessionId now msg :=
        if_pos hopen
      rw [hstep]
      exact handleMessage_sent hopen
    · -- a message on a socket that is not open is not delivered
      rw [show step sessionId s (.message i msg now) = s from if_neg hopen]
      cases msg <;> simp [frameOf, hopen]
  | closing i => exact startClosing_sent.trans (List.append_nil _).symm
  | closed i code =>
    refine Eq.trans ?_ (List.append_nil _).symm
    simp only [step]
    split
    · exact handleClose_sent
    · rfl

/-- A predicate on the frames of a run is a predicate on the frame of each step. -/
theorem forall_sent_iff {P : Dict → Prop} {es : List ClientEvent} :
    (∀ f ∈ (Run.final (step sessionId) s es).sent, P f.2) ↔
      (∀ f ∈ s.sent, P f.2) ∧
        Run.EachStep (step sessionId)
          (fun t e => ∀ f ∈ t.entries (t.frameOf sessionId e), P f.2) s es := by
  induction es generalizing s with
  | nil => simp
  | cons e es ih =>
    rw [Run.final_cons, ih, step_sent, Run.eachStep_cons, ← and_assoc]
    simp only [List.mem_append, or_imp, forall_and]

/-- The condition on a step: no tick of a live heartbeat interval finds a socket open, and a
    payload handed to an open socket is a valid one. -/
def Harmless (s : WsClient) : ClientEvent → Prop
  | .heartbeatTick => ¬ (s.pingTimer = true ∧ s.openSocket.isSome)
  | .send payload _ _ => s.openSocket.isSome → payload.Valid
  | _ => True

theorem forall_entries_iff {P : Dict → Prop} {frame : Option Dict} :
    (∀ f ∈ s.entries frame, P f.2) ↔ (s.openSocket.isSome → ∀ f ∈ frame, P f) := by
  cases frame with
  | none => simp
  | some f => cases hs : s.openSocket <;> simp [entries, hs]

end

/-! ## 2. Which frames the server answers -/

section
variable {c : Pydantic} {sessionId : SessionId}

theorem answers_pongFrame : Answers c sessionId.val (some (.obj pongFrame)) :=
  answers_pong rfl

/-- A `ping` is an envelope of unknown type, which ends the connection. -/
theorem not_answers_pingFrame : ¬ Answers c sessionId.val (some (.obj pingFrame)) :=
  not_answers_of_envelopeError (e := .unknownType (.str "ping"))
    (by simp [Json.get?, pingFrame]) rfl

theorem answers_buildEnvelope_iff {p : ClientPayload} {capturedAt : Option UtcTime}
    {now : UtcTime} :
    Answers c sessionId.val (some (.obj (buildEnvelope p sessionId.val capturedAt now))) ↔
      p.Valid := by
  obtain ⟨read, hvalid, hparse⟩ := parse_buildEnvelope c p capturedAt now sessionId.property
  rw [← hvalid]
  cases read with
  | some payload => exact iff_of_true (answers_of_parse hparse rfl) rfl
  | none =>
    have hpong : Json.get? (buildEnvelope p sessionId.val capturedAt now) "type" ≠
        some (.str "pong") := by
      cases p <;> simp [Json.get?, buildEnvelope, ClientPayload.type]
    exact iff_of_false (not_answers_of_envelopeError hpong hparse) (by simp)

/-- The step condition is what it should be: the frame of the step is answered. -/
theorem harmless_iff {s : WsClient} {e : ClientEvent} :
    (∀ f ∈ s.entries (s.frameOf sessionId e), Answers c sessionId.val (some (.obj f.2))) ↔
      s.Harmless e := by
  refine (forall_entries_iff
    (P := fun f => Answers c sessionId.val (some (.obj f)))).trans ?_
  cases e with
  | heartbeatTick =>
    by_cases htimer : s.pingTimer = true
    · simp [frameOf, Harmless, htimer, not_answers_pingFrame]
    · simp [frameOf, Harmless, htimer]
  | send payload capturedAt now => simp [frameOf, Harmless, answers_buildEnvelope_iff]
  | message i msg now =>
    cases msg with
    | ping => simp [frameOf, Harmless, answers_pongFrame]
    | killSwitch reason flagId hflag =>
      simp [frameOf, Harmless, answers_buildEnvelope_iff, ClientPayload.Valid, hflag]
    | ack => simp [frameOf, Harmless]
    | policyUpdate => simp [frameOf, Harmless]
    | unrecognised => simp [frameOf, Harmless]
  | connect throws => simp [frameOf, Harmless]
  | disconnect => simp [frameOf, Harmless]
  | reconnectTimeout t throws => simp [frameOf, Harmless]
  | opened i => simp [frameOf, Harmless]
  | closing i => simp [frameOf, Harmless]
  | closed i code => simp [frameOf, Harmless]

end

/-! ## 3. The verdict -/

/-- Every frame a client writes in a run is one the server answers. -/
def AllAnswered (c : Pydantic) (sessionId : SessionId) (es : List ClientEvent) : Prop :=
  ∀ f ∈ (Run.final (step sessionId) new es).sent, Answers c sessionId.val (some (.obj f.2))

/-- **The ends of the wire agree exactly on the runs in which no heartbeat tick finds the connection
    open** and no invalid payload is handed to it. A tick sends a `ping`, which is no type of the
    server's and closes the connection; and the types of the page allow more than the server
    validates. -/
theorem allAnswered_iff (c : Pydantic) (sessionId : SessionId) (es : List ClientEvent) :
    AllAnswered c sessionId es ↔ Run.EachStep (step sessionId) Harmless new es := by
  unfold AllAnswered
  rw [forall_sent_iff (P := fun f => Answers c sessionId.val (some (.obj f)))]
  simp only [harmless_iff]
  exact and_iff_right (by simp [new])

/-- The first tick after the connection opens is refused. -/
theorem heartbeat_not_answered :
    ¬ ∀ (c : Pydantic) (sessionId : SessionId) (es : List ClientEvent),
      (∀ payload capturedAt now, ClientEvent.send payload capturedAt now ∈ es → payload.Valid) →
        AllAnswered c sessionId es := by
  intro h
  have hrun := h .strict ⟨"1", by decide⟩ [.connect false, .opened 0, .heartbeatTick] (by simp)
  exact absurd (hrun (0, pingFrame) (by decide)) not_answers_pingFrame

end WsClient

end ProctorEngine.Browser
