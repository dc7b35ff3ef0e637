import ProctorEngine.Lib.Run
import ProctorEngine.Browser.WsClient

/-!
# Terminal is forever

A client whose host calls `connect()` once goes from socket to socket by itself: a socket that
closes leaves a timeout behind, and the timeout makes the next socket. So sockets that are not
closed and timeouts that have not fired are **one token that changes hands**, and there is at most
one of either. A kill switch, a close with a code of the four thousands and `disconnect()` make the
client terminal, and a terminal client has no timeout: nothing is left that could make another
socket.

`connect()` is the only other thing that makes a socket, and the host has had its turn: the events
of a run are the later ones. A second call would be a second token, and the client does nothing to
prevent it.

The events that close a socket do not come from the client. A terminal client asks its socket to
close and waits for the browser to say that it has; until then the status may still be the old one.
So the second half of the statement is about the number of sockets ever made, and about the status
once no socket is live.
-/

set_option autoImplicit false

namespace ProctorEngine.Browser

/-- An event of the page other than the host's `connect()`. -/
abbrev LaterEvent := { e : ClientEvent // ∀ throws, e ≠ .connect throws }

/-- What happens to a client once it has been connected. -/
inductive ConnectionEvent where
  | errored (socket : Nat)
  | event (e : LaterEvent)

namespace WsClient

/-- `handleError` logs the event. The close that follows is an event of its own. -/
def handleError (s : WsClient) : WsClient := s

def connectionStep (sessionId : SessionId) (s : WsClient) : ConnectionEvent → WsClient
  | .errored _ => s.handleError
  | .event e => s.step sessionId e.val

/-- The number of sockets that are not closed. -/
def liveSockets (s : WsClient) : Nat := s.sockets.countP (· ≠ .closed)

/-- The events that make a client terminal: `disconnect()`, a kill switch on an open socket, and
    a close with a code of the four thousands. -/
def MakesTerminal (s : WsClient) : ConnectionEvent → Prop
  | .errored _ => False
  | .event e =>
    match e.val with
    | .disconnect => True
    | .message i (.killSwitch ..) _ => s.sockets[i]? = some .open
    | .closed i code =>
      (i < s.sockets.length ∧ s.sockets[i]? ≠ some .closed) ∧ 4000 ≤ code ∧ code < 5000
    | _ => False

/-! ## 1. The invariant

The token is counted, `liveSockets + timeouts.length ≤ 1`, and the client knows the timeout that is
pending, so that clearing it clears all there are. -/

structure ConnectionInvariant (s : WsClient) : Prop where
  oneToken : s.liveSockets + s.timeouts.length ≤ 1
  remembered : ∀ t ∈ s.timeouts, s.reconnectTimer = some t
  noTimeout : s.isTerminal = true → s.timeouts = []
  disconnected : s.isTerminal = true → s.liveSockets = 0 → s.status = .disconnectedTerminal

section
variable {s s' : WsClient} {sessionId : SessionId} {i : Nat}

theorem liveSockets_append (c : ReadyState) (hc : c ≠ .closed) :
    (s.sockets ++ [c]).countP (· ≠ .closed) = s.liveSockets + 1 := by
  rw [List.countP_append, liveSockets]
  simp [hc]

theorem liveSockets_pos {c : ReadyState} (h : s.sockets[i]? = some c) (hc : c ≠ .closed) :
    0 < s.liveSockets := by
  rw [liveSockets, List.countP_pos_iff]
  exact ⟨c, List.mem_of_getElem? h, by simpa using hc⟩

/-- A socket that is not closed goes from one ready state to another. -/
theorem liveSockets_setReadyState {c d : ReadyState} (h : s.sockets[i]? = some c)
    (hc : c ≠ .closed) :
    (s.setReadyState i d).liveSockets + 1 =
      s.liveSockets + if d = .closed then 0 else 1 := by
  have hpos := liveSockets_pos h hc
  obtain ⟨hi, hget⟩ := List.getElem?_eq_some_iff.mp h
  have hset : (s.setReadyState i d).liveSockets =
      s.liveSockets - 1 + if d = .closed then 0 else 1 := by
    unfold setReadyState liveSockets
    rw [List.countP_set hi, hget]
    simp [hc]
  rw [hset]
  omega

theorem liveSockets_startClosing : (s.startClosing i).liveSockets = s.liveSockets := by
  unfold startClosing
  split
  case isFalse => rfl
  case isTrue h =>
    obtain h | h := h
    · have hset := liveSockets_setReadyState (d := .closing) h (by decide)
      simp at hset
      exact hset
    · have hset := liveSockets_setReadyState (d := .closing) h (by decide)
      simp at hset
      exact hset

theorem startClosing_timeouts : (s.startClosing i).timeouts = s.timeouts := by
  unfold startClosing
  split <;> rfl

theorem clearReconnect_sockets : s.clearReconnect.sockets = s.sockets := by
  unfold clearReconnect
  split <;> rfl

/-- The timeout that is cleared is the one that is pending. -/
theorem clearReconnect_timeouts (hone : s.timeouts.length ≤ 1)
    (hremembered : ∀ t ∈ s.timeouts, s.reconnectTimer = some t) :
    s.clearReconnect.timeouts = [] := by
  unfold clearReconnect
  cases hs : s.timeouts with
  | nil => split <;> simp [hs]
  | cons t rest =>
    have ht : s.reconnectTimer = some t := hremembered t (by rw [hs]; exact List.mem_cons_self)
    have hrest : rest = [] := by
      apply List.eq_nil_of_length_eq_zero
      rw [hs, List.length_cons] at hone
      omega
    subst hrest
    simp [ht]

/-! ## 2. The events

One lemma for each method of the client that can be called by an event. Most of them are about a
socket that is not closed, so that there is no timeout. -/

namespace ConnectionInvariant

theorem emit (h : s.ConnectionInvariant) (frame : Dict) : (s.emit frame).ConnectionInvariant := by
  unfold WsClient.emit
  split
  · exact ⟨h.oneToken, h.remembered, h.noTimeout, h.disconnected⟩
  · exact h

/-- While a socket is there, no timeout is. -/
theorem timeouts_eq_nil (h : s.ConnectionInvariant) (hpos : 0 < s.liveSockets) :
    s.timeouts = [] := by
  have hone := h.oneToken
  apply List.eq_nil_of_length_eq_zero
  omega

/-- The timeout that fires is the only one, and gives its turn to the new socket. -/
theorem reconnectTimeout {t : Nat} (h : s.ConnectionInvariant) (ht : t ∈ s.timeouts)
    (throws : Bool) :
    ({ s with timeouts := s.timeouts.erase t }.connect throws).ConnectionInvariant := by
  have hone := h.oneToken
  have hpos := List.length_pos_of_mem ht
  have hnone : s.timeouts.erase t = [] := by
    apply List.eq_nil_of_length_eq_zero
    rw [List.length_erase_of_mem ht]
    omega
  have hterminal : ¬ s.isTerminal = true := by
    intro hterminal
    rw [h.noTimeout hterminal] at ht
    exact absurd ht List.not_mem_nil
  rw [hnone]
  unfold connect
  rw [if_neg hterminal]
  cases throws with
  | true =>
    refine ⟨?_, nofun, fun _ => rfl, fun _ _ => rfl⟩
    show s.liveSockets + 0 ≤ 1
    omega
  | false =>
    refine ⟨?_, nofun, fun _ => rfl, fun hended => absurd hended hterminal⟩
    show (s.sockets ++ [ReadyState.connecting]).countP (· ≠ ReadyState.closed) + 0 ≤ 1
    rw [liveSockets_append ReadyState.connecting (by decide)]
    omega

theorem startClosing (h : s.ConnectionInvariant) (i : Nat) :
    (s.startClosing i).ConnectionInvariant := by
  have hlive := liveSockets_startClosing (s := s) (i := i)
  revert hlive
  unfold WsClient.startClosing
  split
  · intro hlive
    refine ⟨?_, h.remembered, h.noTimeout, fun hterminal hzero => ?_⟩
    · rw [hlive]
      exact h.oneToken
    · rw [hlive] at hzero
      exact h.disconnected hterminal hzero
  · intro _
    exact h

theorem of_no_timeout (hlive : s.liveSockets ≤ 1) (hnil : s.timeouts = [])
    (hstatus : s.liveSockets = 0 → s.status = .disconnectedTerminal) :
    s.ConnectionInvariant where
  oneToken := by
    rw [hnil]
    exact hlive
  remembered := by
    rw [hnil]
    exact nofun
  noTimeout _ := hnil
  disconnected _ := hstatus

theorem liveSockets_le (h : s.ConnectionInvariant) : s.liveSockets ≤ 1 :=
  (Nat.le_add_right _ _).trans h.oneToken

theorem timeouts_le (h : s.ConnectionInvariant) : s.timeouts.length ≤ 1 :=
  (Nat.le_add_left _ _).trans h.oneToken

theorem disconnect (h : s.ConnectionInvariant) : s.disconnect.ConnectionInvariant := by
  have hsockets : (clearReconnect (stopHeartbeat { s with isTerminal := true })).sockets =
      s.sockets := clearReconnect_sockets
  have hnil : (clearReconnect (stopHeartbeat { s with isTerminal := true })).timeouts = [] :=
    clearReconnect_timeouts h.timeouts_le h.remembered
  have hlive : (clearReconnect (stopHeartbeat { s with isTerminal := true })).liveSockets ≤ 1 := by
    unfold liveSockets
    rw [hsockets]
    exact h.liveSockets_le
  unfold WsClient.disconnect
  dsimp only
  split
  case h_1 i hws =>
    apply of_no_timeout _ _ fun _ => rfl
    · exact liveSockets_startClosing.trans_le hlive
    · exact startClosing_timeouts.trans hnil
  case h_2 hws => exact of_no_timeout hlive hnil fun _ => rfl

theorem opened (h : s.ConnectionInvariant) (hi : s.sockets[i]? = some .connecting) :
    (s.setReadyState i .open).handleOpen.ConnectionInvariant := by
  have hset := liveSockets_setReadyState (d := .open) hi (by decide)
  have hpos := liveSockets_pos hi (by decide)
  have hlive : (s.setReadyState i .open).handleOpen.liveSockets = s.liveSockets := by
    simp at hset
    exact hset
  apply of_no_timeout
  · rw [hlive]
    exact h.liveSockets_le
  · exact h.timeouts_eq_nil hpos
  · intro hzero
    omega

/-- A message comes over an open socket, so a client made terminal has no timeout. -/
theorem message (h : s.ConnectionInvariant) (hi : s.sockets[i]? = some .open)
    (sessionId : SessionId) (now : UtcTime) (msg : ServerMessage) :
    (s.handleMessage sessionId now msg).ConnectionInvariant := by
  cases msg with
  | ping => exact h.emit _
  | ack => exact h
  | policyUpdate => exact h
  | unrecognised => exact h
  | killSwitch reason flagId hflag =>
    have hpos := liveSockets_pos hi (by decide)
    have hnil := h.timeouts_eq_nil hpos
    have hstatus : s.liveSockets = 0 → s.status = .disconnectedTerminal := by
      intro hzero
      omega
    show ({ s with isTerminal := true }.handleKillSwitch sessionId flagId now).ConnectionInvariant
    unfold handleKillSwitch
    split
    · exact (of_no_timeout (s := { s with isTerminal := true }) h.liveSockets_le hnil
        hstatus).emit _
    · exact (of_no_timeout
        (s := { s with isTerminal := true, handledFlagIds := flagId :: s.handledFlagIds })
        h.liveSockets_le hnil hstatus).emit _

/-- The socket that closes gives its turn to the timeout, unless the client is terminal. -/
theorem closed (h : s.ConnectionInvariant)
    (hi : i < s.sockets.length ∧ s.sockets[i]? ≠ some .closed) (code : Nat) :
    ((s.setReadyState i .closed).handleClose code).ConnectionInvariant := by
  obtain ⟨hlt, hne⟩ := hi
  have hget : s.sockets[i]? = some s.sockets[i] := List.getElem?_eq_getElem hlt
  have hopen : s.sockets[i] ≠ .closed := by
    intro heq
    rw [hget, heq] at hne
    exact hne rfl
  have hpos := liveSockets_pos hget hopen
  have hnil : (s.setReadyState i .closed).timeouts = [] := h.timeouts_eq_nil hpos
  -- the socket that has closed was the only one
  have hzero : (s.setReadyState i .closed).liveSockets = 0 := by
    have hset := liveSockets_setReadyState (d := .closed) hget hopen
    have hle := h.liveSockets_le
    simp only [if_true] at hset
    omega
  have hlive : (s.setReadyState i .closed).liveSockets ≤ 1 := by omega
  unfold handleClose
  dsimp only
  split
  · exact of_no_timeout hlive hnil fun _ => rfl
  split
  · exact of_no_timeout hlive hnil fun _ => rfl
  case isFalse hterminal hcode =>
    -- the token goes from the socket to the timeout
    unfold scheduleReconnect
    rw [if_neg hterminal]
    refine ⟨?_, ?_, fun hended => absurd hended hterminal, fun hended => absurd hended hterminal⟩
    · show (s.setReadyState i .closed).liveSockets +
        ((s.setReadyState i .closed).timeoutsMade ::
          (s.setReadyState i .closed).timeouts).length ≤ 1
      rw [hzero, hnil]
      rfl
    · intro t ht
      have ht' : t ∈ (s.setReadyState i .closed).timeoutsMade ::
          (s.setReadyState i .closed).timeouts := ht
      rw [hnil, List.mem_singleton] at ht'
      rw [ht']
      rfl

end ConnectionInvariant

theorem ConnectionInvariant.step (h : s.ConnectionInvariant) (e : ConnectionEvent) :
    (s.connectionStep sessionId e).ConnectionInvariant := by
  cases e with
  | errored i => exact h
  | event e =>
    obtain ⟨e, hlater⟩ := e
    show (s.step sessionId e).ConnectionInvariant
    cases e with
    | connect throws => exact absurd rfl (hlater throws)
    | disconnect => exact h.disconnect
    | send payload capturedAt now => exact h.emit _
    | heartbeatTick =>
      show (if s.pingTimer then s.emit _ else s).ConnectionInvariant
      split
      · exact h.emit _
      · exact h
    | reconnectTimeout t throws =>
      show (if t ∈ s.timeouts then _ else s : WsClient).ConnectionInvariant
      split
      case isTrue ht => exact h.reconnectTimeout ht throws
      case isFalse => exact h
    -- A callback of a socket runs only in the ready state that fires it.
    | opened i =>
      show (if s.sockets[i]? = some .connecting then _ else s : WsClient).ConnectionInvariant
      split
      case isTrue hi => exact h.opened hi
      case isFalse => exact h
    | message i msg now =>
      show (if s.sockets[i]? = some .open then _ else s : WsClient).ConnectionInvariant
      split
      case isTrue hi => exact h.message hi sessionId now msg
      case isFalse => exact h
    | closing i => exact h.startClosing i
    | closed i code =>
      show (if i < s.sockets.length ∧ s.sockets[i]? ≠ some .closed then _ else s :
        WsClient).ConnectionInvariant
      split
      case isTrue hi => exact h.closed hi code
      case isFalse => exact h

/-- The host's one call. -/
theorem connectionInvariant_connect (throws : Bool) :
    (new.connect throws).ConnectionInvariant := by
  cases throws with
  | true => exact ConnectionInvariant.of_no_timeout (Nat.zero_le 1) rfl fun _ => rfl
  | false => exact ConnectionInvariant.of_no_timeout le_rfl rfl nofun

/-! ## 3. A terminal client

For each method, that it makes no socket and leaves a terminal client terminal. The one that makes
sockets belongs to a timeout, of which there is none. -/

theorem emit_sockets {frame : Dict} : (s.emit frame).sockets = s.sockets := by
  unfold emit
  split <;> rfl

theorem emit_isTerminal {frame : Dict} : (s.emit frame).isTerminal = s.isTerminal := by
  unfold emit
  split <;> rfl

theorem startClosing_length : (s.startClosing i).sockets.length = s.sockets.length := by
  unfold startClosing
  split
  · exact List.length_set
  · rfl

theorem startClosing_isTerminal : (s.startClosing i).isTerminal = s.isTerminal := by
  unfold startClosing
  split <;> rfl

theorem disconnect_length : s.disconnect.sockets.length = s.sockets.length := by
  have hsockets : (clearReconnect (stopHeartbeat { s with isTerminal := true })).sockets =
      s.sockets := clearReconnect_sockets
  unfold disconnect
  dsimp only
  split
  · exact startClosing_length.trans (congrArg List.length hsockets)
  · exact congrArg List.length hsockets

theorem clearReconnect_isTerminal : s.clearReconnect.isTerminal = s.isTerminal := by
  unfold clearReconnect
  split <;> rfl

theorem disconnect_isTerminal : s.disconnect.isTerminal = true := by
  have hterminal : (clearReconnect (stopHeartbeat { s with isTerminal := true })).isTerminal =
      true := clearReconnect_isTerminal
  unfold disconnect
  dsimp only
  split
  · exact startClosing_isTerminal.trans hterminal
  · exact hterminal

theorem handleKillSwitch_sockets {flagId : String} {now : UtcTime} :
    (s.handleKillSwitch sessionId flagId now).sockets = s.sockets := by
  unfold handleKillSwitch
  split
  · exact emit_sockets
  · exact emit_sockets

theorem handleKillSwitch_isTerminal {flagId : String} {now : UtcTime} :
    (s.handleKillSwitch sessionId flagId now).isTerminal = s.isTerminal := by
  unfold handleKillSwitch
  split
  · exact emit_isTerminal
  · exact emit_isTerminal

theorem handleMessage_sockets {now : UtcTime} {msg : ServerMessage} :
    (s.handleMessage sessionId now msg).sockets = s.sockets := by
  cases msg with
  | ping => exact emit_sockets
  | killSwitch reason flagId hflag => exact handleKillSwitch_sockets
  | ack => rfl
  | policyUpdate => rfl
  | unrecognised => rfl

theorem handleMessage_isTerminal {now : UtcTime} {msg : ServerMessage}
    (h : s.isTerminal = true) : (s.handleMessage sessionId now msg).isTerminal = true := by
  cases msg with
  | ping => exact emit_isTerminal.trans h
  | killSwitch reason flagId hflag => exact handleKillSwitch_isTerminal
  | ack => exact h
  | policyUpdate => exact h
  | unrecognised => exact h

theorem closed_length {code : Nat} :
    ((s.setReadyState i .closed).handleClose code).sockets.length = s.sockets.length := by
  have hset : (s.setReadyState i .closed).sockets.length = s.sockets.length := List.length_set
  unfold handleClose scheduleReconnect
  dsimp only
  split
  · exact hset
  split
  · exact hset
  · exact hset

theorem closed_isTerminal {code : Nat}
    (h : s.isTerminal = true ∨ 4000 ≤ code ∧ code < 5000) :
    ((s.setReadyState i .closed).handleClose code).isTerminal = true := by
  unfold handleClose
  dsimp only
  split
  case isTrue hterminal => exact hterminal
  case isFalse hterminal =>
    obtain h | h := h
    · exact absurd h hterminal
    · rw [if_pos h]
      rfl

/-- Without a timeout there is nothing that would make a socket. -/
theorem step_of_isTerminal (hinv : s.ConnectionInvariant) (h : s.isTerminal = true)
    (e : ConnectionEvent) :
    (s.connectionStep sessionId e).isTerminal = true ∧
      (s.connectionStep sessionId e).sockets.length = s.sockets.length := by
  cases e with
  | errored i => exact ⟨h, rfl⟩
  | event e =>
    obtain ⟨e, hlater⟩ := e
    show (s.step sessionId e).isTerminal = true ∧
      (s.step sessionId e).sockets.length = s.sockets.length
    cases e with
    | connect throws => exact absurd rfl (hlater throws)
    | disconnect => exact ⟨disconnect_isTerminal, disconnect_length⟩
    | send payload capturedAt now =>
      exact ⟨emit_isTerminal.trans h, congrArg List.length emit_sockets⟩
    | heartbeatTick =>
      unfold WsClient.step
      dsimp only
      split
      · exact ⟨emit_isTerminal.trans h, congrArg List.length emit_sockets⟩
      · exact ⟨h, rfl⟩
    | reconnectTimeout t throws =>
      -- No timeout is pending on a terminal connection, so none reconnects.
      have hkept : s.step sessionId (.reconnectTimeout t throws) = s := by
        apply if_neg
        rw [hinv.noTimeout h]
        exact List.not_mem_nil
      rw [hkept]
      exact ⟨h, rfl⟩
    | opened i =>
      unfold WsClient.step
      dsimp only
      split
      · exact ⟨h, List.length_set⟩
      · exact ⟨h, rfl⟩
    | message i msg now =>
      unfold WsClient.step
      dsimp only
      split
      · exact ⟨handleMessage_isTerminal h, congrArg List.length handleMessage_sockets⟩
      · exact ⟨h, rfl⟩
    | closing i => exact ⟨startClosing_isTerminal.trans h, startClosing_length⟩
    | closed i code =>
      unfold WsClient.step
      dsimp only
      split
      · exact ⟨closed_isTerminal (.inl h), closed_length⟩
      · exact ⟨h, rfl⟩

/-- An event that makes the client terminal makes no socket. -/
theorem step_of_makesTerminal {e : ConnectionEvent} (he : s.MakesTerminal e) :
    (s.connectionStep sessionId e).isTerminal = true ∧
      (s.connectionStep sessionId e).sockets.length = s.sockets.length := by
  cases e with
  | errored i => exact he.elim
  | event e =>
    obtain ⟨e, hlater⟩ := e
    show (s.step sessionId e).isTerminal = true ∧
      (s.step sessionId e).sockets.length = s.sockets.length
    cases e with
    | disconnect => exact ⟨disconnect_isTerminal, disconnect_length⟩
    | message i msg now =>
      cases msg with
      | killSwitch reason flagId hflag =>
        have hstep : s.step sessionId (.message i (.killSwitch reason flagId hflag) now) =
            { s with isTerminal := true }.handleKillSwitch sessionId flagId now := if_pos he
        rw [hstep]
        exact ⟨handleKillSwitch_isTerminal, congrArg List.length handleKillSwitch_sockets⟩
      | _ => exact he.elim
    | closed i code =>
      have hstep : s.step sessionId (.closed i code) =
          (s.setReadyState i .closed).handleClose code := if_pos he.1
      rw [hstep]
      exact ⟨closed_isTerminal (.inr he.2), closed_length⟩
    | _ => exact he.elim

/-- A client that is terminal, and the number of the sockets it has made. -/
structure Ended (made : Nat) (s : WsClient) : Prop where
  invariant : s.ConnectionInvariant
  isTerminal : s.isTerminal = true
  sockets : s.sockets.length = made

theorem Ended.step {made : Nat} (h : Ended made s) (e : ConnectionEvent) :
    Ended made (s.connectionStep sessionId e) := by
  obtain ⟨hterminal, hlength⟩ := step_of_isTerminal h.invariant h.isTerminal e
  exact ⟨h.invariant.step e, hterminal, hlength.trans h.sockets⟩

theorem Ended.of_makesTerminal (sessionId : SessionId) {e : ConnectionEvent}
    (h : s.ConnectionInvariant) (he : s.MakesTerminal e) :
    Ended s.sockets.length (s.connectionStep sessionId e) := by
  obtain ⟨hterminal, hlength⟩ := step_of_makesTerminal he
  exact ⟨h.step e, hterminal, hlength⟩

/-! ## 4. Runs

Before the event that makes the client terminal, the invariant; after it, that and the number of
sockets made. -/

/-- **Terminal is forever.** Along every run at most one socket and at most one reconnect timeout
    are live; and after an event that makes the client terminal no socket is ever made, and the
    status is terminal whenever no socket is live. -/
theorem terminal_forever (sessionId : SessionId) (throws : Bool) (es : List ConnectionEvent) :
    Run.Always (connectionStep sessionId)
        (fun s => s.liveSockets ≤ 1 ∧ s.timeouts.length ≤ 1) (new.connect throws) es ∧
      ∀ before e after, es = before ++ e :: after →
        (Run.final (connectionStep sessionId) (new.connect throws) before).MakesTerminal e →
          Run.Always (connectionStep sessionId)
            (fun s =>
              s.sockets.length = (Run.final (connectionStep sessionId) (new.connect throws)
                before).sockets.length ∧
              (s.liveSockets = 0 → s.status = .disconnectedTerminal))
            (Run.final (connectionStep sessionId) (new.connect throws) (before ++ [e])) after := by
  have hinv : ∀ es, Run.Always (connectionStep sessionId) ConnectionInvariant
      (new.connect throws) es := fun es =>
    Run.always_of_step (fun s e h => h.step e) (connectionInvariant_connect throws)
  constructor
  · exact (hinv es).mono fun s h => ⟨h.liveSockets_le, h.timeouts_le⟩
  · intro before e after _ he
    rw [Run.final_append]
    have hended := Ended.of_makesTerminal sessionId (hinv before).final he
    have hrun : Run.Always (connectionStep sessionId) (Ended _) _ after :=
      Run.always_of_step (fun s e h => h.step e) hended
    exact hrun.mono fun s h => ⟨h.sockets, h.invariant.disconnected h.isTerminal⟩

def launchedSession : SessionId := ⟨"launched", by decide⟩

def opens : ConnectionEvent := .event ⟨.opened 0, nofun⟩

def rejected : ConnectionEvent := .event ⟨.closed 0 4001, nofun⟩

def timeoutFires : ConnectionEvent := .event ⟨.reconnectTimeout 0 false, nofun⟩

/-- A client the server rejects does not come back. -/
theorem terminal_forever_rejected :
    Run.Always (connectionStep launchedSession)
      (fun s => s.sockets.length = 1 ∧ (s.liveSockets = 0 → s.status = .disconnectedTerminal))
      (Run.final (connectionStep launchedSession) (new.connect false) [opens, rejected])
      [timeoutFires] :=
  (terminal_forever launchedSession false [opens, rejected, timeoutFires]).2 [opens] rejected
    [timeoutFires] rfl ⟨⟨by decide, by decide⟩, by decide, by decide⟩

end

end WsClient

end ProctorEngine.Browser
