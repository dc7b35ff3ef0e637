import ProctorEngine.Browser.PageLife
import ProctorEngine.Orchestration.KillSwitchDelivery

/-!
# An exam, both ends of it

The whole service and the pages of one session: the launch's, and one more for each reload. Between
them is a network that is trusted with nothing but the contents: whatever the server wrote on any
connection of the session can reach any of its pages at any time, on any socket, late, again or
never, and so can what the pages wrote reach any connection of the session. The connections of other
sessions receive what they receive.

**A page locks for nothing but the recorded termination of its session, and once; and no kill-switch
counts as acknowledged on a connection of the session before a page has locked for it.**

Each end has its own invariant, `Process.Inv` for the service and `ExamPage.Invariant` for a page.
What is added here is what the two say about each other:

* whatever a page has handled, a connection of the session has raised (`Raised`), and what was
  raised is recorded;
* whatever a connection takes for acknowledged, a page has handled (`AckedIn`).

Both are monotone, since a line keeps what it has raised and a page keeps what it has handled. So a
frame may be as late as it likes: what made it true when it was written still holds when it is read.

The contents go through the real texts. A delivery reads, with the page's reader, what the server's
encoder wrote, and a frame of a page is parsed by the server's parser.
-/

set_option autoImplicit false

namespace ProctorEngine

open Browser

/-! ## 1. The two ends

A step is at one end, or carries one frame over. The frames are named by their place in what a
connection, or a page, has written so far; nothing is ever taken off these lists, so a frame can be
delivered any number of times. -/

structure Exam where
  process : Process
  pages : List ExamPage

inductive ExamStep where
  /-- Anything at the service, but for a frame on a connection of the session. -/
  | server (l : ProcessStep)
  /-- The launch is visited. -/
  | boot (sessionToken : List Char) (creationError : Option String)
  /-- What happens at the `j`-th page, but for a text of the server. -/
  | page (j : Nat) (input : PageInput)
  /-- The `k`-th frame of the `i`-th connection reaches the `j`-th page. -/
  | deliver (i k j socket : Nat) (now : UtcTime)
  /-- The `k`-th frame of the `j`-th page reaches the `i`-th connection. -/
  | receive (j k i : Nat) (now : DateTime) (fails : Bool)

namespace Exam

def start (eventBuffer : TelemetryEventBuffer) (db : Database) (store : EvidenceStore) : Exam :=
  ⟨.start ⟨.idle eventBuffer db, store⟩, []⟩

/-- A line of the session. -/
def line? (e : Exam) (sid : UUID) (i : Nat) : Option Line :=
  (e.process.line? i).filter fun line => line.conn.claims.sid = sid

/-- A text on a connection of the session. -/
def text? (e : Exam) (sid : UUID) (i k : Nat) : Option Deliver :=
  match (e.line? sid i).bind fun line => line.out.written[k]? with
  | some (.text d) => some d
  | some (.close _ _) | none => none

/-- Whether a step of the service is a frame on a connection of the session. -/
def isFrame (e : Exam) (sid : UUID) : ProcessStep → Bool
  | .on i (.act (.receive _ _) _) => (e.line? sid i).isSome
  | .on _ _ | .service _ => false

/-- Something happens at a page. -/
def turn (e : Exam) (j : Nat) (input : PageInput) : Exam :=
  match e.pages[j]? with
  | none => e
  | some page => { e with pages := e.pages.set j (page.step input) }

/-- A step of the service or of a page. What passes between the two goes through `deliver` and
    `receive`: any text that was ever written, as often and as late as the network likes. -/
def step (py : Pydantic) (deps : OrchestrationDeps) (isoformat : DateTime → String) (sid : UUID)
    (e : Exam) : ExamStep → Exam
  | .server l =>
    if e.isFrame sid l then e else { e with process := e.process.step py deps l }
  | .boot sessionToken creationError =>
    { e with
      pages := e.pages ++ [.booted ⟨sid.str, sid.str_ne_empty⟩ sessionToken creationError] }
  | .page _ (.socket (.message _ _ _)) => e
  | .page j input => e.turn j input
  | .deliver i k j socket now =>
    match (e.text? sid i k).bind fun d => readMessage (d.sendJson isoformat) with
    | none => e
    | some msg => e.turn j (.socket (.message socket msg now))
  | .receive j k i now fails =>
    match e.line? sid i, e.pages[j]?.bind fun page => page.ws.sent[k]? with
    | some _, some (_, frame) =>
      { e with
        process := e.process.step py deps (.on i (.act (.receive now (some (.obj frame))) fails)) }
    | _, _ => e

/-- The flags the pages have handled. -/
def handledFlagIds (e : Exam) : List String :=
  e.pages.flatMap fun page => page.killSwitch.handledFlagIds

end Exam

/-! ## 2. What a connection takes for an acknowledgement

An acknowledgement is recorded for the pending kill-switch only, and is told from any other frame by
its `type`. -/

/-- The kill-switch that counts as acknowledged is for a flag of the list. -/
def DeliveryService.AckedIn (d : DeliveryService) (flagIds : List String) : Prop :=
  d.killSwitchAcked = true → ∃ pending, d.pendingKill = some pending ∧ pending.flagId ∈ flagIds

/-- A frame acknowledges no flag but those of the list. -/
def AcksIn (py : Pydantic) (flagIds : List String) (frame : Option Json) : Prop :=
  ∀ raw message ack, frame = some (.obj raw) → parseClientMessage py raw = .ok message →
    message.payload = .killSwitchAck ack → ack.flagId ∈ flagIds

section
variable {py : Pydantic} {flagIds flagIds' : List String} {d : DeliveryService}

theorem DeliveryService.AckedIn.mono (h : d.AckedIn flagIds) (hsub : flagIds ⊆ flagIds') :
    d.AckedIn flagIds' := by
  intro hacked
  obtain ⟨pending, hpending, hflag⟩ := h hacked
  exact ⟨pending, hpending, hsub hflag⟩

theorem AcksIn.mono {frame : Option Json} (h : AcksIn py flagIds frame)
    (hsub : flagIds ⊆ flagIds') : AcksIn py flagIds' frame :=
  fun raw message ack hraw hparse hack => hsub (h raw message ack hraw hparse hack)

theorem DeliveryService.AckedIn.record (h : d.AckedIn flagIds) {flagId : String}
    (hflag : flagId ∈ flagIds) : (d.recordKillSwitchAck flagId).2.AckedIn flagIds := by
  unfold recordKillSwitchAck
  split
  case isTrue hpending =>
    rw [Option.any_eq_true] at hpending
    obtain ⟨pending, hsome, heq⟩ := hpending
    intro _
    exact ⟨pending, hsome, of_decide_eq_true heq ▸ hflag⟩
  case isFalse => exact h

theorem DeliveryService.AckedIn.prepare (h : d.AckedIn flagIds) (flagId reason : String)
    (now : ℚ) : (d.prepareKillSwitch flagId reason now).2.AckedIn flagIds := by
  unfold prepareKillSwitch
  split
  · exact h
  · exact fun hacked => absurd hacked Bool.false_ne_true

theorem receiveFrame_ackedIn {sessionId : String} {st : LoopState} {now : DateTime}
    {frame : Option Json} (h : st.delivery.AckedIn flagIds) (hframe : AcksIn py flagIds frame) :
    (receiveFrame py sessionId st now frame).2.delivery.AckedIn flagIds := by
  rcases @receiveFrame_delivery py sessionId st now frame with
    hsame | hcounted | ⟨raw, message, ack, hraw, hparse, hack, hrecorded⟩
  · rw [hsame]
    exact h
  · rw [hcounted]
    exact h
  · rw [hrecorded]
    exact h.record (hframe raw message ack hraw hparse hack)

theorem act_ackedIn {sh : Shared} {conn : Connection} {action : Action}
    (h : conn.delivery.AckedIn flagIds)
    (hframe : ∀ now frame, action = .receive now frame → AcksIn py flagIds frame) :
    (conn.act py sh action).2.delivery.AckedIn flagIds := by
  cases action with
  | receive now frame =>
    simp only [Connection.act, Connection.receive]
    split
    · split
      · exact receiveFrame_ackedIn h (hframe now frame rfl)
      · exact receiveFrame_ackedIn h (hframe now frame rfl)
    · exact h
  | _ =>
    rw [act_delivery fun now frame => by simp]
    exact h

theorem Line.step_ackedIn {sh : Shared} {line : Line}
    (h : line.conn.delivery.AckedIn flagIds) (l : LineStep)
    (hframe : ∀ now frame fails, l = .act (.receive now frame) fails →
      AcksIn py flagIds frame) :
    (line.step py sh l).2.conn.delivery.AckedIn flagIds := by
  cases l with
  | act action fails =>
    have hacted : (line.conn.act py sh action).2.delivery.AckedIn flagIds :=
      act_ackedIn h fun now frame heq => hframe now frame fails (heq ▸ rfl)
    simp only [Line.step, Line.act]
    split
    · exact hacted
    · rw [(Line.disconnect_frame _).2]
      exact hacted
  | runCallback => exact h
  -- To prepare it clears the acknowledgement, or changes nothing at all.
  | takeKillSwitch now =>
    show (line.takeKillSwitch now).conn.delivery.AckedIn flagIds
    have htakes := line.takes now
    generalize line.takeKillSwitch now = taken at htakes ⊢
    cases htakes with
    | idle _ => exact h
    | @registered item _ _ _ _ _ hprepared =>
      have hafter := h.prepare item.flagId item.reason now
      rw [hprepared] at hafter
      exact hafter
    | @refused item _ _ _ _ hprepared =>
      have hafter := h.prepare item.flagId item.reason now
      rw [hprepared] at hafter
      exact hafter
  | sendKillSwitch fails => exact h
  | heartbeat outcome =>
    simp only [Line.step]
    split <;> exact h

/-- Of the lines of a session, whatever a step does: a new one has acknowledged nothing. -/
theorem Process.step_ackedIn {deps : OrchestrationDeps} {p : Process} {sid : UUID}
    {l : ProcessStep}
    (h : ∀ i line, p.line? i = some line → line.conn.claims.sid = sid →
      line.conn.delivery.AckedIn flagIds)
    (hframe : ∀ i line now frame fails, p.line? i = some line → line.conn.claims.sid = sid →
      l = .on i (.act (.receive now frame) fails) → AcksIn py flagIds frame) :
    ∀ i line, (p.step py deps l).line? i = some line → line.conn.claims.sid = sid →
      line.conn.delivery.AckedIn flagIds := by
  intro j line' hline' hsid
  cases l with
  -- A line the service opens has acknowledged nothing.
  | service l =>
    rcases @Process.line?_service py deps p l j with hsame | ⟨-, _, _, _, hopened⟩
    · exact h j line' (hsame ▸ hline') hsid
    · obtain rfl := Option.some.inj (hopened.symm.trans hline')
      exact fun hacked => absurd hacked Bool.false_ne_true
  | on i l =>
    cases hi : p.line? i with
    | none =>
      simp only [Process.step, hi] at hline'
      exact h j line' hline' hsid
    | some line =>
      rw [Process.step_on hi] at hline'
      by_cases hij : j = i
      · subst hij
        rw [Process.line?_put_self hi] at hline'
        obtain rfl := Option.some.inj hline'
        rw [Line.claims_step] at hsid
        refine Line.step_ackedIn (h j line hi hsid) l fun now frame fails heq => ?_
        exact hframe j line now frame fails hi hsid (heq ▸ rfl)
      · rw [Process.line?_put_ne hij] at hline'
        exact h j line' hline' hsid

end

/-! ## 3. What a page handles and acknowledges

The handler is called for a message of the server only, and the page's frames that are
acknowledgements carry a flag the handler was called with. -/

namespace Browser

/-- The capture loop acknowledges nothing. -/
def CaptureLoop.NoAcks (c : CaptureLoop) : Prop :=
  ∀ ack, .killSwitchAck ack ∉ c.sent

theorem CaptureLoop.NoAcks.step {c : CaptureLoop} (h : c.NoAcks) (e : CaptureEvent) :
    (c.step e).NoAcks := by
  by_cases he : ∃ id f, e = .frame id f
  · obtain ⟨id, f, rfl⟩ := he
    intro ack hack
    change .killSwitchAck ack ∈ (c.runFrame id f).sent at hack
    rw [runFrame_sent] at hack
    rcases List.mem_append.mp hack with hold | hnew
    · exact h ack hold
    · simp [lightPayloads, heavyPayloads] at hnew
  · intro ack hack
    rw [(step_quiet fun id f heq => he ⟨id, f, heq⟩).2] at hack
    exact h ack hack

section
variable {py : Pydantic} {payload : ClientPayload} {sessionId : String}
  {capturedAt : Option UtcTime} {now : UtcTime} {message : ClientMessage}

theorem read_of_parse {model : Json → Option ProctorEngine.ClientPayload} (hsid : sessionId ≠ "")
    (hmodel : py.typeToModel payload.type = some model)
    (h : parseClientMessage py (buildEnvelope payload sessionId capturedAt now) = .ok message) :
    model payload.toJson = some message.payload := by
  have htype : Json.get? (buildEnvelope payload sessionId capturedAt now) "type" =
      some (.str payload.type) := by
    simp [Json.get?, buildEnvelope]
  unfold parseClientMessage at h
  simp only [htype, hmodel, modelValidate_buildEnvelope hsid] at h
  cases hread : model payload.toJson with
  | none => simp [hread] at h
  | some read =>
    simp only [hread, Option.map_some] at h
    rw [← Except.ok.inj h]

theorem killSwitchAck_flagId {p : KillSwitchAcknowledgePayload}
    {ack : ProctorEngine.KillSwitchAcknowledgePayload}
    (h : py.killSwitchAck p.toJson = some ack) : p = ⟨ack.flagId⟩ := by
  by_cases hne : p.flagId = ""
  · simp [Pydantic.killSwitchAck, KillSwitchAcknowledgePayload.toJson, readDict, forbidExtra,
      required, withDefault, Json.get?, readNonempty, readStr, hne] at h
  · simp [Pydantic.killSwitchAck, KillSwitchAcknowledgePayload.toJson, readDict, forbidExtra,
      required, withDefault, Json.get?, readNonempty, readStr, hne] at h
    rw [← h]

/-- The server reads an acknowledgement where the page wrote one. -/
theorem killSwitchAck_of_parse {ack : ProctorEngine.KillSwitchAcknowledgePayload}
    (hsid : sessionId ≠ "")
    (h : parseClientMessage py (buildEnvelope payload sessionId capturedAt now) = .ok message)
    (hack : message.payload = .killSwitchAck ack) : payload = .killSwitchAck ⟨ack.flagId⟩ := by
  cases payload with
  | telemetryLight p =>
    obtain ⟨read, -, hread⟩ := Option.map_eq_some_iff.mp (read_of_parse hsid rfl h)
    cases hread.trans hack
  | telemetryHeavyFrame p =>
    obtain ⟨read, -, hread⟩ := Option.map_eq_some_iff.mp (read_of_parse hsid rfl h)
    cases hread.trans hack
  | audioChunk p =>
    obtain ⟨read, -, hread⟩ := Option.map_eq_some_iff.mp (read_of_parse hsid rfl h)
    cases hread.trans hack
  | browserEvent p =>
    obtain ⟨read, -, hread⟩ := Option.map_eq_some_iff.mp (read_of_parse hsid rfl h)
    cases hread.trans hack
  | killSwitchAck p =>
    obtain ⟨read, hp, hread⟩ := Option.map_eq_some_iff.mp (read_of_parse hsid rfl h)
    cases hread.trans hack
    rw [killSwitchAck_flagId hp]

end

end Browser

namespace Browser.ExamPage

variable {p : ExamPage} {flagId : String}

/-- A flag is handled in a call of the kill-switch handler, and by nothing else. -/
theorem handled_of_step {input : PageInput} (h : p.Invariant)
    (hflag : flagId ∈ (p.step input).killSwitch.handledFlagIds) :
    flagId ∈ p.killSwitch.handledFlagIds ∨ ∃ e payload, input = .socket e ∧
      p.ws.killSwitchCall e = some payload ∧ payload.flagId = flagId := by
  cases input with
  | socket e =>
    have hafter : AfterSocket p e (p.onSocket e) := onSocket_after h.started
    change flagId ∈ (p.onSocket e).killSwitch.handledFlagIds at hflag
    rw [hafter.killSwitch] at hflag
    cases hcall : p.ws.killSwitchCall e with
    | none =>
      rw [killed_none hcall] at hflag
      exact .inl hflag
    | some payload =>
      rw [killed_some hcall] at hflag
      change flagId ∈ (p.killSwitch.handleKillSwitch payload).1.handledFlagIds at hflag
      -- handled before, or remembered now
      rcases p.killSwitch.handleKillSwitch_cases payload with
        ⟨-, hpage, -, -⟩ | ⟨-, hflags, -, -, -⟩
      · rw [hpage] at hflag
        exact .inl hflag
      · rw [hflags] at hflag
        rcases List.mem_cons.mp hflag with rfl | hold
        · exact .inr ⟨e, payload, rfl, hcall, rfl⟩
        · exact .inl hold
  | init outcome => exact .inl (onInit_offLoop.handledFlagIds ▸ hflag)
  | frame id f clock =>
    exact .inl ((runLoop_offLoop (e := .frame id f.toAnimationFrame)).handledFlagIds ▸ hflag)
  | beforeunload => exact .inl ((runLoop_offLoop (e := .stop)).handledFlagIds ▸ hflag)
  | errored socket => exact .inl hflag
  | dom e now => exact .inl hflag

/-- A frame of the page acknowledges no flag that the page has not handled. -/
theorem Writes.acksIn {py : Pydantic} {frame : Dict} (h : p.Writes frame)
    (hloop : ∀ c ∈ p.captureLoop, c.NoAcks) :
    AcksIn py p.killSwitch.handledFlagIds (some (.obj frame)) := by
  intro raw message ack hraw hparse hack
  cases hraw
  rcases h with rfl | rfl | ⟨payload, now, rfl, hmade⟩
  · have herror : parseClientMessage py WsClient.pingFrame =
        .error (.envelope (.unknownType (.str "ping"))) := rfl
    cases herror.symm.trans hparse
  · have herror : parseClientMessage py WsClient.pongFrame =
        .error (.envelope (.unknownType (.str "pong"))) := rfl
    cases herror.symm.trans hparse
  · obtain rfl := killSwitchAck_of_parse p.sessionId.property hparse hack
    cases hmade with
    | ack hflag => exact hflag
    | captured hc hsent => exact absurd hsent (hloop _ hc _)

end Browser.ExamPage

namespace Exam

variable {py : Pydantic} {deps : OrchestrationDeps} {isoformat : DateTime → String} {sid : UUID}
  {e : Exam} {flagId : String}

theorem line?_eq_some_iff {i : Nat} {line : Line} :
    e.line? sid i = some line ↔ e.process.line? i = some line ∧ line.conn.claims.sid = sid := by
  rw [line?, Option.filter_eq_some_iff, decide_eq_true_iff]

/-- A connection of the session has raised a kill-switch for the flag. -/
def Raised (p : Process) (sid : UUID) (flagId : String) : Prop :=
  ∃ i line reason, p.line? i = some line ∧ line.conn.claims.sid = sid ∧
    ⟨flagId, reason⟩ ∈ line.out.raised

theorem Raised.step {p : Process} (h : Raised p sid flagId) (hinv : p.Inv) (l : ProcessStep) :
    Raised (p.step py deps l) sid flagId := by
  obtain ⟨i, line, reason, hline, hsid, hmem⟩ := h
  obtain ⟨line', hline', hraised, hclaims⟩ :=
    @Process.Inv.raised_step py deps p i line hinv hline (List.ne_nil_of_mem hmem) l
  refine ⟨i, line', reason, hline', ?_, ?_⟩
  · rw [hclaims]
    exact hsid
  · rw [hraised]
    exact hmem

/-- All the kill-switches of a session are the one. -/
theorem Raised.eq {p : Process} (hinv : p.Inv) {flagId' : String} (h : Raised p sid flagId)
    (h' : Raised p sid flagId') : flagId = flagId' := by
  obtain ⟨i, line, reason, hline, hsid, hmem⟩ := h
  obtain ⟨j, line', reason', hline', hsid', hmem'⟩ := h'
  obtain rfl : i = j := hinv.one i j line line' hline hline' (hsid.trans hsid'.symm)
    (List.ne_nil_of_mem hmem) (List.ne_nil_of_mem hmem')
  cases hline.symm.trans hline'
  have hsingle := (hinv.lines i line hline).accounted.single
  obtain ⟨item, hitem⟩ := List.length_eq_one_iff.mp
    (le_antisymm hsingle (List.length_pos_of_mem hmem))
  rw [hitem] at hmem hmem'
  have heq : KillSwitchItem.mk flagId reason = KillSwitchItem.mk flagId' reason' :=
    (List.mem_singleton.mp hmem).trans (List.mem_singleton.mp hmem').symm
  exact congrArg KillSwitchItem.flagId heq

/-- A kill-switch among the texts of a session's connections has been raised. -/
theorem raised_of_text (hinv : e.process.Inv) {i k : Nat} {payload : KillSwitchPayload}
    (h : e.text? sid i k = some (.killSwitch payload)) :
    Raised e.process sid payload.flagId := by
  unfold text? at h
  split at h
  case h_1 d hframe =>
    obtain rfl := Option.some.inj h
    obtain ⟨line, hline, hwritten⟩ := Option.bind_eq_some_iff.mp hframe
    obtain ⟨hline, hsid⟩ := line?_eq_some_iff.mp hline
    refine ⟨i, line, payload.reason, hline, hsid, ?_⟩
    apply (hinv.lines i line hline).accounted.raised_of_written
    exact List.mem_filterMap.mpr ⟨_, List.mem_of_getElem? hwritten, rfl⟩
  case h_2 => cases h
  case h_3 => cases h

/-! ## 4. Every run

The invariant of the exam, one lemma for what happens at the service and one for what happens at a
page. A frame that is carried over is a step of the end it reaches, with what the invariant says of
the other end as its premise. -/

/-- What holds of a page of the session. -/
structure PageInv (p : Process) (sid : UUID) (page : ExamPage) : Prop where
  invariant : page.Invariant
  writes : ∀ f ∈ page.ws.sent, page.Writes f.2
  noAcks : ∀ c ∈ page.captureLoop, c.NoAcks
  handled : ∀ flagId ∈ page.killSwitch.handledFlagIds, Raised p sid flagId

structure Inv (sid : UUID) (e : Exam) : Prop where
  process : e.process.Inv
  pages : ∀ page ∈ e.pages, PageInv e.process sid page
  acked : ∀ i line, e.process.line? i = some line → line.conn.claims.sid = sid →
    line.conn.delivery.AckedIn e.handledFlagIds

theorem pageInv_booted {p : Process} {sessionId : SessionId} {sessionToken : List Char}
    {creationError : Option String} :
    PageInv p sid (.booted sessionId sessionToken creationError) := by
  refine ⟨ExamPage.invariant_booted, ?_, ?_, ?_⟩
  · rw [ExamPage.booted_eq]
    show ∀ f ∈ (WsClient.new.connect creationError.isSome).sent, _
    rw [WsClient.connect_sent]
    exact List.forall_mem_nil _
  · rw [ExamPage.booted_eq]
    exact fun c hc => absurd hc (Option.not_mem_none c)
  · rw [ExamPage.booted_eq]
    exact List.forall_mem_nil _

theorem PageInv.step {p : Process} {page : ExamPage} (h : PageInv p sid page)
    (input : PageInput)
    (hhandled : ∀ flagId ∈ (page.step input).killSwitch.handledFlagIds, Raised p sid flagId) :
    PageInv p sid (page.step input) where
  invariant := h.invariant.step input
  writes := ExamPage.step_writes h.invariant h.writes
  noAcks := ExamPage.step_forall_loop (fun _ _ hack => absurd hack List.not_mem_nil)
    (fun _ _ hc => hc) (fun _ event _ hc => hc.step event) h.noAcks
  handled := hhandled

/-- What the pages have handled stays handled. -/
theorem handledFlagIds_turn {j : Nat} {page : ExamPage} {input : PageInput}
    (h : PageInv e.process sid page) (hj : e.pages[j]? = some page) :
    e.handledFlagIds ⊆
      (Exam.mk e.process (e.pages.set j (page.step input))).handledFlagIds := by
  intro flagId hflag
  obtain ⟨other, hother, hflag⟩ := List.mem_flatMap.mp hflag
  obtain ⟨m, hm⟩ := List.mem_iff_getElem?.mp hother
  by_cases hmj : m = j
  · subst hmj
    obtain rfl := Option.some.inj (hm.symm.trans hj)
    have hlt := (List.getElem?_eq_some_iff.mp hj).1
    exact List.mem_flatMap.mpr ⟨_, List.mem_of_getElem? (List.getElem?_set_self hlt),
      ExamPage.step_killSwitch_subset h.invariant hflag⟩
  · have hm' : (e.pages.set j (page.step input))[m]? = some other := by
      rw [List.getElem?_set_ne (Ne.symm hmj)]
      exact hm
    exact List.mem_flatMap.mpr ⟨other, List.mem_of_getElem? hm', hflag⟩

/-- A step of the service, of which the session's connections receive what a page wrote. -/
theorem Inv.server (h : e.Inv sid) (l : ProcessStep)
    (hframe : ∀ i line now frame fails, e.process.line? i = some line →
      line.conn.claims.sid = sid → l = .on i (.act (.receive now frame) fails) →
        AcksIn py e.handledFlagIds frame) :
    Inv sid { e with process := e.process.step py deps l } where
  process := h.process.step l
  pages := by
    intro page hpage
    obtain ⟨hinv, hwrites, hnoAcks, hhandled⟩ := h.pages page hpage
    exact ⟨hinv, hwrites, hnoAcks, fun flagId hflag => (hhandled flagId hflag).step h.process l⟩
  acked := Process.step_ackedIn h.acked hframe

/-- What happens at a page, of which it handles what was raised. -/
theorem Inv.turn (h : e.Inv sid) (j : Nat) (input : PageInput)
    (hhandled : ∀ page ∈ e.pages, ∀ flagId ∈ (page.step input).killSwitch.handledFlagIds,
      Raised e.process sid flagId) : (e.turn j input).Inv sid := by
  unfold Exam.turn
  split
  case h_1 => exact h
  case h_2 page hj =>
    have hpage := List.mem_of_getElem? hj
    refine ⟨h.process, ?_, ?_⟩
    · intro other hother
      rcases List.mem_or_eq_of_mem_set hother with hother | rfl
      · exact h.pages other hother
      · exact (h.pages page hpage).step input (hhandled page hpage)
    · intro i line hline hsid
      exact (h.acked i line hline hsid).mono (handledFlagIds_turn (h.pages page hpage) hj)

/-- What reaches a page as a kill-switch was raised. -/
theorem PageInv.delivered {page : ExamPage} (h : PageInv e.process sid page)
    (hinv : e.process.Inv) {i k socket : Nat} {now : UtcTime} {msg : ServerMessage}
    (hmsg : ((e.text? sid i k).bind fun d => readMessage (d.sendJson isoformat)) = some msg) :
    ∀ flagId ∈ (page.step (.socket (.message socket msg now))).killSwitch.handledFlagIds,
      Raised e.process sid flagId := by
  intro flagId hflag
  rcases ExamPage.handled_of_step h.invariant hflag with hold | ⟨event, payload, heq, hcall, rfl⟩
  · exact h.handled flagId hold
  · cases heq
    obtain ⟨d, hd, hread⟩ := Option.bind_eq_some_iff.mp hmsg
    cases d with
    -- Only the third kind of text is read as a kill-switch.
    | ping =>
      rw [readMessage_ping] at hread
      cases hread
      cases hcall
    | ack seq receivedAt =>
      rw [readMessage_ack] at hread
      cases hread
      cases hcall
    | killSwitch sent =>
      rw [readMessage_killSwitch] at hread
      cases hread
      simp only [WsClient.killSwitchCall] at hcall
      split at hcall
      case isTrue =>
        obtain rfl := Option.some.inj hcall
        exact raised_of_text hinv hd
      case isFalse => cases hcall

/-- The handler is called with a message of the server only. -/
theorem PageInv.undelivered {p : Process} {page : ExamPage} (h : PageInv p sid page)
    {input : PageInput} (hinput : ∀ socket msg now, input ≠ .socket (.message socket msg now)) :
    ∀ flagId ∈ (page.step input).killSwitch.handledFlagIds, Raised p sid flagId := by
  intro flagId hflag
  rcases ExamPage.handled_of_step h.invariant hflag with hold | ⟨event, payload, rfl, hcall, -⟩
  · exact h.handled flagId hold
  · exfalso
    cases event with
    | message socket msg now => exact hinput socket msg now rfl
    | _ => cases hcall

theorem step_page {j : Nat} {input : PageInput}
    (hinput : ∀ socket msg now, input ≠ .socket (.message socket msg now)) :
    e.step py deps isoformat sid (.page j input) = e.turn j input := by
  unfold step
  split
  case h_3 socket msg now heq => exact absurd (ExamStep.page.inj heq).2 (hinput socket msg now)
  case h_4 heq => rw [(ExamStep.page.inj heq).1, (ExamStep.page.inj heq).2]
  all_goals
    rename_i heq
    cases heq

theorem Inv.step (h : e.Inv sid) (l : ExamStep) : (e.step py deps isoformat sid l).Inv sid := by
  cases l with
  | server l =>
    simp only [Exam.step]
    split
    case isTrue => exact h
    -- not a frame on a connection of the session, hence no acknowledgement
    case isFalse hfree =>
      refine h.server l ?_
      rintro i line now frame fails hline hsid rfl
      refine absurd ?_ hfree
      show (e.line? sid i).isSome = true
      rw [line?_eq_some_iff.mpr ⟨hline, hsid⟩]
      rfl
  | boot sessionToken creationError =>
    refine ⟨h.process, ?_, ?_⟩
    · intro page hpage
      rcases List.mem_append.mp hpage with hpage | hpage
      · exact h.pages page hpage
      · rw [List.mem_singleton.mp hpage]
        exact pageInv_booted
    · intro i line hline hsid
      refine (h.acked i line hline hsid).mono ?_
      show _ ⊆ (e.pages ++ _).flatMap _
      rw [List.flatMap_append]
      exact List.subset_append_left _ _
  | deliver i k j socket now =>
    simp only [Exam.step]
    split
    case h_1 => exact h
    -- what reaches the page was raised
    case h_2 msg hmsg =>
      exact h.turn j _ fun page hpage => (h.pages page hpage).delivered h.process hmsg
  | receive j k i now fails =>
    simp only [Exam.step]
    split
    -- what reaches the connection acknowledges what its page has handled
    case h_1 line socket frame hline hsent =>
      obtain ⟨page, hj, hk⟩ := Option.bind_eq_some_iff.mp hsent
      have hpage := List.mem_of_getElem? hj
      have hinv := h.pages page hpage
      refine h.server _ ?_
      rintro _ _ _ _ _ - - heq
      cases heq
      refine ((hinv.writes _ (List.mem_of_getElem? hk)).acksIn hinv.noAcks).mono ?_
      exact fun flagId hflag => List.mem_flatMap.mpr ⟨page, hpage, hflag⟩
    case h_2 => exact h
  | page j input =>
    by_cases hmessage : ∃ socket msg now, input = .socket (.message socket msg now)
    · obtain ⟨socket, msg, now, rfl⟩ := hmessage
      exact h
    · have hinput : ∀ socket msg now, input ≠ .socket (.message socket msg now) :=
        fun socket msg now heq => hmessage ⟨socket, msg, now, heq⟩
      rw [step_page hinput]
      exact h.turn j input fun page hpage => (h.pages page hpage).undelivered hinput

theorem inv_start {eventBuffer : TelemetryEventBuffer} {db : Database} {store : EvidenceStore} :
    (start eventBuffer db store).Inv sid where
  process := Process.inv_start
  pages := List.forall_mem_nil _
  acked := by
    intro i line hline
    exact absurd hline (by simp [start, Process.start, Process.line?, System.idle])

theorem PageInv.once {p : Process} {page : ExamPage} (h : PageInv p sid page) (hinv : p.Inv) :
    page.overlays.length ≤ 1 := by
  rw [h.invariant.overlays]
  have hdistinct := h.invariant.distinct
  have hraised := h.handled
  generalize page.killSwitch.handledFlagIds = flagIds at hdistinct hraised
  cases flagIds with
  | nil => exact Nat.zero_le 1
  | cons flagId rest =>
    cases rest with
    | nil => exact le_rfl
    | cons flagId' rest =>
      have heq := (hraised flagId List.mem_cons_self).eq hinv
        (hraised flagId' (List.mem_cons_of_mem _ List.mem_cons_self))
      rw [heq] at hdistinct
      exact absurd List.mem_cons_self (List.nodup_cons.mp hdistinct).1

theorem Raised.recorded {p : Process} (h : Raised p sid flagId) (hinv : p.Inv) :
    ∃ reason, Recorded p.db sid ⟨flagId, reason⟩ := by
  obtain ⟨i, line, reason, hline, rfl, hmem⟩ := h
  exact ⟨reason, (hinv.lines i line hline).recorded _ hmem⟩

/-- What the two ends know of a termination. -/
structure Agrees (sid : UUID) (e : Exam) : Prop where
  /-- A page handles what is recorded, -/
  recorded : ∀ page ∈ e.pages, ∀ flagId ∈ page.killSwitch.handledFlagIds,
    ∃ reason, Recorded e.process.db sid ⟨flagId, reason⟩
  /-- locks once, and for good, -/
  locks : ∀ page ∈ e.pages, page.overlays.length ≤ 1 ∧
    (page.overlays ≠ [] → page.ws.isTerminal = true)
  /-- and before any connection of the session takes the kill-switch for acknowledged. -/
  locked : ∀ i line, e.process.line? i = some line → line.conn.claims.sid = sid →
    line.conn.delivery.killSwitchAcked = true → ∃ page ∈ e.pages, page.overlays.length = 1 ∧
      ∃ pending, line.conn.delivery.pendingKill = some pending ∧
        pending.flagId ∈ page.killSwitch.handledFlagIds

theorem Inv.agrees (h : e.Inv sid) : e.Agrees sid where
  recorded := fun page hpage flagId hflag =>
    ((h.pages page hpage).handled flagId hflag).recorded h.process
  locks := by
    intro page hpage
    have hinv := h.pages page hpage
    refine ⟨hinv.once h.process, fun hlocked => hinv.invariant.ended ?_⟩
    rw [← List.length_pos_iff, ← hinv.invariant.overlays]
    exact List.length_pos_iff.mpr hlocked
  locked := by
    intro i line hline hsid hacked
    obtain ⟨pending, hpending, hflag⟩ := h.acked i line hline hsid hacked
    obtain ⟨page, hpage, hflag⟩ := List.mem_flatMap.mp hflag
    have hinv := h.pages page hpage
    refine ⟨page, hpage, le_antisymm (hinv.once h.process) ?_, pending, hpending, hflag⟩
    rw [hinv.invariant.overlays]
    exact List.length_pos_of_mem hflag

/-- **In every run of the service and the pages of a session, however the network treats what they
    write**: a page is locked once at most, by the flag its session's termination is recorded with,
    and no connection takes a kill-switch for acknowledged before a page is. -/
theorem ends_agree (py : Pydantic) (deps : OrchestrationDeps) (isoformat : DateTime → String)
    (eventBuffer : TelemetryEventBuffer) (db : Database) (store : EvidenceStore) (sid : UUID)
    (steps : List ExamStep) :
    Run.Always (step py deps isoformat sid) (Agrees sid) (start eventBuffer db store) steps := by
  have hinv : Run.Always (step py deps isoformat sid) (Inv sid) (start eventBuffer db store)
      steps :=
    Run.always_of_step (fun _ l h => h.step l) inv_start
  exact hinv.mono fun _ h => h.agrees

end Exam

end ProctorEngine
