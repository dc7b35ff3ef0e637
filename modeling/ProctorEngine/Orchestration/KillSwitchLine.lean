import ProctorEngine.Orchestration.Outgoing

/-!
# The kill-switch of a connection

What the outgoing half of one connection does with a kill-switch. It is raised in the step that
inserts the record of the termination, and from then on it is at one place: scheduled on the event
loop, on the queue, in the drain's hands, on the wire or lost. The worker looks for a record before
it inserts one, and no record is ever deleted, so **a connection raises one at most, and the
delivery service takes it when it comes**.

`places` is the list of all the places, one after the other, and a step may only permute it. Most
steps of a line do, which is `Moved`; the exception is the commit of a terminating flag, which
appends to what was raised. The two alternatives are `ActEffect`, and the invariant `Inv` has one
lemma for each.

That the delivery service never refuses needs the database: it would refuse a second kill-switch,
and a second one would need a second record of the same session. `Terminates` is what the worker's
commit says about records, and `Inv.raised_eq_nil` is the argument.
-/

set_option autoImplicit false

namespace ProctorEngine

/-- The record of a session's termination by a flag, with the flag. -/
def Recorded (db : Database) (sid : UUID) (item : KillSwitchItem) : Prop :=
  ∃ r ∈ db.terminationRecords, ∃ f ∈ db.flags,
    (r.examSessionId = sid ∧ r.triggeringFlagId = some f.id ∧ r.reason = item.reason) ∧
      f.examSessionId = sid ∧ f.triggeredTermination = true ∧ f.ruleCode = item.reason ∧
        f.id.str = item.flagId

theorem UUID.str_ne_empty (u : UUID) : u.str ≠ "" := by
  intro h
  have hlength := congrArg String.length h
  simp only [UUID.str, String.length_append] at hlength
  have hdash : "-".length = 1 := rfl
  have hempty : "".length = 0 := rfl
  omega

section
variable {Lost : EvidenceArtifact → Prop} {db db' : Database} {sid : UUID}
  {item : KillSwitchItem}

/-- A record stands, and so does its flag. -/
theorem Recorded.mono (h : Recorded db sid item) (hkeeps : db.Keeps Lost db') :
    Recorded db' sid item := by
  obtain ⟨r, hr, f, hf, hrest⟩ := h
  obtain ⟨r', hr', rfl⟩ := hkeeps.terminationRecords r hr
  obtain ⟨f', hf', rfl⟩ := hkeeps.flags f hf
  exact ⟨r', hr', f', hf', hrest⟩

theorem Recorded.flagId_ne (h : Recorded db sid item) : item.flagId ≠ "" := by
  obtain ⟨-, -, f, -, -, -, -, -, hflag⟩ := h
  rw [← hflag]
  exact f.id.str_ne_empty

end

/-! ## 1. Where a kill-switch is

The steps of the outgoing half by themselves. They are compared by counting: a kill-switch occurs in
`places` as often after a step as before, and the arithmetic is left to the decision procedure. -/

namespace Outgoing

/-- The kill-switches on their way, written and lost. -/
def places (out : Outgoing) : List KillSwitchItem :=
  out.callbacks ++ out.killSwitchQueue ++ (out.sending.map (·.item)).toList ++
    out.written.filterMap ServerWrite.killSwitch? ++ out.lost.map (·.2)

/-- Kill-switches move on; none is raised and none refused. -/
structure Moved (out out' : Outgoing) : Prop where
  raised : out'.raised = out.raised
  places : out'.places.Perm out.places
  lost : ∀ x ∈ out'.lost, x ∈ out.lost ∨ x.1 ≠ .refused
  pending : out.callbacks = [] → out.killSwitchQueue = [] →
    out'.callbacks = [] ∧ out'.killSwitchQueue = []

/-- One kill-switch is raised at most, it is at one place, and none was refused. -/
structure Accounted (out : Outgoing) : Prop where
  single : out.raised.length ≤ 1
  places : out.raised.Perm out.places
  unrefused : ∀ x ∈ out.lost, x.1 ≠ .refused

section
variable {out out' out'' : Outgoing} {w : ServerWrite} {fails : Bool}

theorem Moved.refl : Moved out out := ⟨rfl, .refl _, fun _ hx => .inl hx, fun hc hq => ⟨hc, hq⟩⟩

theorem Moved.trans (h : Moved out out') (h' : Moved out' out'') : Moved out out'' where
  raised := h'.raised.trans h.raised
  places := h'.places.trans h.places
  lost := fun x hx => (h'.lost x hx).elim (h.lost x) .inr
  pending := fun hc hq => h'.pending (h.pending hc hq).1 (h.pending hc hq).2

theorem Accounted.moved (h : out.Accounted) (hmoved : Moved out out') : out'.Accounted where
  single := hmoved.raised ▸ h.single
  places := by
    rw [hmoved.raised]
    exact h.places.trans hmoved.places.symm
  unrefused := fun x hx => (hmoved.lost x hx).elim (h.unrefused x) id

theorem Accounted.raised_of_written (h : out.Accounted) {item : KillSwitchItem}
    (hitem : item ∈ out.written.filterMap ServerWrite.killSwitch?) : item ∈ out.raised := by
  rw [h.places.mem_iff]
  exact List.mem_append_left _ (List.mem_append_right _ hitem)

theorem Accounted.length_places (h : out.Accounted) : out.places.length ≤ 1 := by
  rw [← h.places.length_eq]
  exact h.single

theorem accounted_new : new.Accounted := ⟨Nat.zero_le _, .refl _, List.forall_mem_nil _⟩

/-- A write that goes through appends its frame. -/
theorem write_eq_some (h : out.write w fails = some out') :
    out' = { out with written := out.written ++ [w] } := by
  unfold write at h
  split at h
  · exact nomatch h
  · exact (Option.some.inj h).symm

theorem moved_write (h : out.write w fails = some out') (hw : w.killSwitch? = none) :
    Moved out out' := by
  obtain rfl := write_eq_some h
  refine ⟨rfl, ?_, fun _ hx => .inl hx, fun hc hq => ⟨hc, hq⟩⟩
  show List.Perm (_ ++ (out.written ++ [w]).filterMap _ ++ _) _
  rw [List.filterMap_append, List.filterMap_cons_none hw, List.filterMap_nil, List.append_nil]
  exact .refl _

theorem moved_write_getD (hw : w.killSwitch? = none) :
    Moved out ((out.write w fails).getD out) := by
  cases h : out.write w fails with
  | none => exact .refl
  | some out' => exact moved_write h hw

theorem moved_answer {now : DateTime} {outcome : FrameOutcome}
    (h : out.answer now fails outcome = some out') : Moved out out' := by
  cases outcome with
  | ignored => exact Option.some.inj h ▸ .refl
  | raised => exact Option.some.inj h ▸ .refl
  | acked seq => exact moved_write h rfl
  | closed code reason => exact moved_write h rfl

theorem moved_heartbeat (beats : Bool) : Moved out { out with heartbeat := beats } :=
  ⟨rfl, .refl _, fun _ hx => .inl hx, fun hc hq => ⟨hc, hq⟩⟩

theorem moved_beat (outcome : PingOutcome) : Moved out (out.beat outcome) := by
  cases outcome with
  | sent =>
    show Moved out ((out.write _ _).getD _)
    cases h : out.write (.text .ping) false with
    | none => exact moved_heartbeat false
    | some out' => exact moved_write h rfl
  | raised => exact moved_heartbeat false
  | timedOut written =>
    refine Moved.trans ?_ (moved_heartbeat false)
    refine Moved.trans ?_ (moved_write_getD rfl)
    exact moved_write_getD rfl

theorem moved_cancelDrain : Moved out out.cancelDrain := by
  unfold cancelDrain
  split
  · exact .refl
  · rename_i payload hsending
    refine ⟨rfl, ?_, ?_, fun hc hq => ⟨hc, hq⟩⟩
    · rw [List.perm_iff_count]
      intro a
      simp only [places, hsending, List.count_append, List.map_append, Option.map_none,
        Option.map_some, Option.toList_none, Option.toList_some, List.map_cons, List.map_nil,
        List.count_nil]
      omega
    · intro x hx
      rcases List.mem_append.mp hx with hx | hx
      · exact .inl hx
      · rw [List.mem_singleton.mp hx]
        exact .inr (by simp)

theorem moved_runCallback : Moved out out.runCallback := by
  unfold runCallback
  split
  · exact .refl
  · rename_i item callbacks hcallbacks
    refine ⟨rfl, ?_, fun _ hx => .inl hx, fun hc => absurd (hcallbacks.symm.trans hc) (by simp)⟩
    rw [List.perm_iff_count]
    intro a
    simp only [places, hcallbacks, List.count_append, List.count_cons, List.count_nil]
    omega

theorem moved_sent : Moved out (out.sent fails) := by
  unfold sent
  split
  · exact .refl
  · rename_i payload hsending
    split
    -- the write goes through: from the drain to the wire
    · rename_i out' hwrite
      obtain rfl := write_eq_some hwrite
      refine ⟨rfl, ?_, fun _ hx => .inl hx, fun hc hq => ⟨hc, hq⟩⟩
      have hitem : [ServerWrite.text (.killSwitch payload)].filterMap ServerWrite.killSwitch? =
          [payload.item] := rfl
      rw [List.perm_iff_count]
      intro a
      simp only [places, hsending, List.filterMap_append, hitem, List.count_append,
        Option.map_none, Option.map_some, Option.toList_none, Option.toList_some, List.count_nil]
      omega
    -- the socket is closed: from the drain to the lost ones
    · refine ⟨rfl, ?_, ?_, fun hc hq => ⟨hc, hq⟩⟩
      · rw [List.perm_iff_count]
        intro a
        simp only [places, hsending, List.count_append, List.map_append, Option.map_none,
          Option.map_some, Option.toList_none, Option.toList_some, List.map_cons, List.map_nil,
          List.count_nil]
        omega
      · intro x hx
        rcases List.mem_append.mp hx with hx | hx
        · exact .inl hx
        · rw [List.mem_singleton.mp hx]
          exact .inr (by simp)

theorem onKillSwitch_raised {killSwitch : UUID × String} :
    (out.onKillSwitch fails killSwitch).raised =
      out.raised ++ [⟨killSwitch.1.str, killSwitch.2⟩] := by
  unfold onKillSwitch
  dsimp only
  split <;> rfl

/-- The first kill-switch is raised, and is scheduled or lost. -/
theorem accounted_onKillSwitch {killSwitch : UUID × String} (h : out.Accounted)
    (hnone : out.raised = []) : (out.onKillSwitch fails killSwitch).Accounted := by
  have hplaces : out.places = [] := by simpa [hnone] using h.places
  have hmoved : (out.onKillSwitch fails killSwitch).places.Perm
      (out.places ++ [⟨killSwitch.1.str, killSwitch.2⟩]) := by
    rw [List.perm_iff_count]
    intro a
    unfold onKillSwitch
    dsimp only
    -- the event loop may be closed already, and then nothing is scheduled
    split
    · simp only [places, List.count_append, List.map_append, List.map_cons, List.map_nil]
      omega
    · simp only [places, List.count_append]
      omega
  refine ⟨?_, ?_, ?_⟩
  · rw [onKillSwitch_raised, hnone]
    exact le_rfl
  · rw [onKillSwitch_raised, hnone]
    rw [hplaces] at hmoved
    exact hmoved.symm
  · intro x hx
    unfold onKillSwitch at hx
    dsimp only at hx
    split at hx
    · rcases List.mem_append.mp hx with hx | hx
      · exact h.unrefused x hx
      · rw [List.mem_singleton.mp hx]
        simp
    · exact h.unrefused x hx

/-! ### A turn of the event loop -/

theorem Accounted.runCallback_callbacks (h : out.Accounted) : out.runCallback.callbacks = [] := by
  have hlength := h.length_places
  unfold runCallback
  split
  case h_1 hcallbacks => exact hcallbacks
  case h_2 item callbacks hcallbacks =>
    simp only [Outgoing.places, hcallbacks, List.length_append, List.length_cons] at hlength
    show callbacks = []
    exact List.length_eq_zero_iff.mp (by omega)

theorem runCallback_frame :
    out.runCallback.lost = out.lost ∧ out.runCallback.written = out.written := by
  unfold runCallback
  split <;> exact ⟨rfl, rfl⟩

/-- An open socket takes what the drain has in hand. -/
theorem sent_open (hopen : out.written.any ServerWrite.isClose = false) :
    (out.sent false).sending = none ∧ (out.sent false).callbacks = out.callbacks ∧
      (out.sent false).killSwitchQueue = out.killSwitchQueue ∧
        (out.sent false).lost = out.lost := by
  have hwrite : ∀ w, out.write w false = some { out with written := out.written ++ [w] } :=
    fun w => if_neg (by simp [hopen])
  unfold sent
  split
  case h_1 hsending => exact ⟨hsending, rfl, rfl, rfl⟩
  case h_2 payload hsending =>
    rw [hwrite]
    exact ⟨rfl, rfl, rfl, rfl⟩

end

end Outgoing

/-! ## 2. What a step of a connection does

A step of a connection is a move of one of its threads, followed by what the socket does with the
answer. Of the threads only the worker concerns the kill-switch, in the one step where it
commits. -/

section
variable {py : Pydantic} {sessionId : String} {st : LoopState} {now : DateTime}
  {frame : Option Json}

/-- A frame of the client counts, at most after what it acknowledges. -/
theorem receiveFrame_delivery :
    (receiveFrame py sessionId st now frame).2.delivery = st.delivery ∨
      (receiveFrame py sessionId st now frame).2.delivery = st.delivery.nextAck.2 ∨
      ∃ raw message ack, frame = some (.obj raw) ∧ parseClientMessage py raw = .ok message ∧
        message.payload = .killSwitchAck ack ∧
          (receiveFrame py sessionId st now frame).2.delivery =
            (st.delivery.recordKillSwitchAck ack.flagId).2.nextAck.2 := by
  unfold receiveFrame
  split
  · exact .inl rfl
  · split
    · exact .inl rfl
    · split
      · exact .inl rfl
      · exact .inl rfl
      · rename_i raw _ _ message hparse
        unfold receiveMessage
        split
        · exact .inl rfl
        · split
          · rename_i ack hack
            exact .inr (.inr ⟨raw, message, ack, rfl, hparse, hack, rfl⟩)
          · exact .inr (.inl rfl)
  · exact .inl rfl

theorem receiveFrame_pendingKill :
    (receiveFrame py sessionId st now frame).2.delivery.pendingKill =
      st.delivery.pendingKill := by
  rcases @receiveFrame_delivery py sessionId st now frame with
    hsame | hcounted | ⟨-, -, ack, -, -, -, hrecorded⟩
  · rw [hsame]
  · rw [hcounted]
    rfl
  · rw [hrecorded]
    show (st.delivery.recordKillSwitchAck ack.flagId).2.pendingKill = _
    rcases st.delivery.recordKillSwitchAck_cases ack.flagId with
      ⟨_, -, -, hrecord⟩ | ⟨-, hrecord⟩
    · rw [hrecord]
    · rw [hrecord]

/-- The threads have no part in the delivery service. -/
theorem act_delivery {sh : Shared} {conn : Connection} {action : Action}
    (h : ∀ now frame, action ≠ .receive now frame) :
    (conn.act py sh action).2.delivery = conn.delivery := by
  cases action with
  | receive now frame => exact absurd rfl (h now frame)
  | _ =>
    simp only [Connection.act, Connection.disconnect, Connection.joinWorker,
      Connection.joinDispatcher, Connection.checkDispatcherStop, Connection.drain,
      Connection.dispatchNext, Connection.putFlag, Connection.checkWorkerStop,
      Connection.getFlag, Connection.loadSession, Connection.commitFlag,
      Connection.beginShutdown]
    repeat' split
    all_goals rfl

theorem act_pendingKill {sh : Shared} {conn : Connection} {action : Action} :
    (conn.act py sh action).2.delivery.pendingKill = conn.delivery.pendingKill := by
  cases action with
  | receive now frame =>
    simp only [Connection.act, Connection.receive]
    split
    · split
      · exact receiveFrame_pendingKill
      · exact receiveFrame_pendingKill
    · rfl
  | _ => rw [act_delivery fun now frame => by simp]

end

/-- A first termination: the record that goes in, over a flag that does too. -/
structure Terminates (db db' : Database) (sid flagId : UUID) (reason : String) : Prop where
  unrecorded : ∀ x ∈ db.terminationRecords, x.examSessionId ≠ sid
  recorded : Recorded db' sid ⟨flagId.str, reason⟩
  records : ∀ x ∈ db'.terminationRecords, x ∈ db.terminationRecords ∨
    (x.examSessionId = sid ∧ x.triggeringFlagId = some flagId ∧ x.reason = reason)

section
variable {db db₂ db₃ : Database} {examSession : ExamSession} {item : PersistedFlag}
  {c : PersistChoices}

theorem CommitsFlag.terminates (h : CommitsFlag db examSession item c db₂)
    (hs : (db.getExamSession examSession.id).isSome)
    (htrigger : item.decision.triggeredTermination = true)
    (hfirst : FirstTermination db examSession.id item.decision c)
    (hinsert : db₂.insertTerminationRecord (killSwitchRecord examSession.id item.decision c) =
      some db₃) :
    Terminates db db₃ examSession.id c.flagId item.decision.ruleCode where
  unrecorded := fun x hx => (hfirst.fresh x hx).2
  recorded := by
    obtain ⟨severity, -, hflag⟩ := (h.effect hs).flags
    have hflags₃ : db₃.flags = db₂.flags := by
      obtain ⟨-, records, -, rfl⟩ := insertTerminationRecord_eq_some_iff.mp hinsert
      rfl
    refine ⟨_, (mem_insertTerminationRecord hinsert).mpr (.inr rfl),
      flagOf item.decision examSession severity c.flagId, ?_, ⟨rfl, rfl, rfl⟩, rfl, htrigger,
      rfl, rfl⟩
    rw [hflags₃]
    exact (Table.mem_insert? hflag).mpr (.inr rfl)
  records := by
    intro x hx
    rcases (mem_insertTerminationRecord hinsert).mp hx with hx | rfl
    · exact .inl (h.terminationRecords hs ▸ hx)
    · exact .inr ⟨rfl, rfl, rfl⟩

end

namespace Line

/-- Of the database and the kill-switches, what a move of a thread changes. -/
inductive ActEffect (sh : Shared) (line : Line) (fails : Bool) : Database → Outgoing → Prop
  | moved {db : Database} {out : Outgoing} (h : line.out.Moved out)
      (records : db.terminationRecords = sh.db.terminationRecords) :
      ActEffect sh line fails db out
  | terminated {db : Database} {out : Outgoing} {flagId : UUID} {reason : String}
      (h : (line.out.onKillSwitch fails (flagId, reason)).Moved out)
      (terminates : Terminates sh.db db line.conn.claims.sid flagId reason) :
      ActEffect sh line fails db out

section
variable {py : Pydantic} {sh : Shared} {line : Line} {fails : Bool} {db : Database}
  {out out' : Outgoing}

theorem ActEffect.trans (h : ActEffect sh line fails db out) (hmoved : out.Moved out') :
    ActEffect sh line fails db out' := by
  cases h with
  | moved h records => exact .moved (h.trans hmoved) records
  | terminated h terminates => exact .terminated (h.trans hmoved) terminates

/-- Only the worker's commit touches the records. -/
theorem act_terminationRecords {conn : Connection} {action : Action}
    (h : ∀ c, action ≠ .commitFlag c) :
    (conn.act py sh action).1.db.terminationRecords = sh.db.terminationRecords := by
  cases action with
  | receive now frame =>
    simp only [Connection.act, Connection.receive]
    split <;> rfl
  | drain =>
    simp only [Connection.act, Connection.drain]
    split <;> rfl
  | commitFlag c => exact absurd rfl (h c)
  | _ => rfl

/-- A move of a thread with what is sent for it. The handler writes an answer, the worker fires the
    callback where it has inserted a record, and the other threads write nothing. -/
theorem after_effect (hlinked : line.conn.Linked sh) (action : Action) :
    ActEffect sh line fails (line.conn.act py sh action).1.db
      ((line.after py sh fails action).getD line.out) := by
  cases action with
  | receive now frame =>
    refine .moved ?_ (act_terminationRecords fun c => by simp)
    simp only [after]
    split
    · cases hanswer : line.out.answer now fails (receiveFrame py line.conn.claims.sessionId
          ⟨line.conn.delivery, sh.eventBuffer⟩ now frame).1 with
      | none => exact .refl
      | some out => exact Outgoing.moved_answer hanswer
    · exact .refl
  | commitFlag c =>
    cases hpc : line.conn.workerPc with
    | loaded item examSession =>
      have hid : examSession.id = line.conn.claims.sid := hlinked.loaded item examSession hpc
      have hs : (sh.db.getExamSession examSession.id).isSome := hid ▸ hlinked.session
      have heffect := persistLoaded_effect item c hs
      simp only [Connection.act, Connection.commitFlag, after, hpc, Option.getD_some]
      generalize persistLoaded sh.db examSession item c = result at heffect
      -- the one place a kill-switch is raised
      cases heffect with
      | refused _ => exact .moved .refl rfl
      | flagged _ hcommits _ => exact .moved .refl (hcommits.terminationRecords hs)
      | unfired _ hcommits _ _ => exact .moved .refl (hcommits.terminationRecords hs)
      | terminated _ hcommits htrigger hfirst hinsert =>
        refine .terminated .refl ?_
        rw [← hid]
        exact hcommits.terminates hs htrigger hfirst hinsert
    | _ =>
      simp only [Connection.act, Connection.commitFlag, after, hpc]
      exact .moved .refl rfl
  | _ => exact .moved .refl (act_terminationRecords fun c => by simp)

theorem act_effect (hlinked : line.conn.Linked sh) (action : Action) :
    ActEffect sh line fails (line.act py sh action fails).1.db
      (line.act py sh action fails).2.out := by
  refine (after_effect hlinked action).trans ?_
  simp only [act]
  split
  · split
    · exact .refl
    · exact Outgoing.moved_cancelDrain
  · split
    · exact .refl
    · exact Outgoing.moved_cancelDrain

theorem disconnect_frame (conn : Connection) :
    conn.disconnect.claims = conn.claims ∧ conn.disconnect.delivery = conn.delivery := by
  unfold Connection.disconnect
  split <;> exact ⟨rfl, rfl⟩

theorem act_conn (action : Action) :
    (line.act py sh action fails).2.conn.claims = line.conn.claims ∧
      (line.act py sh action fails).2.conn.delivery.pendingKill =
        line.conn.delivery.pendingKill := by
  obtain ⟨hclaims, -⟩ := Connection.act_fixed py sh line.conn action
  obtain ⟨hclaims', hdelivery⟩ := disconnect_frame (line.conn.act py sh action).2
  unfold act
  dsimp only
  split
  · exact ⟨hclaims, act_pendingKill⟩
  · rw [hclaims', hdelivery]
    exact ⟨hclaims, act_pendingKill⟩

/-- Everything the drain can do when its turn comes. -/
inductive Takes (line : Line) (now : ℚ) : Line → Prop
  | idle (empty : line.conn.handler = .serving → line.out.sending = none →
      line.out.killSwitchQueue = []) : Takes line now line
  | registered {item : KillSwitchItem} {rest : List KillSwitchItem} {payload : KillSwitchPayload}
      {delivery : DeliveryService} (sending : line.out.sending = none)
      (queue : line.out.killSwitchQueue = item :: rest)
      (prepared : line.conn.delivery.prepareKillSwitch item.flagId item.reason now =
        (.ok payload, delivery)) :
      Takes line now ⟨{ line.conn with delivery },
        { line.out with killSwitchQueue := rest, sending := some payload }⟩
  | refused {item : KillSwitchItem} {rest : List KillSwitchItem} {e : KillSwitchError}
      {delivery : DeliveryService} (queue : line.out.killSwitchQueue = item :: rest)
      (prepared : line.conn.delivery.prepareKillSwitch item.flagId item.reason now =
        (.error e, delivery)) :
      Takes line now ⟨{ line.conn with delivery },
        { line.out with
          killSwitchQueue := rest, lost := line.out.lost ++ [(.refused, item)] }⟩

theorem takes (line : Line) (now : ℚ) : Takes line now (line.takeKillSwitch now) := by
  unfold takeKillSwitch
  split
  case isFalse hbusy => exact .idle fun hserving hsending => absurd ⟨hserving, hsending⟩ hbusy
  case isTrue hguard =>
    split
    case h_1 hqueue => exact .idle fun _ _ => hqueue
    case h_2 item rest hqueue =>
      cases hprepared : line.conn.delivery.prepareKillSwitch item.flagId item.reason now with
      | mk answer delivery =>
        cases answer with
        | ok payload => exact .registered hguard.2 hqueue hprepared
        | error e => exact .refused hqueue hprepared

theorem takeKillSwitch_frame {now : ℚ} :
    (line.takeKillSwitch now).conn.claims = line.conn.claims ∧
      (line.takeKillSwitch now).out.raised = line.out.raised ∧
        (line.takeKillSwitch now).out.callbacks = line.out.callbacks ∧
          (line.takeKillSwitch now).out.written = line.out.written := by
  have htakes := line.takes now
  generalize line.takeKillSwitch now = taken at htakes ⊢
  cases htakes with
  | idle _ => exact ⟨rfl, rfl, rfl, rfl⟩
  | registered _ _ _ => exact ⟨rfl, rfl, rfl, rfl⟩
  | refused _ _ => exact ⟨rfl, rfl, rfl, rfl⟩

/-! ## 3. The kill-switches of one connection

The invariant of one line, against a database in which nothing but `Lost` artifacts is ever
deleted. -/

structure Inv (db : Database) (line : Line) : Prop where
  accounted : line.out.Accounted
  recorded : ∀ item ∈ line.out.raised, Recorded db line.conn.claims.sid item
  /-- Once one is registered, none is waiting. -/
  prepared : line.conn.delivery.pendingKill.isSome → line.out.raised ≠ [] ∧
    line.out.callbacks = [] ∧ line.out.killSwitchQueue = []

variable {Lost : EvidenceArtifact → Prop} {db' : Database} {line' : Line}

theorem inv_start {claims : SessionClaims} {examSession : ExamSession}
    {underOverride : Bool} : Inv db ⟨.start claims examSession underOverride, .new⟩ where
  accounted := Outgoing.accounted_new
  recorded := List.forall_mem_nil _
  prepared := fun h => nomatch h

theorem Inv.mono (h : line.Inv db) (hkeeps : db.Keeps Lost db') : line.Inv db' :=
  ⟨h.accounted, fun item hitem => (h.recorded item hitem).mono hkeeps, h.prepared⟩

theorem Inv.moved (h : line.Inv db) (hmoved : line.out.Moved line'.out)
    (hclaims : line'.conn.claims = line.conn.claims)
    (hpending : line'.conn.delivery.pendingKill = line.conn.delivery.pendingKill) :
    line'.Inv db where
  accounted := h.accounted.moved hmoved
  recorded := by
    rw [hmoved.raised, hclaims]
    exact h.recorded
  prepared := by
    intro hprepared
    obtain ⟨hraised, hcallbacks, hqueue⟩ := h.prepared (hpending ▸ hprepared)
    exact ⟨hmoved.raised ▸ hraised, hmoved.pending hcallbacks hqueue⟩

theorem Inv.raised_of_queue (h : line.Inv db) {item : KillSwitchItem}
    {rest : List KillSwitchItem} (hqueue : line.out.killSwitchQueue = item :: rest) :
    item ∈ line.out.raised := by
  rw [h.accounted.places.mem_iff]
  simp [Outgoing.places, hqueue]

/-- A session that is terminated now had no record, so its connections have raised nothing. -/
theorem Inv.raised_eq_nil (h : line.Inv db) {flagId : UUID} {reason : String}
    (hterminates : Terminates db db' line.conn.claims.sid flagId reason) :
    line.out.raised = [] := by
  rw [List.eq_nil_iff_forall_not_mem]
  intro item hitem
  obtain ⟨r, hr, -, -, ⟨hsession, -⟩, -⟩ := h.recorded item hitem
  exact hterminates.unrecorded r hr hsession

/-- A thread moves. Either the kill-switches only move on, or the session is terminated in this
    step; then it was not before, and the kill-switch is the first. -/
theorem Inv.act (h : line.Inv sh.db) (hlinked : line.conn.Linked sh) (action : Action)
    (hkeeps : sh.db.Keeps Lost (line.act py sh action fails).1.db) :
    (line.act py sh action fails).2.Inv (line.act py sh action fails).1.db := by
  have heffect := @act_effect py sh line fails hlinked action
  obtain ⟨hclaims, hpending⟩ := @act_conn py sh line fails action
  generalize line.act py sh action fails = moved at *
  cases heffect with
  | moved hmoved _ => exact (h.mono hkeeps).moved hmoved hclaims hpending
  | @terminated flagId reason hmoved hterminates =>
    have hnone := h.raised_eq_nil hterminates
    have hraised : moved.2.out.raised = [⟨flagId.str, reason⟩] := by
      rw [hmoved.raised, Outgoing.onKillSwitch_raised, hnone]
      rfl
    refine ⟨(Outgoing.accounted_onKillSwitch h.accounted hnone).moved hmoved, ?_, ?_⟩
    · intro item hitem
      rw [hraised] at hitem
      rw [List.mem_singleton.mp hitem, hclaims]
      exact hterminates.recorded
    · intro hprepared
      exact absurd hnone (h.prepared (hpending ▸ hprepared)).1

/-- **The delivery service takes every kill-switch that reaches it.** -/
theorem Inv.prepareKillSwitch (h : line.Inv db) {item : KillSwitchItem}
    {rest : List KillSwitchItem} (hqueue : line.out.killSwitchQueue = item :: rest) (now : ℚ) :
    ∃ payload : KillSwitchPayload, payload.item = item ∧
      line.conn.delivery.prepareKillSwitch item.flagId item.reason now =
        (.ok payload, { line.conn.delivery with
          pendingKill := some ⟨item.flagId, now, 0⟩, killSwitchAcked := false }) := by
  have hne : item.flagId ≠ "" := (h.recorded item (h.raised_of_queue hqueue)).flagId_ne
  have hnone : line.conn.delivery.pendingKill = none := by
    rw [← Option.not_isSome_iff_eq_none]
    intro hsome
    exact absurd (hqueue.symm.trans (h.prepared hsome).2.2) (List.cons_ne_nil item rest)
  have hflight : line.conn.delivery.inFlight = none := by
    unfold DeliveryService.inFlight
    rw [hnone, ite_self]
  refine ⟨⟨item.reason, item.flagId, hne⟩, rfl, ?_⟩
  unfold DeliveryService.prepareKillSwitch killSwitchPayload
  rw [hflight]
  dsimp only
  rw [dif_pos hne]

/-- What is on the queue is all there is. -/
theorem Inv.alone_of_queue (h : line.Inv db) {item : KillSwitchItem}
    {rest : List KillSwitchItem} (hqueue : line.out.killSwitchQueue = item :: rest) :
    rest = [] ∧ line.out.callbacks = [] := by
  have hlength := h.accounted.length_places
  simp only [Outgoing.places, hqueue, List.length_append, List.length_cons] at hlength
  exact ⟨List.length_eq_zero_iff.mp (by omega), List.length_eq_zero_iff.mp (by omega)⟩

theorem Inv.takeKillSwitch (h : line.Inv db) (now : ℚ) : (line.takeKillSwitch now).Inv db := by
  have htakes := line.takes now
  generalize line.takeKillSwitch now = taken at htakes ⊢
  cases htakes with
  | idle _ => exact h
  -- impossible: what is on the queue has an id and nothing is pending
  | refused hqueue hrefused =>
    obtain ⟨payload, -, hprepared⟩ := h.prepareKillSwitch hqueue now
    cases hrefused.symm.trans hprepared
  | @registered item rest _ _ hsending hqueue hregistered =>
    obtain ⟨payload, hpayload, hprepared⟩ := h.prepareKillSwitch hqueue now
    cases hregistered.symm.trans hprepared
    obtain ⟨hrest, hcallbacks⟩ := h.alone_of_queue hqueue
    refine ⟨h.accounted.moved ⟨rfl, ?_, fun _ hx => .inl hx, ?_⟩, h.recorded, ?_⟩
    -- from the queue into the hands of the drain
    · rw [List.perm_iff_count]
      intro a
      simp only [Outgoing.places, hqueue, hsending, hpayload, List.count_append,
        List.count_cons, Option.map_none, Option.map_some, Option.toList_none,
        Option.toList_some, List.count_nil]
      omega
    · exact fun _ hq => absurd (hqueue.symm.trans hq) (List.cons_ne_nil item rest)
    · exact fun _ => ⟨List.ne_nil_of_mem (h.raised_of_queue hqueue), hcallbacks, hrest⟩

theorem Inv.step (h : line.Inv sh.db) (hlinked : line.conn.Linked sh) (l : LineStep)
    (hkeeps : sh.db.Keeps Lost (line.step py sh l).1.db) :
    (line.step py sh l).2.Inv (line.step py sh l).1.db := by
  cases l with
  | act action fails => exact h.act hlinked action hkeeps
  | runCallback => exact Inv.moved h Outgoing.moved_runCallback rfl rfl
  | takeKillSwitch now => exact h.takeKillSwitch now
  | sendKillSwitch fails => exact Inv.moved h Outgoing.moved_sent rfl rfl
  | heartbeat outcome =>
    simp only [Line.step]
    split
    · exact Inv.moved h (Outgoing.moved_beat outcome) rfl rfl
    · exact h

/-! ### A turn of the drain -/

theorem Inv.takeKillSwitch_lost (h : line.Inv db) (now : ℚ) :
    (line.takeKillSwitch now).out.lost = line.out.lost := by
  have htakes := line.takes now
  generalize line.takeKillSwitch now = taken at htakes ⊢
  cases htakes with
  | idle _ => rfl
  | registered _ _ _ => rfl
  | refused hqueue hrefused =>
    obtain ⟨payload, -, hprepared⟩ := h.prepareKillSwitch hqueue now
    cases hrefused.symm.trans hprepared

theorem Inv.takeKillSwitch_queue (h : line.Inv db) (hserving : line.conn.handler = .serving)
    (now : ℚ) : (line.takeKillSwitch now).out.killSwitchQueue = [] := by
  have htakes := line.takes now
  generalize line.takeKillSwitch now = taken at htakes ⊢
  cases htakes with
  | registered _ hqueue _ => exact (h.alone_of_queue hqueue).1
  | refused hqueue _ => exact (h.alone_of_queue hqueue).1
  | idle hempty =>
    cases hsending : line.out.sending with
    | none => exact hempty hserving hsending
    | some payload =>
      -- the drain holds the one there is
      have hlength := h.accounted.length_places
      simp only [Outgoing.places, hsending, List.length_append, Option.map_some,
        Option.toList_some, List.length_cons] at hlength
      exact List.length_eq_zero_iff.mp (by omega)

/-- The callback, the drain up to `send_json`, and the drain from there on. -/
def turn (line : Line) (now : ℚ) : Line :=
  let taken := ({ line with out := line.out.runCallback } : Line).takeKillSwitch now
  { taken with out := taken.out.sent false }

/-- After a turn of the event loop and of the drain, over an open socket, a kill-switch that was
    raised is on the wire, unless it had been lost before. -/
theorem Inv.turn_written (h : line.Inv db) (hserving : line.conn.handler = .serving)
    (hopen : line.out.written.any ServerWrite.isClose = false) (now : ℚ) {item : KillSwitchItem}
    (hitem : item ∈ line.out.raised) :
    item ∈ (line.turn now).out.written.filterMap ServerWrite.killSwitch? ∨
      item ∈ line.out.lost.map (·.2) := by
  have hcalled : Inv db { line with out := line.out.runCallback } :=
    h.moved Outgoing.moved_runCallback rfl rfl
  have htaken := hcalled.takeKillSwitch now
  have hlost := hcalled.takeKillSwitch_lost now
  have hqueue := hcalled.takeKillSwitch_queue hserving now
  obtain ⟨-, hraised, hcallbacks, hwritten⟩ :=
    @takeKillSwitch_frame { line with out := line.out.runCallback } now
  unfold turn
  dsimp only
  generalize Line.takeKillSwitch { line with out := line.out.runCallback } now = taken at *
  rw [h.accounted.runCallback_callbacks] at hcallbacks
  rw [Outgoing.runCallback_frame.2] at hwritten
  rw [Outgoing.runCallback_frame.1] at hlost
  rw [Outgoing.moved_runCallback.raised] at hraised
  obtain ⟨hsending, hcallbacks', hqueue', hlost'⟩ := Outgoing.sent_open (hwritten ▸ hopen)
  -- of all the places two are left
  have hplaces := (htaken.accounted.moved (@Outgoing.moved_sent taken.out false)).places
  rw [Outgoing.moved_sent.raised, hraised] at hplaces
  simpa [Outgoing.places, hsending, hcallbacks', hcallbacks, hqueue', hqueue, hlost', hlost] using
    hplaces.mem_iff.mp hitem

end

end Line

/-! ## 4. What a step keeps

The same for a step of the line as a whole, as the system of all lines needs it: the database keeps
its rows, the connection stays linked to its session, and a kill-switch is raised with a record or
not at all. -/

section
variable {py : Pydantic} {Lost : EvidenceArtifact → Prop} {sh sh' : Shared} {conn : Connection}
  {line : Line}

theorem Connection.Linked.keeps (h : conn.Linked sh) (hkeeps : sh.db.Keeps Lost sh'.db) :
    conn.Linked sh' :=
  ⟨hkeeps.getExamSession h.session, h.policySnapshot, h.context, h.loaded⟩

theorem Connection.Linked.disconnect (h : conn.Linked sh) : conn.disconnect.Linked sh := by
  unfold Connection.disconnect
  split
  · exact ⟨h.session, h.policySnapshot, h.context, h.loaded⟩
  · exact h

theorem Connection.keeps_act (action : Action) :
    sh.db.Keeps Lost (conn.act py sh action).1.db :=
  @Engine.keeps_pipeline py Lost ⟨sh, [conn]⟩ (.on 0 action)

namespace Line

theorem keeps_step (l : LineStep) : sh.db.Keeps Lost (line.step py sh l).1.db := by
  cases l with
  | act action fails => exact Connection.keeps_act action
  | runCallback => exact .refl _
  | takeKillSwitch now => exact .refl _
  | sendKillSwitch fails => exact .refl _
  | heartbeat outcome =>
    simp only [Line.step]
    split <;> exact .refl _

theorem linked_step (h : line.conn.Linked sh) (l : LineStep) :
    (line.step py sh l).2.conn.Linked (line.step py sh l).1 := by
  cases l with
  | act action fails =>
    have hacted : (line.conn.act py sh action).2.Linked (line.conn.act py sh action).1 :=
      h.act action
    simp only [Line.step, Line.act]
    split
    · exact hacted
    · exact hacted.disconnect
  | runCallback => exact h
  | takeKillSwitch now =>
    show (line.takeKillSwitch now).conn.Linked sh
    have htakes := line.takes now
    generalize line.takeKillSwitch now = taken at htakes ⊢
    cases htakes with
    | idle _ => exact h
    | registered _ _ _ => exact ⟨h.session, h.policySnapshot, h.context, h.loaded⟩
    | refused _ _ => exact ⟨h.session, h.policySnapshot, h.context, h.loaded⟩
  | sendKillSwitch fails => exact h
  | heartbeat outcome =>
    simp only [Line.step]
    split <;> exact h

theorem claims_step (l : LineStep) :
    (line.step py sh l).2.conn.claims = line.conn.claims := by
  cases l with
  | act action fails => exact (act_conn action).1
  | runCallback => rfl
  | takeKillSwitch now => exact takeKillSwitch_frame.1
  | sendKillSwitch fails => rfl
  | heartbeat outcome =>
    simp only [Line.step]
    split <;> rfl

/-- **A connection raises a kill-switch in the step that inserts a record, and in no other.** -/
theorem step_raised (h : line.conn.Linked sh) (l : LineStep) :
    ((line.step py sh l).2.out.raised = line.out.raised ∧
      (line.step py sh l).1.db.terminationRecords = sh.db.terminationRecords) ∨
    ∃ flagId reason,
      (line.step py sh l).2.out.raised = line.out.raised ++ [⟨flagId.str, reason⟩] ∧
        Terminates sh.db (line.step py sh l).1.db line.conn.claims.sid flagId reason := by
  cases l with
  | act action fails =>
    have heffect := @act_effect py sh line fails h action
    simp only [Line.step]
    generalize line.act py sh action fails = moved at heffect
    cases heffect with
    | moved hmoved hrecords => exact .inl ⟨hmoved.raised, hrecords⟩
    | @terminated flagId reason hmoved hterminates =>
      refine .inr ⟨flagId, reason, ?_, hterminates⟩
      rw [hmoved.raised, Outgoing.onKillSwitch_raised]
  | runCallback => exact .inl ⟨Outgoing.moved_runCallback.raised, rfl⟩
  | takeKillSwitch now => exact .inl ⟨takeKillSwitch_frame.2.1, rfl⟩
  | sendKillSwitch fails => exact .inl ⟨Outgoing.moved_sent.raised, rfl⟩
  | heartbeat outcome =>
    simp only [Line.step]
    split
    · exact .inl ⟨(Outgoing.moved_beat outcome).raised, rfl⟩
    · exact .inl ⟨rfl, rfl⟩

end Line

end

end ProctorEngine
