import ProctorEngine.Browser.ServerMessages
import ProctorEngine.Orchestration.KillSwitchLine

/-!
# Kill-switches on the wire

From the record of a termination to the page, over any run of the whole service with any number of
connections, several for one session among them. **A session is sent one kill-switch at most,
whichever of its connections sends it, and that one names the flag and the reason of its record**,
to the page that reads it too.

None is held back: while the connection is served and its socket open, one turn of the event loop
and of the drain puts the kill-switch on the wire. And none disappears: from the step that inserts
the record on, the kill-switch is at one place, waiting, on the wire, or lost to a closed loop, a
failed write or a cancelled drain. What waits when the handler leaves its loop waits for good.

Everything about one connection is in `KillSwitchLine`. What several have to do with each other is
the record: a connection raises a kill-switch in the step that inserts its session's record, the
table has one record for a session, and a record that is in stays in. So of two connections of a
session that have both raised one, the later has inserted a second record, which the table refuses.

The invariant has that as its last clause and is carried through the steps of the service, which
open connections and raise nothing, and those of a line.
-/

set_option autoImplicit false

namespace ProctorEngine

/-! ## 1. All connections

A step is one of the service's own or one of a line. The first leaves all lines as they are, or
opens one. -/

namespace Engine

section
variable {py : Pydantic} {deps : OrchestrationDeps} {e : Engine} {l : ServiceStep}

/-- Only the handshake changes the connections. -/
theorem serve_connections (h : ∀ l', l ≠ .pipeline l') :
    (e.serve py deps l).system.connections = e.system.connections := by
  cases l with
  | pipeline l' => exact absurd rfl (h l')
  | _ => rfl

theorem linked_serve (h : e.system.Each Connection.Linked) :
    (e.serve py deps l).system.Each Connection.Linked := by
  by_cases hpipeline : ∃ l', l = .pipeline l'
  · obtain ⟨l', rfl⟩ := hpipeline
    exact System.linked_step l' h
  · intro conn hconn
    rw [serve_connections fun l' hl => hpipeline ⟨l', hl⟩] at hconn
    exact (h conn hconn).keeps (keeps_serve e l)

end

end Engine

namespace Process

variable {py : Pydantic} {deps : OrchestrationDeps} {p : Process} {i j : Nat}
  {line line' : Line}

theorem line?_eq_some_iff :
    p.line? i = some line ↔
      p.engine.system.connections[i]? = some line.conn ∧ p.outgoing i = line.out := by
  obtain ⟨conn, out⟩ := line
  simp only [line?, Option.map_eq_some_iff, Line.mk.injEq]
  constructor
  · rintro ⟨conn', hconn, rfl, hout⟩
    exact ⟨hconn, hout⟩
  · rintro ⟨hconn, hout⟩
    exact ⟨conn, hconn, rfl, hout⟩

/-- A step of the service leaves a line as it is, or opens one. -/
theorem line?_service (l : ServiceStep) (j : Nat) :
    (p.step py deps (.service l)).line? j = p.line? j ∨
      p.line? j = none ∧ ∃ claims examSession underOverride,
        (p.step py deps (.service l)).line? j =
          some ⟨.start claims examSession underOverride, p.outgoing j⟩ := by
  cases l with
  | pipeline l =>
    cases l with
    | on i action => exact .inl rfl
    | connect claims backendAvailable now recordId =>
      have hslot := System.connectionStep py p.engine.system j
        (.connect claims backendAvailable now recordId)
      simp only [step, Engine.serve, line?]
      generalize p.engine.system.connections[j]? = slot at hslot ⊢
      generalize (p.engine.system.step py _).connections[j]? = slot' at hslot ⊢
      cases hslot with
      | kept _ => exact .inl rfl
      | started => exact .inr ⟨rfl, _, _, _, rfl⟩
  | _ => exact .inl rfl

theorem step_on (h : p.line? i = some line) (l : LineStep) :
    p.step py deps (.on i l) = p.put i (line.step py p.engine.system.shared l) := by
  simp only [step, h]

theorem line?_put_self {moved : Shared × Line} (h : p.line? i = some line) :
    (p.put i moved).line? i = some moved.2 := by
  have hlt := (List.getElem?_eq_some_iff.mp (line?_eq_some_iff.mp h).1).1
  rw [line?_eq_some_iff]
  exact ⟨List.getElem?_set_self hlt, Function.update_self ..⟩

theorem line?_put_ne {moved : Shared × Line} (hij : j ≠ i) :
    (p.put i moved).line? j = p.line? j := by
  simp only [put, line?, List.getElem?_set_ne (Ne.symm hij), Function.update_of_ne hij]

/-- Of the service's own steps the moves of the threads are none. -/
theorem step_service (l : ServiceStep) :
    p.step py deps (.service l) = p ∨
      p.step py deps (.service l) = { p with engine := p.engine.serve py deps l } := by
  cases l with
  | pipeline l =>
    cases l with
    | on i action => exact .inl rfl
    | connect claims backendAvailable now recordId => exact .inr rfl
  | _ => exact .inr rfl

/-- The record of a termination stays, whatever happens next. -/
theorem keeps_step (l : ProcessStep) : ∃ Lost, p.db.Keeps Lost (p.step py deps l).db := by
  cases l with
  | service l =>
    rcases @step_service py deps p l with hidle | hserved
    · rw [hidle]
      exact ⟨fun _ => False, .refl _⟩
    · rw [hserved]
      exact ⟨_, Engine.keeps_serve p.engine l⟩
  | on i l =>
    cases hline : p.line? i with
    | none =>
      simp only [step, hline]
      exact ⟨fun _ => False, .refl _⟩
    | some line =>
      rw [step_on hline]
      exact ⟨fun _ => False, line.keeps_step l⟩

/-- What holds in every state of the process: the connections are accounted for, and of those of
    one session one raises a kill-switch at most. -/
structure Inv (p : Process) : Prop where
  linked : p.engine.system.Each Connection.Linked
  unborn : ∀ i, p.line? i = none → p.outgoing i = .new
  lines : ∀ i line, p.line? i = some line → line.Inv p.db
  one : ∀ i j line line', p.line? i = some line → p.line? j = some line' →
    line.conn.claims.sid = line'.conn.claims.sid →
      line.out.raised ≠ [] → line'.out.raised ≠ [] → i = j

theorem inv_start {eventBuffer : TelemetryEventBuffer} {db : Database} {store : EvidenceStore} :
    (start ⟨.idle eventBuffer db, store⟩).Inv where
  linked := List.forall_mem_nil _
  unborn := fun _ _ => rfl
  lines := fun _ _ h => nomatch h
  one := fun _ _ _ _ h => nomatch h

theorem Inv.linked_line (h : p.Inv) (hline : p.line? i = some line) :
    line.conn.Linked p.engine.system.shared :=
  h.linked _ (List.mem_of_getElem? (line?_eq_some_iff.mp hline).1)

theorem Inv.service (h : p.Inv) (l : ServiceStep) : (p.step py deps (.service l)).Inv := by
  obtain ⟨Lost, hkeeps⟩ := @keeps_step py deps p (.service l)
  have houtgoing : (p.step py deps (.service l)).outgoing = p.outgoing := by
    rcases @step_service py deps p l with hidle | hserved
    · rw [hidle]
    · rw [hserved]
  -- A line that is new has not raised anything yet.
  have hold : ∀ i line, (p.step py deps (.service l)).line? i = some line →
      p.line? i = some line ∨ line.out = .new ∧
        line.Inv (p.step py deps (.service l)).db := by
    intro i line hline
    rcases @line?_service py deps p l i with hsame | ⟨hnone, claims, examSession, u, hopened⟩
    · exact .inl (hsame ▸ hline)
    · obtain rfl := Option.some.inj (hopened.symm.trans hline)
      rw [h.unborn i hnone]
      exact .inr ⟨rfl, Line.inv_start⟩
  refine ⟨?_, ?_, ?_, ?_⟩
  · rcases @step_service py deps p l with hidle | hserved
    · rw [hidle]
      exact h.linked
    · rw [hserved]
      exact Engine.linked_serve h.linked
  · intro i hnone
    rw [houtgoing]
    rcases @line?_service py deps p l i with hsame | ⟨hunborn, -⟩
    · exact h.unborn i (hsame ▸ hnone)
    · exact h.unborn i hunborn
  · intro i line hline
    rcases hold i line hline with hline | ⟨-, hinv⟩
    · exact (h.lines i line hline).mono hkeeps
    · exact hinv
  -- two lines that have raised are both old
  · intro i j line line' hline hline' hsid hraised hraised'
    rcases hold i line hline with hline | ⟨hnew, -⟩
    · rcases hold j line' hline' with hline' | ⟨hnew, -⟩
      · exact h.one i j line line' hline hline' hsid hraised hraised'
      · exact absurd (congrArg Outgoing.raised hnew) hraised'
    · exact absurd (congrArg Outgoing.raised hnew) hraised

/-- A line that has raised its kill-switch now or before is the only one of its session. -/
theorem Inv.raised_alone (h : p.Inv) (hline : p.line? i = some line) {l : LineStep} {other : Line}
    (hij : j ≠ i) (hj : p.line? j = some other)
    (hsid : line.conn.claims.sid = other.conn.claims.sid)
    (hraised : (line.step py p.engine.system.shared l).2.out.raised ≠ []) :
    other.out.raised = [] := by
  by_contra hothers
  rcases Line.step_raised (h.linked_line hline) l with ⟨hsame, -⟩ | ⟨_, _, -, hterminates⟩
  · exact hij (h.one i j line other hline hj hsid (hsame ▸ hraised) hothers).symm
  · rw [hsid] at hterminates
    exact hothers ((h.lines j other hj).raised_eq_nil hterminates)

theorem Inv.on (h : p.Inv) (hline : p.line? i = some line) (l : LineStep) :
    (p.put i (line.step py p.engine.system.shared l)).Inv := by
  have hlinked := h.linked_line hline
  have hkeeps : p.db.Keeps (fun _ => False) (line.step py p.engine.system.shared l).1.db :=
    line.keeps_step l
  have hself := @line?_put_self p i line (line.step py p.engine.system.shared l) hline
  have hother := fun j => @line?_put_ne p i j (line.step py p.engine.system.shared l)
  refine ⟨?_, ?_, ?_, ?_⟩
  · intro conn hconn
    rcases List.mem_or_eq_of_mem_set hconn with hconn | rfl
    · exact (h.linked conn hconn).keeps hkeeps
    · exact Line.linked_step hlinked l
  · intro j hnone
    by_cases hij : j = i
    · rw [hij, hself] at hnone
      cases hnone
    · rw [hother j hij] at hnone
      exact (Function.update_of_ne hij ..).trans (h.unborn j hnone)
  · intro j line' hline'
    by_cases hij : j = i
    · rw [hij, hself] at hline'
      obtain rfl := Option.some.inj hline'
      exact (h.lines i line hline).step hlinked l hkeeps
    · rw [hother j hij] at hline'
      exact (h.lines j line' hline').mono hkeeps
  -- the line that moved may be either of the two
  · intro j k line₁ line₂ hj hk hsid hraised₁ hraised₂
    by_cases hij : j = i
    · by_cases hik : k = i
      · exact hij.trans hik.symm
      · rw [hij, hself] at hj
        rw [hother k hik] at hk
        obtain rfl := Option.some.inj hj
        rw [Line.claims_step] at hsid
        exact absurd (h.raised_alone hline hik hk hsid hraised₁) hraised₂
    · rw [hother j hij] at hj
      by_cases hik : k = i
      · rw [hik, hself] at hk
        obtain rfl := Option.some.inj hk
        rw [Line.claims_step] at hsid
        exact absurd (h.raised_alone hline hij hj hsid.symm hraised₂) hraised₁
      · rw [hother k hik] at hk
        exact h.one j k line₁ line₂ hj hk hsid hraised₁ hraised₂

theorem Inv.step (h : p.Inv) (l : ProcessStep) : (p.step py deps l).Inv := by
  cases l with
  | service l => exact h.service l
  | on i l =>
    cases hline : p.line? i with
    | none =>
      simp only [Process.step, hline]
      exact h
    | some line =>
      rw [step_on hline]
      exact h.on hline l

theorem inv_run {eventBuffer : TelemetryEventBuffer} {db : Database} {store : EvidenceStore}
    {steps : List ProcessStep} :
    Run.Always (step py deps) Inv (start ⟨.idle eventBuffer db, store⟩) steps :=
  Run.always_of_step (fun _ l h => h.step l) inv_start

/-! ## 2. At most one, and the right one

What the sockets carry is among what was raised, so this is the invariant read off at the wire. -/

/-- What the sockets of the process carry of kill-switches. -/
structure Sound (p : Process) : Prop where
  /-- A kill-switch on the wire names the flag and the reason of its session's record. -/
  recorded : ∀ i line, p.line? i = some line → ∀ payload,
    .text (.killSwitch payload) ∈ line.out.written →
      Recorded p.db line.conn.claims.sid payload.item
  once : ∀ i line, p.line? i = some line →
    (line.out.written.filterMap ServerWrite.killSwitch?).length ≤ 1
  /-- No two connections of a session carry one each. -/
  one : ∀ i j line line', p.line? i = some line → p.line? j = some line' →
    line.conn.claims.sid = line'.conn.claims.sid →
      line.out.written.filterMap ServerWrite.killSwitch? ≠ [] →
        line'.out.written.filterMap ServerWrite.killSwitch? ≠ [] → i = j
  unrefused : ∀ i line, p.line? i = some line → ∀ x ∈ line.out.lost, x.1 ≠ .refused

theorem Inv.sound (h : p.Inv) : p.Sound where
  recorded := by
    intro i line hline payload hwritten
    have hinv := h.lines i line hline
    refine hinv.recorded _ (hinv.accounted.raised_of_written ?_)
    exact List.mem_filterMap.mpr ⟨_, hwritten, rfl⟩
  once := by
    intro i line hline
    have haccounted := (h.lines i line hline).accounted
    have hlength := haccounted.places.length_eq
    have hsingle := haccounted.single
    simp only [Outgoing.places, List.length_append] at hlength
    omega
  one := by
    intro i j line line' hline hline' hsid hwritten hwritten'
    obtain ⟨item, hitem⟩ := List.exists_mem_of_ne_nil _ hwritten
    obtain ⟨item', hitem'⟩ := List.exists_mem_of_ne_nil _ hwritten'
    have hraised := (h.lines i line hline).accounted.raised_of_written hitem
    have hraised' := (h.lines j line' hline').accounted.raised_of_written hitem'
    exact h.one i j line line' hline hline' hsid (List.ne_nil_of_mem hraised)
      (List.ne_nil_of_mem hraised')
  unrefused := fun i line hline => (h.lines i line hline).accounted.unrefused

/-- **In every run, a session is sent one kill-switch at most, on one of its connections, and it
    names the flag and the reason its termination is recorded with.** -/
theorem killSwitch_sound (py : Pydantic) (deps : OrchestrationDeps)
    (eventBuffer : TelemetryEventBuffer) (db : Database) (store : EvidenceStore)
    (steps : List ProcessStep) :
    Run.Always (step py deps) Sound (start ⟨.idle eventBuffer db, store⟩) steps := by
  exact inv_run.mono fun _ h => h.sound

/-! ## 3. None disappears

A kill-switch moves between the places of its connection, and no step of another connection touches
them. -/

/-- The record is in, and its kill-switch is at one place of the `i`-th connection. -/
def Announced (r : TerminationRecord) (i : Nat) (p : Process) : Prop :=
  ∃ line flagId, p.line? i = some line ∧ line.conn.claims.sid = r.examSessionId ∧
    r.triggeringFlagId = some flagId ∧ line.out.places = [⟨flagId.str, r.reason⟩]

/-- What a connection has raised, it has raised for good. -/
theorem Inv.raised_step (h : p.Inv) (hline : p.line? i = some line)
    (hraised : line.out.raised ≠ []) (l : ProcessStep) :
    ∃ line', (p.step py deps l).line? i = some line' ∧
      line'.out.raised = line.out.raised ∧ line'.conn.claims = line.conn.claims := by
  cases l with
  | service l =>
    rcases @line?_service py deps p l i with hsame | ⟨hnone, -⟩
    · exact ⟨line, hsame.trans hline, rfl, rfl⟩
    · cases hnone.symm.trans hline
  | on j l =>
    cases hj : p.line? j with
    | none => exact ⟨line, by simpa only [Process.step, hj] using hline, rfl, rfl⟩
    | some other =>
      rw [step_on hj]
      by_cases hij : i = j
      · subst hij
        obtain rfl := Option.some.inj (hj.symm.trans hline)
        refine ⟨_, line?_put_self hj, ?_, Line.claims_step l⟩
        rcases Line.step_raised (h.linked_line hj) l with ⟨hsame, -⟩ | ⟨_, _, -, hterminates⟩
        · exact hsame
        · exact absurd ((h.lines i _ hj).raised_eq_nil hterminates) hraised
      · exact ⟨line, (line?_put_ne hij).trans hline, rfl, rfl⟩

theorem Inv.announced_iff (h : p.Inv) (hline : p.line? i = some line) {item : KillSwitchItem} :
    line.out.places = [item] ↔ line.out.raised = [item] := by
  have hperm := (h.lines i line hline).accounted.places
  constructor
  · intro hplaces
    rw [hplaces] at hperm
    exact List.perm_singleton.mp hperm
  · intro hraised
    rw [hraised] at hperm
    exact List.perm_singleton.mp hperm.symm

theorem Announced.step {r : TerminationRecord} (h : p.Inv) (hannounced : Announced r i p)
    (l : ProcessStep) : Announced r i (p.step py deps l) := by
  obtain ⟨line, flagId, hline, hsid, hflag, hplaces⟩ := hannounced
  have hraised := (h.announced_iff hline).mp hplaces
  obtain ⟨line', hline', hsame, hclaims⟩ :=
    @Inv.raised_step py deps p i line h hline (by simp [hraised]) l
  refine ⟨line', flagId, hline', ?_, hflag, ?_⟩
  · rw [hclaims]
    exact hsid
  · exact ((h.step l).announced_iff hline').mpr (hsame.trans hraised)

/-- The step of a connection that inserts a record raises the kill-switch for it. -/
theorem Inv.announced_on (h : p.Inv) {l : LineStep} {r : TerminationRecord}
    (hr : r ∈ (p.step py deps (.on i l)).db.terminationRecords)
    (hnew : r ∉ p.db.terminationRecords) : Announced r i (p.step py deps (.on i l)) := by
  have hinv : (p.step py deps (.on i l)).Inv := h.step (.on i l)
  cases hline : p.line? i with
  | none =>
    simp only [Process.step, hline] at hr
    exact absurd hr hnew
  | some line =>
    rw [step_on hline] at hr hinv ⊢
    rcases Line.step_raised (h.linked_line hline) l with
      ⟨-, hrecords⟩ | ⟨flagId, reason, hraised, hterminates⟩
    · exact absurd (hrecords ▸ hr) hnew
    · rcases hterminates.records r hr with hold | ⟨hsession, hflag, rfl⟩
      · exact absurd hold hnew
      · have hself := @line?_put_self p i line (line.step py p.engine.system.shared l) hline
        refine ⟨_, flagId, hself, ?_, hflag, (hinv.announced_iff hself).mpr ?_⟩
        · rw [Line.claims_step, hsession]
        · have hnone := (h.lines i line hline).raised_eq_nil hterminates
          rw [hraised, hnone, List.nil_append]

/-- A step of the `i`-th connection: for every record it inserts, the kill-switch is at one place
    in every state from then on. -/
def Announces (py : Pydantic) (deps : OrchestrationDeps) (p : Process) (i : Nat) (l : LineStep)
    (later : List ProcessStep) : Prop :=
  ∀ r ∈ (p.step py deps (.on i l)).db.terminationRecords, r ∉ p.db.terminationRecords →
    Run.Always (step py deps) (Announced r i) (p.step py deps (.on i l)) later

/-- **No kill-switch disappears**: whatever happened before and happens after. The kill-switch of a
    record is in one place at any time: with the callback, on the queue, in the hands of the drain,
    on the wire, or among the losses, which say why. -/
theorem every_record_announced (py : Pydantic) (deps : OrchestrationDeps)
    (eventBuffer : TelemetryEventBuffer) (db : Database) (store : EvidenceStore)
    (earlier : List ProcessStep) (i : Nat) (l : LineStep) (later : List ProcessStep) :
    Announces py deps
      (Run.final (step py deps) (start ⟨.idle eventBuffer db, store⟩) earlier) i l later := by
  intro r hr hnew
  have hinv : (Run.final (step py deps) (start ⟨.idle eventBuffer db, store⟩) earlier).Inv :=
    inv_run.final
  generalize Run.final (step py deps) _ earlier = p at hinv hr hnew ⊢
  have hboth : Run.Always (step py deps) (fun p => p.Inv ∧ Announced r i p)
      (p.step py deps (.on i l)) later :=
    Run.always_of_step (fun _ l h => ⟨h.1.step l, h.2.step h.1 l⟩)
      ⟨hinv.step (.on i l), hinv.announced_on hr hnew⟩
  exact hboth.mono fun _ h => h.2

/-! ## 4. None is held back

The turn is three steps that can be taken in every state. They need not be the next: the statement
is about what they would come to. -/

/-- The oldest callback, and a round of the `i`-th connection's drain whose write goes through. -/
def drainTurn (i : Nat) (now : ℚ) : List ProcessStep :=
  [.on i .runCallback, .on i (.takeKillSwitch now), .on i (.sendKillSwitch false)]

/-- One turn of the event loop and of the drain puts on the wire all that a served connection
    with an open socket has raised, but for what was lost before. -/
def Drains (py : Pydantic) (deps : OrchestrationDeps) (i : Nat) (now : ℚ) (p : Process) : Prop :=
  ∀ line, p.line? i = some line → line.conn.handler = .serving →
    line.out.written.any ServerWrite.isClose = false → ∀ item ∈ line.out.raised,
      (∃ line', (Run.final (step py deps) p (drainTurn i now)).line? i = some line' ∧
        item ∈ line'.out.written.filterMap ServerWrite.killSwitch?) ∨
          item ∈ line.out.lost.map (·.2)

theorem line?_turn (hline : p.line? i = some line) (now : ℚ) :
    (Run.final (step py deps) p (drainTurn i now)).line? i = some (line.turn now) := by
  have hon : ∀ {p : Process} {line : Line} (l : LineStep), p.line? i = some line →
      (p.step py deps (.on i l)).line? i =
        some (line.step py p.engine.system.shared l).2 := by
    intro p line l hline
    rw [step_on hline]
    exact line?_put_self hline
  exact hon (.sendKillSwitch false) (hon (.takeKillSwitch now) (hon .runCallback hline))

/-- **No kill-switch is held back**: in every state of every run. A served connection with an open
    socket needs one turn of the loop and one of the drain, and nothing it has raised waits for
    more. -/
theorem always_drains (py : Pydantic) (deps : OrchestrationDeps)
    (eventBuffer : TelemetryEventBuffer) (db : Database) (store : EvidenceStore)
    (steps : List ProcessStep) (i : Nat) (now : ℚ) :
    Run.Always (step py deps) (Drains py deps i now) (start ⟨.idle eventBuffer db, store⟩)
      steps := by
  refine inv_run.mono ?_
  intro p h line hline hserving hopen item hitem
  rcases (h.lines i line hline).turn_written hserving hopen now hitem with hwritten | hlost
  · exact .inl ⟨line.turn now, line?_turn hline now, hwritten⟩
  · exact .inr hlost

/-! ## 5. What a page is told

The texts on the wire, as the page's reader takes them. -/

/-- A page that reads a kill-switch from its socket reads what its session's record says. -/
def TellsRecord (isoformat : DateTime → String) (p : Process) : Prop :=
  ∀ i line, p.line? i = some line → ∀ d, .text d ∈ line.out.written →
    ∀ reason flagId hflag,
      Browser.readMessage (d.sendJson isoformat) = some (.killSwitch reason flagId hflag) →
        Recorded p.db line.conn.claims.sid ⟨flagId, reason⟩

theorem Sound.tellsRecord (h : p.Sound) (isoformat : DateTime → String) :
    p.TellsRecord isoformat := by
  intro i line hline d hwritten reason flagId hflag hread
  cases d with
  | ping =>
    rw [Browser.readMessage_ping] at hread
    cases hread
  | ack seq receivedAt =>
    rw [Browser.readMessage_ack] at hread
    cases hread
  | killSwitch payload =>
    rw [Browser.readMessage_killSwitch] at hread
    obtain ⟨rfl, rfl⟩ := Browser.ServerMessage.killSwitch.inj (Option.some.inj hread)
    exact h.recorded i line hline payload hwritten

/-- **Whatever text of the server a page takes for a kill-switch, its session is terminated in the
    database, by that flag and for that reason.** -/
theorem pages_told_record (py : Pydantic) (deps : OrchestrationDeps)
    (isoformat : DateTime → String) (eventBuffer : TelemetryEventBuffer) (db : Database)
    (store : EvidenceStore) (steps : List ProcessStep) :
    Run.Always (step py deps) (TellsRecord isoformat) (start ⟨.idle eventBuffer db, store⟩)
      steps := by
  exact inv_run.mono fun _ h => h.sound.tellsRecord isoformat

end Process

end ProctorEngine
