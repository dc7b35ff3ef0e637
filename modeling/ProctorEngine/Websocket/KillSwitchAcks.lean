import ProctorEngine.Lib.OneShot
import ProctorEngine.Websocket.Server

/-!
# Acknowledgements of a kill-switch

The kill-switch half of `DeliveryService` as a store for one entry: a successful
`prepare_kill_switch` puts a flag in, a `record_kill_switch_ack` that answers `True` takes it
out. The flag is pending from the one to the other, which makes the three states of the
delivery: nothing sent, pending, acknowledged.

The code keeps the last flag registered and a separate mark that it was acknowledged, and the
ack is matched against the flag alone. **So an acknowledgement counts once exactly in the runs in
which none names the registered flag a second time**, nor the empty flag, which is registered
before its payload is refused.
-/

set_option autoImplicit false

namespace ProctorEngine
namespace DeliveryService

/-! ## 1. Calls

The calls of the service in any order, beside a ledger of what was put in and taken out. -/

inductive Call where
  | prepare (flagId reason : String) (now : ℚ)
  | record (flagId : String)
  | retry (now : ℚ)

def step (d : DeliveryService) : Call → DeliveryService
  | .prepare flagId reason now => (d.prepareKillSwitch flagId reason now).2
  | .record flagId => (d.recordKillSwitchAck flagId).2
  | .retry now => (d.shouldRetryKillSwitch now).2

/-- The flags put in and taken out, the newest event first. -/
abbrev Ledger := List (OneShot.Event Unit String String)

/-- What a call adds to the ledger, by its answer. -/
def event? (d : DeliveryService) : Call → Option (OneShot.Event Unit String String)
  | .prepare flagId reason now =>
    (d.prepareKillSwitch flagId reason now).1.toOption.map fun payload => .put () payload.flagId
  | .record flagId => if (d.recordKillSwitchAck flagId).1 then some (.take () flagId) else none
  | .retry _ => none

/-- The kill-switch for this flag has been prepared and not acknowledged since. -/
def Pending (ledger : Ledger) (flagId : String) : Prop :=
  OneShot.latest ledger () = some (.put () flagId)

instance (ledger : Ledger) (flagId : String) : Decidable (Pending ledger flagId) :=
  inferInstanceAs (Decidable (_ = _))

/-- A record answers `True` exactly for the pending flag, and changes nothing otherwise. -/
def RecordsExactly (w : DeliveryService × Ledger) : Call → Prop
  | .record flagId =>
    ((w.1.recordKillSwitchAck flagId).1 = true ↔ Pending w.2 flagId) ∧
      ((w.1.recordKillSwitchAck flagId).1 = false → (w.1.recordKillSwitchAck flagId).2 = w.1)
  | .prepare _ _ _ | .retry _ => True

/-- A kill-switch ack counts once: besides, every `True` is for the flag of the latest
    successful prepare, and between two of them lies another successful prepare. -/
structure CountsOnce (d : DeliveryService) (calls : List Call) : Prop where
  exact : Run.EachStep (OneShot.logged step event?) RecordsExactly (d, []) calls
  once : Run.Always (OneShot.logged step event?) (fun w => OneShot.Kept (· = ·) w.2) (d, []) calls

/-- The ack is not for the registered flag, or that is a proper one not yet acknowledged. -/
def NoReplay (w : DeliveryService × Ledger) : Call → Prop
  | .record flagId => ∀ pending, w.1.pendingKill = some pending → pending.flagId = flagId →
      w.1.killSwitchAcked = false ∧ flagId ≠ ""
  | .prepare _ _ _ | .retry _ => True

/-! ## 2. The store

The slot of the service as a store with one key. The acknowledged flag is still in the slot and no
longer in the store; that is the difference a replay sees. -/

/-- The flag in flight, if a kill-switch could be sent for it. -/
def look (d : DeliveryService) (_ : Unit) : Option String :=
  (d.inFlight.map (·.flagId)).filter (· ≠ "")

section
variable {d : DeliveryService} {w : DeliveryService × Ledger} {flagId reason : String} {now : ℚ}

theorem look_eq_some_iff :
    d.look () = some flagId ↔ flagId ≠ "" ∧ d.killSwitchAcked = false ∧
      ∃ pending, d.pendingKill = some pending ∧ pending.flagId = flagId := by
  unfold look
  simp only [Option.filter_eq_some_iff, Option.map_eq_some_iff, inFlight_eq_some_iff]
  constructor
  · intro ⟨⟨pending, ⟨hacked, hpending⟩, hflag⟩, hne⟩
    exact ⟨by simpa using hne, hacked, pending, hpending, hflag⟩
  · intro ⟨hne, hacked, pending, hpending, hflag⟩
    exact ⟨⟨pending, ⟨hacked, hpending⟩, hflag⟩, by simpa using hne⟩

theorem look_of_inFlight_none (h : d.inFlight = none) : d.look () = none := by
  simp [look, h]

theorem recordKillSwitchAck_iff :
    (d.recordKillSwitchAck flagId).1 = true ↔
      ∃ pending, d.pendingKill = some pending ∧ pending.flagId = flagId := by
  rcases d.recordKillSwitchAck_cases flagId with
    ⟨pending, hpending, hflag, hrecord⟩ | ⟨hother, hrecord⟩
  · rw [hrecord]
    exact iff_of_true rfl ⟨pending, hpending, hflag⟩
  · rw [hrecord]
    exact iff_of_false (by simp) fun ⟨pending, hpending, hflag⟩ => hother pending hpending hflag

theorem recordKillSwitchAck_of_false (h : (d.recordKillSwitchAck flagId).1 = false) :
    (d.recordKillSwitchAck flagId).2 = d := by
  rcases d.recordKillSwitchAck_cases flagId with ⟨_, -, -, hrecord⟩ | ⟨-, hrecord⟩
  · exact absurd h (by simp [hrecord])
  · rw [hrecord]

/-- Between calls that are no replays, a record takes out what is in the store. -/
theorem record_iff_look (h : NoReplay w (.record flagId)) :
    (w.1.recordKillSwitchAck flagId).1 = true ↔ w.1.look () = some flagId := by
  rw [recordKillSwitchAck_iff, look_eq_some_iff]
  constructor
  · intro ⟨pending, hpending, hflag⟩
    obtain ⟨hacked, hne⟩ := h pending hpending hflag
    exact ⟨hne, hacked, pending, hpending, hflag⟩
  · intro ⟨_, _, hpending⟩
    exact hpending

theorem change_prepare :
    OneShot.Change (· = ·) d.look (d.step (.prepare flagId reason now)).look
      (d.event? (.prepare flagId reason now)) := by
  simp only [step, event?]
  rcases d.prepareKillSwitch_cases flagId reason now with ⟨e, -, hprep⟩ | ⟨hnone, hprep⟩
  · rw [hprep]
    exact .idle OneShot.Shrinks.refl
  · rw [hprep]
    rcases killSwitchPayload_cases reason flagId with ⟨hne, hpayload⟩ | ⟨hempty, hpayload⟩
    · rw [hpayload]
      refine .put ?_ fun j hj => absurd rfl hj
      simp [look, inFlight, hne]
    · rw [hpayload]
      refine .idle fun _ => .inr ?_
      simp [look, inFlight, hempty]

/-- A retry is of the flag in flight. -/
theorem look_retry : (d.step (.retry now)).look = d.look := by
  simp only [step]
  rcases d.shouldRetryKillSwitch_cases now with hsame | ⟨pending, hflight, -, hretry⟩
  · rw [hsame]
  · have hpending := inFlight_eq_some_iff.mp hflight
    rw [hretry]
    funext _
    simp [look, inFlight, hpending]

theorem change_retry :
    OneShot.Change (· = ·) d.look (d.step (.retry now)).look (d.event? (.retry now)) := by
  rw [look_retry]
  exact .idle OneShot.Shrinks.refl

theorem change_record (h : NoReplay w (.record flagId)) :
    OneShot.Change (· = ·) w.1.look (w.1.step (.record flagId)).look
      (w.1.event? (.record flagId)) := by
  simp only [step, event?]
  rcases w.1.recordKillSwitchAck_cases flagId with ⟨_, -, -, hrecord⟩ | ⟨-, hrecord⟩
  · have hlook := (record_iff_look h).mp (by rw [hrecord])
    rw [hrecord, if_pos rfl]
    refine .take hlook rfl ?_ fun j hj => absurd rfl hj
    simp [look, inFlight]
  · rw [hrecord, if_neg (by simp)]
    exact .idle OneShot.Shrinks.refl

/-- Every call that is no replay does to the store what it owes. -/
theorem change_of_noReplay {call : Call} (h : NoReplay w call) :
    OneShot.Change (· = ·) w.1.look (w.1.step call).look (w.1.event? call) := by
  cases call with
  | prepare flagId reason now => exact change_prepare
  | record flagId => exact change_record h
  | retry now => exact change_retry

/-- A flag leaves the store by an ack only. -/
theorem look_stays {call : Call} (h : NoReplay w call) (hlook : w.1.look () = some flagId) :
    (w.1.step call).look () = some flagId ∨ ∃ x ∈ w.1.event? call, x.key = () := by
  cases call with
  | prepare flagId' reason now =>
    rcases w.1.prepareKillSwitch_cases flagId' reason now with ⟨e, -, hprep⟩ | ⟨hnone, -⟩
    · refine .inl ?_
      simp only [step, hprep]
      exact hlook
    · exact absurd hlook (by simp [look_of_inFlight_none hnone])
  | record flagId' =>
    rcases w.1.recordKillSwitchAck_cases flagId' with ⟨_, -, -, hrecord⟩ | ⟨-, hrecord⟩
    · exact .inr ⟨.take () flagId', by simp [event?, hrecord], rfl⟩
    · refine .inl ?_
      simp only [step, hrecord]
      exact hlook
  | retry now => exact .inl (by rw [look_retry, hlook])

/-! ## 3. Runs

The general result on one-shot stores, for this one. -/

/-- The ledger says what is in the store, and the promise has been kept so far. -/
structure Synced (w : DeliveryService × Ledger) : Prop where
  tracks : OneShot.Tracks w.2 w.1.look
  retains : OneShot.Retains w.2 w.1.look
  kept : OneShot.Kept (· = ·) w.2

theorem Synced.pending_iff (h : Synced w) : Pending w.2 flagId ↔ w.1.look () = some flagId :=
  ⟨h.retains () flagId, h.tracks () flagId⟩

theorem Synced.step {call : Call} (h : Synced w) (hcall : NoReplay w call) :
    Synced (OneShot.logged DeliveryService.step event? w call) := by
  have hchange := change_of_noReplay hcall
  refine ⟨h.tracks.change hchange, h.retains.change hchange ?_, h.kept.change h.tracks hchange⟩
  intro k flagId hlook
  exact look_stays hcall hlook

/-- A record answers exactly where it is no replay. -/
theorem Synced.recordsExactly_iff {call : Call} (h : Synced w) :
    RecordsExactly w call ↔ NoReplay w call := by
  cases call with
  | prepare flagId reason now => exact Iff.rfl
  | retry now => exact Iff.rfl
  | record flagId =>
    constructor
    · intro hexact pending hpending hflag
      have hmatch := recordKillSwitchAck_iff.mpr ⟨pending, hpending, hflag⟩
      have hlook := look_eq_some_iff.mp (h.pending_iff.mp (hexact.1.mp hmatch))
      exact ⟨hlook.2.1, hlook.1⟩
    · intro hreplay
      exact ⟨(record_iff_look hreplay).trans h.pending_iff.symm, recordKillSwitchAck_of_false⟩

end

theorem synced_new (ackGraceSeconds : ℚ) (maxRetries : Nat) :
    Synced (.new ackGraceSeconds maxRetries, []) :=
  ⟨fun _ _ h => absurd h (by simp [look, inFlight, new]),
    fun _ _ h => absurd h (by simp [OneShot.latest]), OneShot.kept_nil⟩

/-- **A kill-switch ack counts once exactly in the runs without a replay.** The registered flag
    stays where it is after its acknowledgement, and `record_kill_switch_ack` looks at nothing else.
    -/
theorem countsOnce_iff (ackGraceSeconds : ℚ) (maxRetries : Nat) (calls : List Call) :
    CountsOnce (.new ackGraceSeconds maxRetries) calls ↔
      Run.EachStep (OneShot.logged step event?) NoReplay (.new ackGraceSeconds maxRetries, [])
        calls := by
  have hnew := synced_new ackGraceSeconds maxRetries
  have hexact : Run.EachStep (OneShot.logged step event?) RecordsExactly
        (.new ackGraceSeconds maxRetries, []) calls ↔
      Run.EachStep (OneShot.logged step event?) NoReplay (.new ackGraceSeconds maxRetries, [])
        calls :=
    Run.eachStep_iff_of_kept (fun w call h hcall => h.step (h.recordsExactly_iff.mp hcall))
      (fun w call h => h.recordsExactly_iff) hnew
  constructor
  · intro h
    exact hexact.mp h.exact
  · intro h
    have hsynced : Run.Always (OneShot.logged step event?) Synced
        (.new ackGraceSeconds maxRetries, []) calls :=
      Run.always_of_eachStep (fun w call hw hcall => hw.step hcall) hnew h
    exact ⟨hexact.mpr h, hsynced.mono fun w hw => hw.kept⟩

/-- The second acknowledgement of one flag counts again. -/
theorem replay_countsTwice :
    ¬ ∀ (ackGraceSeconds : ℚ) (maxRetries : Nat) (calls : List Call),
      CountsOnce (.new ackGraceSeconds maxRetries) calls := by
  intro h
  have hrun := h 30 3 [.prepare "f-1" "IDENTITY_MISMATCH" 0, .record "f-1", .record "f-1"]
  have hreplay := hrun.exact.2.2.1
  exact absurd (hreplay.1.mp (by decide)) (by decide)

end DeliveryService

end ProctorEngine
