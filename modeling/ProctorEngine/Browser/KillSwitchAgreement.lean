import ProctorEngine.Lib.Redelivery
import ProctorEngine.Lib.Run
import ProctorEngine.Browser.KillSwitch

/-!
# Kill-switch agreement

One `DeliveryService` and one page, with a network between them that loses, delays, repeats and
reorders. Both ends put their messages on the wire for good, and a step delivers the copy of one of
them: a message that is never delivered is lost, one delivered twice is repeated. Between the
deliveries the server prepares and retries at any time and the page goes on capturing. **Whenever
the service takes an acknowledgement, the page has handled that flag exactly once.**

The page is a receiver of redelivered messages that keeps the keys it has handled, and what such a
receiver does whatever arrives is in `Redelivery`: each key is acted on once and every copy
acknowledged. The page's handler is that receiver with the flag as the key (`receiver_handle`), and
the lock and the drain as what is done once.

The service has one slot. It is taken by a kill-switch that was prepared and freed by an
acknowledgement of its flag, and counts the retries; the list of what is outstanding, which a reader
would keep beside it, has the slot's content or nothing.

Only what the page has done makes the service's side true, and only by way of messages, so that the
invariant relates the two through the history of the wire: an acknowledgement that is taken was
sent, and one that was sent was sent by a call.
-/

set_option autoImplicit false

namespace ProctorEngine.Browser
namespace KillSwitchAgreement

/-! ## 1. The two ends and the wire

Every message ever sent stays on the wire under its number, and the calls, what was taken and what
was buffered are logged. -/

/-- A call of `handleKillSwitch`. -/
structure Call where
  payload : KillSwitchPayload
  result : KillSwitchResult
  effects : List PageEffect

/-- A prepared kill-switch whose acknowledgement has not been taken, and how often it was sent
    again. -/
structure Outstanding where
  flagId : String
  redeliveries : Nat
deriving DecidableEq, Repr

structure World where
  delivery : DeliveryService
  page : KillSwitchPage
  /-- Everything the server has put on the wire. -/
  sent : List KillSwitchPayload
  /-- One call for each copy that was delivered. -/
  calls : List Call
  /-- The flags for which `record_kill_switch_ack` returned true. -/
  accepted : List String
  outstanding : List Outstanding
  /-- Everything that was ever put into the rolling buffer. -/
  pushed : List RollingBufferEntry

inductive Step where
  | prepare (flagId reason : String) (now : ℚ)
  | retry (now : ℚ)
  /-- A copy of the `i`-th kill-switch on the wire arrives. -/
  | deliver (i : Nat)
  /-- A copy of the `i`-th acknowledgement on the wire arrives. -/
  | acknowledge (i : Nat)
  | push (entry : RollingBufferEntry) (now : ℚ)
  | add (entry : HeavyFrameEntry) (now : ℚ)

namespace World

/-- The acknowledgements on the wire. -/
def acks (w : World) : List String :=
  w.calls.flatMap fun c => c.effects.filterMap PageEffect.acked?

/-- The flags of the effects of a kind. -/
def flagsOf (w : World) (kind : PageEffect → Bool) : List String :=
  w.calls.flatMap fun c => (c.effects.filter kind).map fun _ => c.payload.flagId

/-- The entries returned by the calls so far. -/
def returned (w : World) : List RollingBufferEntry := w.calls.flatMap (·.result.bufferedEntries)

def handle (w : World) (payload : KillSwitchPayload) : World :=
  let (page, result, effects) := w.page.handleKillSwitch payload
  { w with page, calls := w.calls ++ [⟨payload, result, effects⟩] }

end World

def Outstanding.redelivered (o : Outstanding) (flagId : String) : Outstanding :=
  if o.flagId = flagId then { o with redeliveries := o.redeliveries + 1 } else o

/-- The network delivers any copy that was sent, any number of times and in any order; so does it
    with the acknowledgements. -/
def step (w : World) : Step → World
  | .prepare flagId reason now =>
    let (result, delivery) := w.delivery.prepareKillSwitch flagId reason now
    match result with
    | .error _ => { w with delivery }
    | .ok payload =>
      { w with
        delivery
        sent := w.sent ++ [payload]
        outstanding := w.outstanding ++ [⟨payload.flagId, 0⟩] }
  | .retry now =>
    let (result, delivery) := w.delivery.shouldRetryKillSwitch now
    match result with
    | .error _ | .ok none => { w with delivery }
    | .ok (some payload) =>
      { w with
        delivery
        sent := w.sent ++ [payload]
        outstanding := w.outstanding.map (·.redelivered payload.flagId) }
  | .deliver i =>
    match w.sent[i]? with
    | none => w
    | some payload => w.handle payload
  | .acknowledge i =>
    match w.acks[i]? with
    | none => w
    | some flagId =>
      let (matched, delivery) := w.delivery.recordKillSwitchAck flagId
      if matched then
        { w with
          delivery
          accepted := w.accepted ++ [flagId]
          outstanding := w.outstanding.filter fun o => o.flagId ≠ flagId }
      else { w with delivery }
  | .push entry now =>
    { w with
      page := { w.page with rollingBuffer := w.page.rollingBuffer.push entry now }
      pushed := w.pushed ++ [entry] }
  | .add entry now =>
    { w with
      page := { w.page with rollingBuffer := w.page.rollingBuffer.add entry now }
      pushed := w.pushed ++ [entry.toEntry] }

/-- A service as constructed, and a page that has handled nothing. -/
def start (ackGraceSeconds : ℚ) (maxRetries : Nat) (page : KillSwitchPage) : World where
  delivery := .new ackGraceSeconds maxRetries
  page := { page with handledFlagIds := [] }
  sent := []
  calls := []
  accepted := []
  outstanding := []
  pushed := page.rollingBuffer.entries

/-- The agreement of the two ends. -/
structure Agrees (maxRetries : Nat) (w : World) : Prop where
  /-- A flag whose acknowledgement was taken has been locked and drained for exactly once. -/
  handled : ∀ f ∈ w.accepted, (w.flagsOf PageEffect.isLock).count f = 1 ∧
    (w.flagsOf PageEffect.isDrain).count f = 1
  /-- Every delivered copy was acknowledged. -/
  acked : ∀ c ∈ w.calls, PageEffect.ack c.payload.flagId ∈ c.effects
  /-- What the calls returned, all calls together, is part of what was buffered, each entry
      taken at most once. -/
  returned : List.Sublist w.returned w.pushed
  oneOutstanding : w.outstanding.length ≤ 1
  redeliveries : ∀ o ∈ w.outstanding, o.redeliveries ≤ maxRetries

/-! ## 2. The page

A call is told by what it adds to the four histories. -/

/-- The page as a receiver of redelivered messages. -/
def receiver (w : World) : Redelivery.Receiver String :=
  ⟨w.page.handledFlagIds, w.flagsOf PageEffect.isLock, w.acks⟩

section
variable {w : World} {payload : KillSwitchPayload}

theorem calls_handle (w : World) (payload : KillSwitchPayload) :
    (w.handle payload).calls = w.calls ++ [⟨payload, (w.page.handleKillSwitch payload).2.1,
      (w.page.handleKillSwitch payload).2.2⟩] := rfl

/-- What a call adds to the histories. -/
theorem handle_histories (w : World) (payload : KillSwitchPayload) :
    (w.handle payload).acks =
        w.acks ++ (w.page.handleKillSwitch payload).2.2.filterMap PageEffect.acked? ∧
    (∀ kind, (w.handle payload).flagsOf kind = w.flagsOf kind ++
      ((w.page.handleKillSwitch payload).2.2.filter kind).map fun _ => payload.flagId) ∧
    (w.handle payload).returned =
      w.returned ++ (w.page.handleKillSwitch payload).2.1.bufferedEntries := by
  refine ⟨?_, ?_, ?_⟩
  · simp [World.acks, calls_handle]
  · intro kind
    simp [World.flagsOf, calls_handle]
  · simp [World.returned, calls_handle]

/-- **The page receives as the library's receiver does.** -/
theorem receiver_handle : receiver (w.handle payload) = (receiver w).receive payload.flagId := by
  obtain ⟨hacks, hflags, -⟩ := handle_histories w payload
  rw [receiver, hacks, hflags]
  unfold Redelivery.Receiver.receive
  rcases w.page.handleKillSwitch_cases payload with
    ⟨hmem, hpage, -, heffects⟩ | ⟨hmem, hhandled, -, -, message, heffects⟩
  · rw [if_pos (show payload.flagId ∈ (receiver w).seen from hmem)]
    simp [World.handle, hpage, heffects, receiver]
  · rw [if_neg (show payload.flagId ∉ (receiver w).seen from hmem)]
    simp [World.handle, hhandled, heffects, receiver, List.filter_cons, List.filterMap_cons]

/-- The page locks when it drains. -/
theorem flagsOf_handle (h : w.flagsOf PageEffect.isDrain = w.flagsOf PageEffect.isLock) :
    (w.handle payload).flagsOf PageEffect.isDrain =
      (w.handle payload).flagsOf PageEffect.isLock := by
  obtain ⟨-, hflags, -⟩ := handle_histories w payload
  rw [hflags, hflags, h]
  rcases w.page.handleKillSwitch_cases payload with
    ⟨-, -, -, heffects⟩ | ⟨-, -, -, -, message, heffects⟩
  · simp [heffects]
  · simp [heffects, List.filter_cons]

/-- A call returns what is in the buffer and empties it, or neither. -/
theorem entries_handle :
    (w.handle payload).returned ++ (w.handle payload).page.rollingBuffer.entries =
      w.returned ++ w.page.rollingBuffer.entries := by
  obtain ⟨-, -, hreturned⟩ := handle_histories w payload
  rw [hreturned]
  rcases w.page.handleKillSwitch_cases payload with
    ⟨-, hpage, hentries, -⟩ | ⟨-, -, hempty, hentries, -⟩
  · simp [World.handle, hpage, hentries]
  · simp [World.handle, hempty, hentries]

end

/-! ## 3. The invariant

The receiver's invariant, the slot, and the entries, of which each is in the buffer or was returned
by one call. -/

structure Inv (maxRetries : Nat) (w : World) : Prop where
  receiver : (receiver w).Inv
  drained : w.flagsOf PageEffect.isDrain = w.flagsOf PageEffect.isLock
  acked : ∀ c ∈ w.calls, PageEffect.ack c.payload.flagId ∈ c.effects
  accepted : ∀ f ∈ w.accepted, f ∈ w.acks
  entries : List.Sublist (w.returned ++ w.page.rollingBuffer.entries) w.pushed
  /-- The slot of the service holds what is outstanding, with its retries. -/
  slot : w.outstanding = [] ∨ ∃ p, w.delivery.inFlight = some p ∧ p.flagId ≠ "" ∧
    w.outstanding = [⟨p.flagId, p.retries⟩]
  retries : ∀ p ∈ w.delivery.pendingKill, p.retries ≤ maxRetries
  maxRetries : w.delivery.maxRetries = maxRetries

section
variable {maxRetries : Nat} {w : World}

theorem inv_start (ackGraceSeconds : ℚ) (maxRetries : Nat) (page : KillSwitchPage) :
    Inv maxRetries (start ackGraceSeconds maxRetries page) where
  receiver := Redelivery.Receiver.inv_empty
  drained := rfl
  acked := fun _ h => absurd h List.not_mem_nil
  accepted := fun _ h => absurd h List.not_mem_nil
  entries := List.Sublist.refl _
  slot := .inl rfl
  retries := fun _ h => absurd h (by simp [start, DeliveryService.new])
  maxRetries := rfl

theorem Inv.agrees (h : Inv maxRetries w) : Agrees maxRetries w where
  handled := by
    intro f hf
    have hcount := h.receiver.count_acted (h.accepted f hf)
    rw [h.drained]
    exact ⟨hcount, hcount⟩
  acked := h.acked
  returned := (List.sublist_append_left _ _).trans h.entries
  oneOutstanding := by
    rcases h.slot with hnone | ⟨p, -, -, hone⟩
    · simp [hnone]
    · simp [hone]
  redeliveries := by
    intro o ho
    rcases h.slot with hnone | ⟨p, hp, -, hone⟩
    · rw [hnone] at ho
      exact absurd ho List.not_mem_nil
    · rw [hone, List.mem_singleton] at ho
      rw [ho]
      exact h.retries p (DeliveryService.inFlight_eq_some_iff.mp hp).2

theorem Inv.handle (h : Inv maxRetries w) (payload : KillSwitchPayload) :
    Inv maxRetries (w.handle payload) where
  receiver := by
    rw [receiver_handle]
    exact h.receiver.receive payload.flagId
  drained := flagsOf_handle h.drained
  acked := by
    intro c hc
    rw [calls_handle] at hc
    rcases List.mem_append.mp hc with hc | hc
    · exact h.acked c hc
    · rw [List.mem_singleton.mp hc]
      rcases w.page.handleKillSwitch_cases payload with
        ⟨-, -, -, heffects⟩ | ⟨-, -, -, -, message, heffects⟩
      · simp [heffects]
      · simp [heffects]
  accepted := by
    intro f hf
    rw [(handle_histories w payload).1]
    exact List.mem_append_left _ (h.accepted f hf)
  entries := by
    rw [entries_handle]
    exact h.entries
  slot := h.slot
  retries := h.retries
  maxRetries := h.maxRetries

/-- Buffering appends to what was buffered and evicts from the front. -/
theorem Inv.buffer (h : Inv maxRetries w) {entry : RollingBufferEntry} {buffer : RollingBuffer}
    (hbuffer : List.Sublist buffer.entries (w.page.rollingBuffer.entries ++ [entry])) :
    Inv maxRetries { w with
      page := { w.page with rollingBuffer := buffer }
      pushed := w.pushed ++ [entry] } where
  receiver := h.receiver
  drained := h.drained
  acked := h.acked
  accepted := h.accepted
  entries := by
    show List.Sublist (w.returned ++ buffer.entries) (w.pushed ++ [entry])
    calc List.Sublist (w.returned ++ buffer.entries)
          (w.returned ++ (w.page.rollingBuffer.entries ++ [entry])) :=
        hbuffer.append_left w.returned
      _ = (w.returned ++ w.page.rollingBuffer.entries) ++ [entry] := (List.append_assoc _ _ _).symm
      List.Sublist _ (w.pushed ++ [entry]) := h.entries.append_right [entry]
  slot := h.slot
  retries := h.retries
  maxRetries := h.maxRetries

/-- What the server does leaves the page's histories alone. -/
theorem Inv.server (h : Inv maxRetries w) {delivery : DeliveryService}
    {sent : List KillSwitchPayload} {accepted : List String} {outstanding : List Outstanding}
    (haccepted : ∀ f ∈ accepted, f ∈ w.acks)
    (hslot : outstanding = [] ∨ ∃ p, delivery.inFlight = some p ∧ p.flagId ≠ "" ∧
      outstanding = [⟨p.flagId, p.retries⟩])
    (hretries : ∀ p ∈ delivery.pendingKill, p.retries ≤ maxRetries)
    (hmaxRetries : delivery.maxRetries = maxRetries) :
    Inv maxRetries { w with delivery, sent, accepted, outstanding } where
  receiver := h.receiver
  drained := h.drained
  acked := h.acked
  accepted := haccepted
  entries := h.entries
  slot := hslot
  retries := hretries
  maxRetries := hmaxRetries

theorem Inv.outstanding_nil (h : Inv maxRetries w) (hnone : w.delivery.inFlight = none) :
    w.outstanding = [] := by
  rcases h.slot with hnil | ⟨p, hp, -⟩
  · exact hnil
  · exact absurd (hnone.symm.trans hp) (by simp)

/-- A kill-switch is prepared when none is outstanding. -/
theorem Inv.prepare (h : Inv maxRetries w) (flagId reason : String) (now : ℚ) :
    Inv maxRetries (step w (.prepare flagId reason now)) := by
  simp only [step]
  rcases w.delivery.prepareKillSwitch_cases flagId reason now with
    ⟨e, -, hrefused⟩ | ⟨hnone, hprepared⟩
  · rw [hrefused]
    exact h
  · rw [hprepared]
    have hnil := h.outstanding_nil hnone
    have hretries : ∀ p ∈ some (⟨flagId, now, 0⟩ : PendingKillSwitch), p.retries ≤ maxRetries := by
      intro p hp
      rw [← Option.some.inj hp]
      exact Nat.zero_le maxRetries
    rcases DeliveryService.killSwitchPayload_cases reason flagId with ⟨hflag, hok⟩ | ⟨-, herror⟩
    · rw [hok]
      refine h.server h.accepted (.inr ⟨⟨flagId, now, 0⟩, rfl, hflag, ?_⟩) hretries h.maxRetries
      rw [hnil]
      rfl
    · rw [herror]
      exact h.server h.accepted (.inl hnil) hretries h.maxRetries

/-- A retry within the budget counts as one redelivery of what is outstanding. -/
theorem Inv.retry (h : Inv maxRetries w) (now : ℚ) :
    Inv maxRetries (step w (.retry now)) := by
  simp only [step]
  rcases w.delivery.shouldRetryKillSwitch_cases now with
    hnone | ⟨pending, hflight, hbudget, hretried⟩
  · rw [hnone]
    exact h
  · rw [hretried]
    have hretries : ∀ p ∈ some (⟨pending.flagId, now, pending.retries + 1⟩ : PendingKillSwitch),
        p.retries ≤ maxRetries := by
      intro p hp
      rw [← Option.some.inj hp, ← h.maxRetries]
      exact hbudget
    -- The copy is of the flag in flight, so the one slot still stands for everything outstanding.
    rcases DeliveryService.killSwitchPayload_cases "retry" pending.flagId with
      ⟨hflag, hok⟩ | ⟨hempty, herror⟩
    · rw [hok]
      refine h.server h.accepted ?_ hretries h.maxRetries
      rcases h.slot with hnil | ⟨p, hp, -, hone⟩
      · left
        rw [hnil]
        rfl
      · right
        obtain rfl := Option.some.inj (hflight.symm.trans hp)
        refine ⟨⟨pending.flagId, now, pending.retries + 1⟩, ?_, hflag, ?_⟩
        · exact DeliveryService.inFlight_eq_some_iff.mpr
            ⟨(DeliveryService.inFlight_eq_some_iff.mp hflight).1, rfl⟩
        · simp [hone, Outstanding.redelivered]
    · -- the flag of what is outstanding is not empty
      rw [herror]
      have hnil : w.outstanding = [] := by
        rcases h.slot with hnil | ⟨p, hp, hflag, -⟩
        · exact hnil
        · obtain rfl := Option.some.inj (hflight.symm.trans hp)
          exact absurd hempty hflag
      exact h.server h.accepted (.inl hnil) hretries h.maxRetries

/-- An acknowledgement that is taken closes what is outstanding. -/
theorem Inv.acknowledge (h : Inv maxRetries w) (i : Nat) :
    Inv maxRetries (step w (.acknowledge i)) := by
  simp only [step]
  cases hack : w.acks[i]? with
  | none => exact h
  | some flagId =>
    rcases w.delivery.recordKillSwitchAck_cases flagId with
      ⟨pending, hpending, hflag, hrecord⟩ | ⟨-, hrecord⟩
    · simp only [hrecord, if_true]
      refine h.server ?_ (.inl ?_) h.retries h.maxRetries
      · intro f hf
        rcases List.mem_append.mp hf with hf | hf
        · exact h.accepted f hf
        · rw [List.mem_singleton.mp hf]
          exact List.mem_of_getElem? hack
      · rcases h.slot with hnil | ⟨p, hp, -, hone⟩
        · rw [hnil]
          rfl
        · have hsame := (DeliveryService.inFlight_eq_some_iff.mp hp).2
          obtain rfl := Option.some.inj (hpending.symm.trans hsame)
          rw [hone]
          simpa using hflag
    · simp only [hrecord]
      exact h

theorem Inv.step (h : Inv maxRetries w) (a : Step) : Inv maxRetries (step w a) := by
  cases a with
  | prepare flagId reason now => exact h.prepare flagId reason now
  | retry now => exact h.retry now
  | deliver i =>
    simp only [KillSwitchAgreement.step]
    cases w.sent[i]? with
    | none => exact h
    | some payload => exact h.handle payload
  | acknowledge i => exact h.acknowledge i
  | push entry now => exact h.buffer (List.dropWhile_sublist _)
  | add entry now => exact h.buffer (List.dropWhile_sublist _)

end

/-! ## 4. The verdict

In every state of every run, from any page that has handled nothing. -/

/-- **The two ends agree in every state of every run**: whatever the network does to the copies,
    whenever the server prepares and retries, and whatever is captured in between. A flag the server
    takes for acknowledged has been locked for once and drained for once, and every copy that was
    delivered has been acknowledged. -/
theorem kill_switch_agreement (ackGraceSeconds : ℚ) (maxRetries : Nat) (page : KillSwitchPage)
    (steps : List Step) :
    Run.Always step (Agrees maxRetries) (start ackGraceSeconds maxRetries page) steps := by
  have hinv : Run.Always step (Inv maxRetries) (start ackGraceSeconds maxRetries page) steps :=
    Run.always_of_step (fun _ a h => h.step a) (inv_start ackGraceSeconds maxRetries page)
  exact hinv.mono fun _ h => h.agrees

/-- A kill-switch sent three times, delivered twice, and acknowledged at the second attempt. -/
example : (Run.final step (start 30 3 .boot)
    [.prepare "f" "second_person" 0, .retry 30, .deliver 0, .retry 60, .deliver 1,
      .acknowledge 1]).accepted = ["f"] := by
  decide +kernel

end KillSwitchAgreement
end ProctorEngine.Browser
