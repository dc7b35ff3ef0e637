import ProctorEngine.Websocket.Client

/-!
# Server-side buffering

`TelemetryEventBuffer`: a bounded, thread-safe FIFO between the WebSocket handlers and the
dispatchers. A push onto a full buffer drops the oldest event and counts it; a drain takes
everything. `DeliveryService`: the acknowledgement counter of one connection and the kill-switch it
has in flight.

Both are state and functions under the names of the source, one call a function. The buffer's lock
makes its calls atomic, and the delivery service belongs to one connection's task, so a run of
either is a list of calls.
-/

set_option autoImplicit false

namespace ProctorEngine

/-- An ingested message with its arrival time and sequence number. The mutable
    `synthetic_id`, unset until a dispatcher mints it, is the field `DispatchedEvent` adds. -/
structure BufferedEvent where
  message : ClientMessage
  receivedAt : DateTime
  seq : Nat
deriving DecidableEq

/-- A buffered event a dispatcher has drained and given its `synthetic_id`. -/
structure DispatchedEvent extends BufferedEvent where
  syntheticId : UUID
deriving DecidableEq

/-- The buffer; `deque(maxlen=…)` is the bound. -/
structure TelemetryEventBuffer where
  maxlen : Nat
  buffer : List BufferedEvent
  seq : Nat
  dropped : Nat
  maxlenPositive : 0 < maxlen
  bounded : buffer.length ≤ maxlen

namespace TelemetryEventBuffer

/-- A buffer as constructed. -/
def new (maxlen : Nat) (h : 0 < maxlen) : TelemetryEventBuffer :=
  ⟨maxlen, [], 0, 0, h, Nat.zero_le _⟩

/-- `push`: append, dropping the oldest event of a full buffer. The number of an event is that of
    its push, so it stays with the event when others are dropped. -/
def push (b : TelemetryEventBuffer) (message : ClientMessage) (receivedAt : DateTime) :
    TelemetryEventBuffer :=
  if h : b.buffer.length = b.maxlen then
    { b with
      buffer := b.buffer.tail ++ [⟨message, receivedAt, b.seq⟩]
      seq := b.seq + 1
      dropped := b.dropped + 1
      bounded := by
        have := b.maxlenPositive
        simp only [List.length_append, List.length_tail, List.length_singleton]
        omega }
  else
    { b with
      buffer := b.buffer ++ [⟨message, receivedAt, b.seq⟩]
      seq := b.seq + 1
      bounded := by
        have := b.bounded
        simp only [List.length_append, List.length_singleton]
        omega }

/-- `drain`: everything, oldest first. -/
def drain (b : TelemetryEventBuffer) : List BufferedEvent × TelemetryEventBuffer :=
  (b.buffer, { b with buffer := [], bounded := Nat.zero_le _ })

@[simp] theorem push_seq (b : TelemetryEventBuffer) (message : ClientMessage)
    (receivedAt : DateTime) : (b.push message receivedAt).seq = b.seq + 1 := by
  unfold push
  split <;> rfl

/-- A push puts nothing into the buffer but the pushed message. -/
theorem mem_push {b : TelemetryEventBuffer} {message : ClientMessage} {receivedAt : DateTime}
    {e : BufferedEvent} (h : e ∈ (b.push message receivedAt).buffer) :
    e ∈ b.buffer ∨ e = ⟨message, receivedAt, b.seq⟩ := by
  unfold push at h
  split at h
  · rcases List.mem_append.mp h with h | h
    · exact .inl (List.mem_of_mem_tail h)
    · exact .inr (List.mem_singleton.mp h)
  · rcases List.mem_append.mp h with h | h
    · exact .inl h
    · exact .inr (List.mem_singleton.mp h)

end TelemetryEventBuffer

/-- `KillSwitchPayload`; the proof field is its `Field(min_length=1)`. -/
structure KillSwitchPayload where
  reason : String
  flagId : String
  flagIdNonempty : flagId ≠ ""

inductive KillSwitchError where
  /-- `KillSwitchDeliverError`, with the flag of the kill-switch in flight. -/
  | alreadyPending (flagId : String)
  /-- The payload's `ValidationError`. -/
  | invalidPayload
deriving DecidableEq, Repr

def killSwitchPayload (reason flagId : String) : Except KillSwitchError KillSwitchPayload :=
  if h : flagId ≠ "" then .ok ⟨reason, flagId, h⟩ else .error .invalidPayload

/-- `_PendingKillSwitch`. -/
structure PendingKillSwitch where
  flagId : String
  /-- `time.monotonic()` -/
  sentAt : ℚ
  retries : Nat
deriving DecidableEq, Repr

structure DeliveryService where
  seq : Nat
  ackGrace : ℚ
  maxRetries : Nat
  pendingKill : Option PendingKillSwitch
  killSwitchAcked : Bool
deriving DecidableEq, Repr

namespace DeliveryService

/-- A service as constructed, with the defaults of its parameters. -/
def new (ackGraceSeconds : ℚ := 30) (maxRetries : Nat := 3) : DeliveryService :=
  ⟨0, ackGraceSeconds, maxRetries, none, false⟩

/-- `next_ack`: the sequence number acknowledged. -/
def nextAck (d : DeliveryService) : Nat × DeliveryService := (d.seq, { d with seq := d.seq + 1 })

/-- The kill-switch that has been sent and not acknowledged. -/
def inFlight (d : DeliveryService) : Option PendingKillSwitch :=
  if d.killSwitchAcked then none else d.pendingKill

/-- `prepare_kill_switch`. The kill-switch is registered before its payload is validated. -/
def prepareKillSwitch (d : DeliveryService) (flagId reason : String) (now : ℚ) :
    Except KillSwitchError KillSwitchPayload × DeliveryService :=
  match d.inFlight with
  | some pending => (.error (.alreadyPending pending.flagId), d)
  | none =>
    (killSwitchPayload reason flagId,
      { d with pendingKill := some ⟨flagId, now, 0⟩, killSwitchAcked := false })

/-- `record_kill_switch_ack`: whether the ack matched the one registered last. -/
def recordKillSwitchAck (d : DeliveryService) (flagId : String) : Bool × DeliveryService :=
  if d.pendingKill.any (·.flagId = flagId) then (true, { d with killSwitchAcked := true })
  else (false, d)

/-- `should_retry_kill_switch`. Only one that is not acknowledged is sent again, after the grace
    period and as often as the budget allows. -/
def shouldRetryKillSwitch (d : DeliveryService) (now : ℚ) :
    Except KillSwitchError (Option KillSwitchPayload) × DeliveryService :=
  match d.inFlight with
  | none => (.ok none, d)
  | some pending =>
    if now - pending.sentAt < d.ackGrace then (.ok none, d)
    else if d.maxRetries ≤ pending.retries then (.ok none, d)
    else
      ((killSwitchPayload "retry" pending.flagId).map some,
        { d with pendingKill := some ⟨pending.flagId, now, pending.retries + 1⟩ })

section
variable {d : DeliveryService} {pending : PendingKillSwitch} {flagId reason : String} {now : ℚ}

theorem inFlight_eq_some_iff :
    d.inFlight = some pending ↔ d.killSwitchAcked = false ∧ d.pendingKill = some pending := by
  unfold inFlight
  by_cases h : d.killSwitchAcked
  · simp [h]
  · simp [h]

/-- A kill-switch is prepared exactly when none is in flight. -/
theorem prepareKillSwitch_cases (d : DeliveryService) (flagId reason : String) (now : ℚ) :
    (∃ e, d.inFlight.isSome ∧ d.prepareKillSwitch flagId reason now = (.error e, d)) ∨
    (d.inFlight = none ∧ d.prepareKillSwitch flagId reason now =
      (killSwitchPayload reason flagId,
        { d with pendingKill := some ⟨flagId, now, 0⟩, killSwitchAcked := false })) := by
  unfold prepareKillSwitch
  cases h : d.inFlight with
  | some pending => exact .inl ⟨_, rfl, rfl⟩
  | none => exact .inr ⟨rfl, rfl⟩

/-- A retry is within the budget of the kill-switch in flight. -/
theorem shouldRetryKillSwitch_cases (d : DeliveryService) (now : ℚ) :
    d.shouldRetryKillSwitch now = (.ok none, d) ∨
    ∃ pending, d.inFlight = some pending ∧ pending.retries < d.maxRetries ∧
      d.shouldRetryKillSwitch now = ((killSwitchPayload "retry" pending.flagId).map some,
        { d with pendingKill := some ⟨pending.flagId, now, pending.retries + 1⟩ }) := by
  unfold shouldRetryKillSwitch
  cases h : d.inFlight with
  | none => exact .inl rfl
  | some pending =>
    by_cases hgrace : now - pending.sentAt < d.ackGrace
    · exact .inl (by simp [hgrace])
    · by_cases hbudget : d.maxRetries ≤ pending.retries
      · exact .inl (by simp [hbudget])
      · exact .inr ⟨pending, rfl, Nat.lt_of_not_le hbudget, by simp [hgrace, hbudget]⟩

/-- An ack is taken for the flag registered last, acknowledged or not. -/
theorem recordKillSwitchAck_cases (d : DeliveryService) (flagId : String) :
    (∃ pending, d.pendingKill = some pending ∧ pending.flagId = flagId ∧
      d.recordKillSwitchAck flagId = (true, { d with killSwitchAcked := true })) ∨
    ((∀ pending, d.pendingKill = some pending → pending.flagId ≠ flagId) ∧
      d.recordKillSwitchAck flagId = (false, d)) := by
  unfold recordKillSwitchAck
  cases hpending : d.pendingKill with
  | none => exact .inr ⟨by simp, rfl⟩
  | some pending =>
    by_cases hflag : pending.flagId = flagId
    · exact .inl ⟨pending, rfl, hflag, by simp [hflag]⟩
    · exact .inr ⟨by simpa using hflag, by simp [hflag]⟩

/-- An ack of a kill-switch leaves the counter of the frames alone. -/
theorem recordKillSwitchAck_seq (d : DeliveryService) (flagId : String) :
    (d.recordKillSwitchAck flagId).2.seq = d.seq := by
  rcases d.recordKillSwitchAck_cases flagId with ⟨_, -, -, hrecord⟩ | ⟨-, hrecord⟩
  · rw [hrecord]
  · rw [hrecord]

theorem killSwitchPayload_cases (reason flagId : String) :
    (∃ h, killSwitchPayload reason flagId = .ok ⟨reason, flagId, h⟩) ∨
      (flagId = "" ∧ killSwitchPayload reason flagId = .error .invalidPayload) := by
  unfold killSwitchPayload
  by_cases h : flagId ≠ ""
  · exact .inl ⟨h, dif_pos h⟩
  · exact .inr ⟨not_not.mp h, dif_neg h⟩

end

end DeliveryService

end ProctorEngine
