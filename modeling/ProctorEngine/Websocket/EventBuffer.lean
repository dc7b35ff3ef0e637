import ProctorEngine.Lib.BoundedQueue
import ProctorEngine.Lib.Run
import ProctorEngine.Websocket.Server

/-!
# What the event buffer loses

`TelemetryEventBuffer` leaves the dropping to its `deque` and counts by a test of its own, made
before the append. The two agree, so **the counter is the number of dropped events**; and since a
drain takes everything, events are drained, dropped or still buffered in the order in which they
were pushed.
-/

set_option autoImplicit false

namespace ProctorEngine

namespace TelemetryEventBuffer

/-- The event a push puts into the buffer, and returns. -/
def event (b : TelemetryEventBuffer) (message : ClientMessage) (receivedAt : DateTime) :
    BufferedEvent :=
  ⟨message, receivedAt, b.seq⟩

/-- The event the `deque` drops for it. -/
def overflow (b : TelemetryEventBuffer) (message : ClientMessage) (receivedAt : DateTime) :
    Option BufferedEvent :=
  (BoundedQueue.append b.maxlen b.buffer (b.event message receivedAt)).1

section
variable {b : TelemetryEventBuffer} {message : ClientMessage} {receivedAt : DateTime}

/-- A push appends to the bounded `deque`, and the test made before it counts what that drops. -/
theorem push_append (b : TelemetryEventBuffer) (message : ClientMessage) (receivedAt : DateTime) :
    (b.push message receivedAt).buffer =
        (BoundedQueue.append b.maxlen b.buffer (b.event message receivedAt)).2 ∧
      (b.push message receivedAt).dropped =
        b.dropped + (b.overflow message receivedAt).toList.length := by
  unfold push overflow
  -- the test `push` makes before it appends
  by_cases hfull : b.buffer.length = b.maxlen
  · rw [dif_pos hfull, BoundedQueue.append_of_full hfull b.maxlenPositive]
    have hhead : b.buffer.head?.isSome := by
      rw [List.isSome_head?, ← List.length_pos_iff, hfull]
      exact b.maxlenPositive
    obtain ⟨oldest, holdest⟩ := Option.isSome_iff_exists.mp hhead
    rw [holdest]
    exact ⟨rfl, rfl⟩
  · have hroom : b.buffer.length < b.maxlen := Nat.lt_of_le_of_ne b.bounded hfull
    rw [dif_neg hfull, BoundedQueue.append_of_lt hroom]
    exact ⟨rfl, rfl⟩

/-- Only a full buffer drops an event, and that is the oldest one in it. -/
theorem overflow_eq_some {dropped : BufferedEvent}
    (h : b.overflow message receivedAt = some dropped) :
    b.buffer.length = b.maxlen ∧ b.buffer.head? = some dropped := by
  unfold overflow at h
  obtain hroom | hfull := Nat.lt_or_eq_of_le b.bounded
  · rw [BoundedQueue.append_of_lt hroom] at h
    cases h
  · rw [BoundedQueue.append_of_full hfull b.maxlenPositive] at h
    exact ⟨hfull, h⟩

end

end TelemetryEventBuffer

/-- The calls to a buffer. Each holds the lock, so they come one after the other. -/
inductive BufferCall where
  | push (message : ClientMessage) (receivedAt : DateTime)
  | drain

/-- A buffer, with what its calls have pushed, drained and dropped since it was made. -/
structure BufferLedger where
  buffer : TelemetryEventBuffer
  pushed : List BufferedEvent
  drained : List BufferedEvent
  dropped : List BufferedEvent

namespace BufferLedger

def new (maxlen : Nat) (h : 0 < maxlen) : BufferLedger := ⟨.new maxlen h, [], [], []⟩

def step (s : BufferLedger) : BufferCall → BufferLedger
  | .push message receivedAt =>
    { s with
      buffer := s.buffer.push message receivedAt
      pushed := s.pushed ++ [s.buffer.event message receivedAt]
      dropped := s.dropped ++ (s.buffer.overflow message receivedAt).toList }
  | .drain => { s with buffer := s.buffer.drain.2, drained := s.drained ++ s.buffer.drain.1 }

/-- Every pushed event is drained, dropped or buffered, once and in the order of the pushes. -/
structure Accounted (s : BufferLedger) : Prop where
  merged : BoundedQueue.Balanced s.pushed s.drained s.dropped s.buffer.buffer
  inOrder : (s.drained ++ s.buffer.buffer).Sublist s.pushed
  numbered : s.pushed.map (·.seq) = List.range s.pushed.length
  next : s.buffer.seq = s.pushed.length
  counted : s.buffer.dropped = s.dropped.length

/-- A call drops nothing, or it drops the oldest event of a full buffer. -/
def DropsOldest (s : BufferLedger) (c : BufferCall) : Prop :=
  (s.step c).dropped = s.dropped ∨
    ∃ oldest, s.buffer.buffer.length = s.buffer.maxlen ∧
      s.buffer.buffer.head? = some oldest ∧ (s.step c).dropped = s.dropped ++ [oldest]

section
variable {s : BufferLedger} {c : BufferCall}

theorem Accounted.step (h : s.Accounted) (c : BufferCall) : (s.step c).Accounted := by
  cases c with
  | push message receivedAt =>
    obtain ⟨hbuffer, hdropped⟩ :=
      TelemetryEventBuffer.push_append s.buffer message receivedAt
    have hmerged := h.merged.push s.buffer.maxlen (s.buffer.event message receivedAt)
    rw [← hbuffer] at hmerged
    constructor
    case merged => exact hmerged
    case inOrder => exact hmerged.inOrder
    case numbered =>
      show (s.pushed ++ [_]).map _ = List.range (s.pushed ++ [_]).length
      rw [List.map_append, h.numbered, List.length_append, List.length_singleton,
        List.range_succ, List.map_singleton, ← h.next]
      rfl
    case next =>
      show (s.buffer.push message receivedAt).seq = (s.pushed ++ [_]).length
      rw [TelemetryEventBuffer.push_seq, h.next, List.length_append, List.length_singleton]
    case counted =>
      show (s.buffer.push message receivedAt).dropped = (s.dropped ++ _).length
      rw [hdropped, h.counted, List.length_append]
  | drain =>
    have hmerged := h.merged.drain
    exact ⟨hmerged, hmerged.inOrder, h.numbered, h.next, h.counted⟩

theorem dropsOldest : s.DropsOldest c := by
  cases c with
  | push message receivedAt =>
    have hdropped : (s.step (.push message receivedAt)).dropped =
        s.dropped ++ (s.buffer.overflow message receivedAt).toList := rfl
    cases hoverflow : s.buffer.overflow message receivedAt with
    | none =>
      rw [hoverflow, Option.toList_none, List.append_nil] at hdropped
      exact .inl hdropped
    | some oldest =>
      rw [hoverflow] at hdropped
      obtain ⟨hfull, hoverflow⟩ := TelemetryEventBuffer.overflow_eq_some hoverflow
      exact .inr ⟨oldest, hfull, hoverflow, hdropped⟩
  | drain => exact .inl rfl

/-- **The buffer loses only what it reports, oldest first.** In every state of a run what was pushed
    is what was drained, what is held and what was dropped, and a push to a full buffer drops the
    head. -/
theorem accounted_run (maxlen : Nat) (h : 0 < maxlen) (calls : List BufferCall) :
    Run.Always step Accounted (new maxlen h) calls ∧
      Run.EachStep step DropsOldest (new maxlen h) calls := by
  constructor
  · apply Run.always_of_step (fun s c hs => hs.step c)
    exact ⟨.nil, List.Sublist.refl [], rfl, rfl, rfl⟩
  · exact Run.eachStep_of_forall fun s c => dropsOldest

/-- The acknowledgement of a kill switch. -/
def acknowledgement : ClientMessage where
  sessionId := "buffered session"
  capturedAt := 0
  payload := .killSwitchAck ⟨"answered flag", none, by decide⟩
  sessionIdNonempty := by decide

/-- A buffer of one event that is pushed two before it is drained. -/
theorem accounted_run_overflow :
    Run.Always step Accounted (new 1 Nat.one_pos)
        [.push acknowledgement 0, .push acknowledgement 1, .drain] ∧
      Run.EachStep step DropsOldest (new 1 Nat.one_pos)
        [.push acknowledgement 0, .push acknowledgement 1, .drain] :=
  accounted_run 1 Nat.one_pos _

end

end BufferLedger

end ProctorEngine
