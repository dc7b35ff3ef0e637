import Mathlib.Data.Rat.Defs
import Mathlib.Algebra.Order.Ring.Rat
import ProctorEngine.Lib.Window

/-!
# `RollingBuffer`

The in-memory pre-roll: entries are appended as they are captured and evicted from the front
once their timestamp is older than `windowMs` before `Date.now()`. A heavy frame is kept
twice, as a plain entry and with its metadata.
-/

set_option autoImplicit false

namespace ProctorEngine.Browser

inductive BufferModality where
  | heavyFrame | audioChunk
deriving DecidableEq, Repr

structure RollingBufferEntry where
  data : String
  timestamp : ℚ
  modality : Option BufferModality
deriving DecidableEq, Repr

structure HeavyFrameEntry where
  timestamp : ℚ
  jpegBase64 : String
  dimensions : Nat × Nat
deriving DecidableEq, Repr

/-- The plain entry of a heavy frame. -/
def HeavyFrameEntry.toEntry (e : HeavyFrameEntry) : RollingBufferEntry :=
  ⟨e.jpegBase64, e.timestamp, some .heavyFrame⟩

structure RollingBuffer where
  windowMs : ℚ
  entries : List RollingBufferEntry
  heavyFrameEntries : List HeavyFrameEntry
deriving DecidableEq, Repr

namespace RollingBuffer

def new (windowMs : ℚ) : RollingBuffer := ⟨windowMs, [], []⟩

/-- `evictOld`, with `now` for `Date.now()`. -/
def evictOld (b : RollingBuffer) (now : ℚ) : RollingBuffer :=
  { b with entries := Window.evict RollingBufferEntry.timestamp (now - b.windowMs) b.entries }

def evictOldHeavyFrames (b : RollingBuffer) (now : ℚ) : RollingBuffer :=
  { b with
    heavyFrameEntries :=
      Window.evict HeavyFrameEntry.timestamp (now - b.windowMs) b.heavyFrameEntries }

def push (b : RollingBuffer) (entry : RollingBufferEntry) (now : ℚ) : RollingBuffer :=
  { b with entries := b.entries ++ [entry] }.evictOld now

def add (b : RollingBuffer) (entry : HeavyFrameEntry) (now : ℚ) : RollingBuffer :=
  ({ b with heavyFrameEntries := b.heavyFrameEntries ++ [entry] }.push entry.toEntry
    now).evictOldHeavyFrames now

/-- `drain`: the entries, and the buffer without them. -/
def drain (b : RollingBuffer) : List RollingBufferEntry × RollingBuffer :=
  (b.entries, { b with entries := [], heavyFrameEntries := [] })

section
variable {b : RollingBuffer} {entry : HeavyFrameEntry} {now : ℚ}

theorem add_entries :
    (b.add entry now).entries =
      Window.evict RollingBufferEntry.timestamp (now - b.windowMs)
        (b.entries ++ [entry.toEntry]) := rfl

/-- As long as only heavy frames are buffered, the two lists are one list seen twice. -/
theorem add_entries_eq_map (h : b.entries = b.heavyFrameEntries.map HeavyFrameEntry.toEntry) :
    (b.add entry now).entries =
      (b.add entry now).heavyFrameEntries.map HeavyFrameEntry.toEntry := by
  rw [add_entries, h]
  show Window.evict RollingBufferEntry.timestamp _ (_ ++ [entry].map HeavyFrameEntry.toEntry) = _
  rw [← List.map_append, Window.evict_map]
  rfl

end

end RollingBuffer

end ProctorEngine.Browser
