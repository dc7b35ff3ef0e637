import ProctorEngine.Lib.Base64
import ProctorEngine.Lib.Eviction
import ProctorEngine.Lib.Run
import ProctorEngine.Models
import ProctorEngine.Websocket.Client

/-!
# The rolling buffer of the server

`InMemoryRollingBuffer`, the twin of the browser's buffer. What an entry may weigh is measured on
its payload; what the buffer may weigh in total is summed over the sizes the sender declares. The
total therefore bounds the payloads, and evicts only for them, **exactly as long as the two sums
stay on the same side of `max_total_bytes`**, for every end of the buffer that `max_entries` leaves
room for.

How a payload is measured is a parameter of the result. The code has an approximation of its own for
the first bound, and the real length is another; which of them is meant makes no difference to what
declared sizes can do.

The eviction is that of `Lib/Eviction`, for a bound that only gets easier as the list gets shorter.
-/

set_option autoImplicit false

namespace ProctorEngine.Preprocessing

/-- `RollingBufferConfig`, with what `__post_init__` checks. -/
structure RollingBufferConfig where
  captureIntervalMs : Nat := 300
  windowSeconds : Nat := 15
  maxBytesPerEntry : Nat := 1500000
  maxEntries : Nat := 60
  maxTotalBytes : Nat := 60 * 1500000
  captureIntervalValid : 200 ≤ captureIntervalMs ∧ captureIntervalMs ≤ 500 := by decide
  windowValid : 10 ≤ windowSeconds ∧ windowSeconds ≤ 15 := by decide
  entriesPositive : 0 < maxEntries := by decide
  bytesPerEntryPositive : 0 < maxBytesPerEntry := by decide
  totalBytesPositive : 0 < maxTotalBytes := by decide

/-- `RollingBufferEntry`, with what `__post_init__` checks. Nothing compares `size_bytes` with
    the payload. -/
structure RollingBufferEntry where
  capturedAt : DateTime
  encoded : String
  encoding : String
  resolution : Nat × Nat
  sizeBytes : Nat
  encodingValid : encoding ∈ validFrameEncodings
  encodedNonempty : encoded ≠ ""

/-- `BufferFlushError`. -/
structure BufferFlushError where
  message : String

structure InMemoryRollingBuffer where
  config : RollingBufferConfig
  entries : List RollingBufferEntry

/-- `_approx_decoded_size`: three quarters of the characters that are not padding, rounded up. -/
def approxDecodedSize (encoded : String) : Nat :=
  if encoded = "" then 0
  else ((encoded.length - encoded.toList.count '=') * 3 + 3) / 4

/-- The bytes a payload really decodes to; one that is not base64 has none. -/
def RollingBufferEntry.decodedSize (entry : RollingBufferEntry) : Nat :=
  ((Base64.forgivingDecode entry.encoded.toList).getD []).length

namespace RollingBufferConfig

/-- The payload check of `append` fails. -/
def Refuses (config : RollingBufferConfig) (entry : RollingBufferEntry) : Prop :=
  config.maxBytesPerEntry < approxDecodedSize entry.encoded

/-- Both bounds on the buffer hold, where `size` is the size of an entry. -/
def Fits (config : RollingBufferConfig) (size : RollingBufferEntry → Nat)
    (entries : List RollingBufferEntry) : Prop :=
  entries.length ≤ config.maxEntries ∧ (entries.map size).sum ≤ config.maxTotalBytes

instance (config : RollingBufferConfig) : DecidablePred config.Refuses := fun entry =>
  inferInstanceAs (Decidable (config.maxBytesPerEntry < approxDecodedSize entry.encoded))

instance (config : RollingBufferConfig) (size : RollingBufferEntry → Nat) :
    DecidablePred (config.Fits size) := fun entries =>
  inferInstanceAs (Decidable (entries.length ≤ config.maxEntries ∧
    (entries.map size).sum ≤ config.maxTotalBytes))

section
variable {config : RollingBufferConfig} {size : RollingBufferEntry → Nat}

theorem fits_nil : config.Fits size [] := ⟨Nat.zero_le _, Nat.zero_le _⟩

/-- What is evicted only makes the rest lighter. -/
theorem antitone_fits : Eviction.Antitone (config.Fits size) := by
  intro xs ys hys hfits
  constructor
  · exact le_trans hys.length_le hfits.1
  · exact le_trans (List.Sublist.sum_le_sum (hys.sublist.map size) fun _ _ => Nat.zero_le _) hfits.2

end

end RollingBufferConfig

namespace InMemoryRollingBuffer

def new (config : RollingBufferConfig) : InMemoryRollingBuffer := ⟨config, []⟩

/-- `append`. Its loop runs while a bound is broken, the total being that of the declared
    sizes. -/
def append (b : InMemoryRollingBuffer) (entry : RollingBufferEntry) :
    Except BufferFlushError Unit × InMemoryRollingBuffer :=
  if b.config.Refuses entry then
    (.error ⟨"entry payload exceeds max_bytes_per_entry (" ++
        toString (approxDecodedSize entry.encoded) ++ " > " ++
        toString b.config.maxBytesPerEntry ++ ")."⟩, b)
  else
    (.ok (), { b with
      entries := Eviction.evict (b.config.Fits RollingBufferEntry.sizeBytes)
        (b.entries ++ [entry]) })

end InMemoryRollingBuffer

/-- A buffer, with the entries its calls have accepted. -/
structure RollingBufferLog where
  buffer : InMemoryRollingBuffer
  accepted : List RollingBufferEntry

namespace RollingBufferLog

def new (config : RollingBufferConfig) : RollingBufferLog := ⟨.new config, []⟩

def append (s : RollingBufferLog) (entry : RollingBufferEntry) : RollingBufferLog where
  buffer := (s.buffer.append entry).2
  accepted := if (s.buffer.append entry).1.isOk then s.accepted ++ [entry] else s.accepted

/-- The contents are the most recent accepted entries, and within both bounds. -/
structure Bounded (size : RollingBufferEntry → Nat) (s : RollingBufferLog) : Prop where
  recent : s.buffer.entries <:+ s.accepted
  fits : s.buffer.config.Fits size s.buffer.entries

/-- An accepted entry evicts only what would break a bound if it were kept, and a rejected one
    leaves the buffer as it is. -/
structure EvictsForBounds (size : RollingBufferEntry → Nat) (s : RollingBufferLog)
    (entry : RollingBufferEntry) : Prop where
  evicts : (s.buffer.append entry).1.isOk →
    ∀ ys, ys <:+ s.buffer.entries ++ [entry] →
      (s.append entry).buffer.entries.length < ys.length → ¬ s.buffer.config.Fits size ys
  rejected : ¬ (s.buffer.append entry).1.isOk → (s.append entry).buffer = s.buffer

/-- An entry is rejected, or the declared total and the real one are on the same side of
    `max_total_bytes`, for all the entries that `max_entries` leaves room for and for every end
    of them. -/
def DeclaresSide (size : RollingBufferEntry → Nat) (s : RollingBufferLog)
    (entry : RollingBufferEntry) : Prop :=
  s.buffer.config.Refuses entry ∨
    ∀ ys, ys <:+ s.buffer.entries ++ [entry] → ys.length ≤ s.buffer.config.maxEntries →
      ((ys.map (·.sizeBytes)).sum ≤ s.buffer.config.maxTotalBytes ↔
        (ys.map size).sum ≤ s.buffer.config.maxTotalBytes)

section
variable {size : RollingBufferEntry → Nat} {s : RollingBufferLog} {entry : RollingBufferEntry}

theorem append_of_refuses (h : s.buffer.config.Refuses entry) :
    (s.buffer.append entry).1.isOk = false ∧ s.append entry = s := by
  unfold append InMemoryRollingBuffer.append
  rw [if_pos h]
  exact ⟨rfl, rfl⟩

theorem append_of_accepts (h : ¬ s.buffer.config.Refuses entry) :
    (s.buffer.append entry).1.isOk = true ∧
      s.append entry = ⟨⟨s.buffer.config,
        Eviction.evict (s.buffer.config.Fits RollingBufferEntry.sizeBytes)
          (s.buffer.entries ++ [entry])⟩, s.accepted ++ [entry]⟩ := by
  unfold append InMemoryRollingBuffer.append
  rw [if_neg h]
  exact ⟨rfl, rfl⟩

/-- An accepted entry leaves what it should exactly when what remains is what would remain if the
    real sizes were summed. -/
theorem bounded_and_evicts_iff_remains (h : s.Bounded size)
    (haccepts : ¬ s.buffer.config.Refuses entry) :
    (s.append entry).Bounded size ∧ s.EvictsForBounds size entry ↔
      Eviction.Remains (s.buffer.config.Fits size) (s.buffer.entries ++ [entry])
        (Eviction.evict (s.buffer.config.Fits RollingBufferEntry.sizeBytes)
          (s.buffer.entries ++ [entry])) := by
  obtain ⟨hok, hstep⟩ := append_of_accepts haccepts
  -- that what remains is an end of the list, the declared sizes already say
  have hdeclared : Eviction.Remains (s.buffer.config.Fits RollingBufferEntry.sizeBytes)
      (s.buffer.entries ++ [entry]) _ := Eviction.remains_evict RollingBufferConfig.fits_nil
  constructor
  · intro ⟨hbounded, hevicts⟩
    have hlongest := hevicts.evicts hok
    rw [hstep] at hbounded hlongest
    exact ⟨hdeclared.suffix, hbounded.fits, hlongest⟩
  · intro hremains
    constructor
    · rw [hstep]
      have hrecent : s.buffer.entries ++ [entry] <:+ s.accepted ++ [entry] :=
        List.suffix_append_self_iff.mpr h.recent
      exact ⟨hremains.suffix.trans hrecent, hremains.fitting⟩
    · constructor
      case evicts =>
        intro _
        rw [hstep]
        exact hremains.longest
      case rejected => exact fun hrejected => absurd hok hrejected

/-- Two sizes fit the same ends exactly when they are on the same side of the total for every
    end that is short enough. -/
theorem fits_agree_iff {config : RollingBufferConfig} {p q : RollingBufferEntry → Nat}
    {xs : List RollingBufferEntry} :
    (∀ ys, ys <:+ xs → (config.Fits p ys ↔ config.Fits q ys)) ↔
      ∀ ys, ys <:+ xs → ys.length ≤ config.maxEntries →
        ((ys.map p).sum ≤ config.maxTotalBytes ↔ (ys.map q).sum ≤ config.maxTotalBytes) := by
  apply forall_congr'
  intro ys
  apply imp_congr_right
  intro _
  exact and_congr_right_iff

/-- One call does what it should exactly when the sizes are declared on the right side. -/
theorem bounded_and_evicts_iff (h : s.Bounded size) :
    (s.append entry).Bounded size ∧ s.EvictsForBounds size entry ↔
      s.DeclaresSide size entry := by
  by_cases hrefuses : s.buffer.config.Refuses entry
  · obtain ⟨hok, hstep⟩ := append_of_refuses hrefuses
    have hevicts : s.EvictsForBounds size entry := by
      constructor
      case evicts =>
        intro haccepted
        rw [hok] at haccepted
        exact absurd haccepted Bool.false_ne_true
      case rejected =>
        intro _
        rw [hstep]
    rw [hstep]
    exact iff_of_true ⟨h, hevicts⟩ (.inl hrefuses)
  · rw [bounded_and_evicts_iff_remains h hrefuses,
      Eviction.remains_evict_iff RollingBufferConfig.fits_nil RollingBufferConfig.antitone_fits
        RollingBufferConfig.antitone_fits, fits_agree_iff]
    exact (or_iff_right hrefuses).symm

/-- **The bounds hold for the payloads, and nothing else is evicted for, exactly along the runs
    whose declared sizes are on the right side of the total.** The bound of an entry is taken of its
    payload, and the bound of the buffer of the sizes the entries declare. -/
theorem bounded_run_iff (config : RollingBufferConfig) (size : RollingBufferEntry → Nat)
    (entries : List RollingBufferEntry) :
    Run.Always append (Bounded size) (new config) entries ∧
        Run.EachStep append (EvictsForBounds size) (new config) entries ↔
      Run.EachStep append (DeclaresSide size) (new config) entries := by
  apply Run.always_and_eachStep_iff (I := fun _ => True) (fun _ _ _ _ => trivial)
    (fun s entry _ h => bounded_and_evicts_iff h) trivial
  exact ⟨List.suffix_refl [], RollingBufferConfig.fits_nil⟩

/-- Three bytes of payload, whatever size is declared for them. -/
def threeBytes (sizeBytes : Nat) : RollingBufferEntry where
  capturedAt := 0
  encoded := "UklG"
  encoding := "png"
  resolution := (640, 480)
  sizeBytes := sizeBytes
  encodingValid := by decide
  encodedNonempty := by decide

/-- Two entries declared as empty are both kept where there is room for one, and one that is
    declared too large for the whole buffer empties it. -/
theorem not_bounded_by_declared_sizes :
    ¬ Run.Always append (Bounded RollingBufferEntry.decodedSize)
        (new { maxBytesPerEntry := 3, maxTotalBytes := 3 }) [threeBytes 0, threeBytes 0] ∧
      ¬ Run.EachStep append (EvictsForBounds RollingBufferEntry.decodedSize) (new {})
        [threeBytes 90000001] := by
  constructor
  · intro h
    exact absurd h.final.fits (by decide)
  · intro h
    -- the entry itself would have fit
    have hevicts := h.1.evicts (by decide) [threeBytes 90000001] (List.suffix_refl _) (by decide)
    exact absurd hevicts (by decide)

end

end RollingBufferLog

end ProctorEngine.Preprocessing
