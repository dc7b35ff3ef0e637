import Mathlib.Algebra.Order.Ring.Rat
import Mathlib.Data.Rat.Defs
import ProctorEngine.Lib.Base64
import ProctorEngine.Lib.Framing
import ProctorEngine.Websocket.Subprotocol

/-!
# Audio chunks

What a chunk goes through on its way to the voice activity detector: decoding, resampling where its
rate is not one the detector takes, and splitting into frames of fixed length. The splitting loses
no sample. The resampling is never reached: `preprocess_audio_chunk` hands the rate to a decoder
that **refuses every rate there would be something to resample from**.

NumPy's floats are rationals. Of the level in dBFS the mean square is kept, without the root and the
logarithm.

That splitting loses nothing is a fact about blocks of a list and is proved in `Framing`, for any
element type with a zero to pad with. Here the frames get their rate, their duration and the time of
their first sample, which goes on by the duration from frame to frame whatever the samples are.

The resampler is modelled as it stands, although no run of the pipeline gets to it: what a chunk of
another rate should become is stated with it (`KeepsChunk`), so that the statement is about the
code's own notion of resampling.
-/

set_option autoImplicit false

namespace ProctorEngine.Preprocessing

/-- `VAD_SAMPLE_RATES`, sorted. -/
def vadSampleRates : List Nat := [8000, 16000, 32000, 48000]

/-- `VAD_FRAME_DURATIONS`, sorted. -/
def vadFrameDurations : List Nat := [10, 20, 30]

/-- `AudioDecodeError` and `DecoderUnknownEncoding`. -/
inductive AudioError where
  | decode (message : String)
  | unknownEncoding (message : String)
deriving DecidableEq, Repr

/-! ## 1. Decoding

The encoding's name is coerced first, and an encoding nobody knows is refused before the payload is
looked at. -/

inductive AudioEncoding where
  | pcm16Le | pcm16Be | opus | unknown
deriving DecidableEq, Repr

/-- `_coerce_encoding`. -/
def coerceEncoding : Option String → AudioEncoding
  | none => .unknown
  | some value =>
    let norm := String.ofList ((Websocket.pyStrip value.toList).map fun c =>
      if c.toLower = '-' then '_' else c.toLower)
    if norm ∈ ["pcm16_le", "pcm_le", "s16_le", "signed16_le"] then .pcm16Le
    else if norm ∈ ["pcm16_be", "pcm_be", "s16_be", "signed16_be"] then .pcm16Be
    else if norm ∈ ["opus", "ogg_opus"] then .opus
    else .unknown

/-- A word of 16 bits as a signed number. -/
def toInt16 (word : Nat) : Int := if word < 32768 then (word : Int) else (word : Int) - 65536

/-- The samples in a buffer, where `word` puts two bytes together. -/
def frombuffer (word : Nat → Nat → Nat) : List Nat → List Int
  | first :: second :: raw => toInt16 (word first second) :: frombuffer word raw
  | _ => []

/-- The decoder of a PCM format; the two differ in their name and the order of the bytes. -/
def decoderPcm16 (format : String) (word : Nat → Nat → Nat) (encoded : String) :
    Except AudioError (List Int) :=
  match Base64.strictDecode encoded.toList with
  | .error e => .error (.decode ("chunk payload is not valid base64: " ++ e))
  | .ok raw =>
    if raw.length % 2 ≠ 0 then
      .error (.decode (format ++ " chunk has an odd byte count (" ++ toString raw.length ++
        "); each sample is 2 bytes."))
    else .ok (frombuffer word raw)

def decoderPcm16Le : String → Except AudioError (List Int) :=
  decoderPcm16 "PCM-16-LE" fun low high => low + 256 * high

def decoderPcm16Be : String → Except AudioError (List Int) :=
  decoderPcm16 "PCM-16-BE" fun high low => 256 * high + low

/-- The decoder that the encoding names, whatever the rate. -/
def decodeSamples (encoded encoding : String) : Except AudioError (List Int) :=
  match coerceEncoding (some encoding) with
  | .opus =>
    .error (.unknownEncoding
      "Opus decoding is not supported in v1; clients must send PCM-16 (LE or BE).")
  | .unknown =>
    .error (.unknownEncoding ("Unknown audio encoding '" ++ encoding ++
      "'; expected one of ['pcm16_le', 'pcm16_be']."))
  | .pcm16Le => decoderPcm16Le encoded
  | .pcm16Be => decoderPcm16Be encoded

/-- `decode_pcm_audio_chunk`. Without a rate any samples will do; with one, it has to be a rate of
    the detector. -/
def decodePcmAudioChunk (encoded encoding : String) (sampleRateHz : Option Nat) :
    Except AudioError (List Int) :=
  match decodeSamples encoded encoding with
  | .error e => .error e
  | .ok samples =>
    match sampleRateHz with
    | none => .ok samples
    | some rate =>
      if rate ∉ vadSampleRates then
        .error (.decode ("sample_rate_hz " ++ toString rate ++
          " is not one of [8000, 16000, 32000, 48000]; client must resample or caller must " ++
          "invoke resample_to_vad_rate()."))
      else .ok samples

/-! ## 2. Resampling

Linear interpolation to the nearest rate that is supported, the higher of two that are equally
near. -/

/-- `round`: to the nearest integer, and a half to the even one. -/
def roundHalfEven (q : ℚ) : Int :=
  if q - q.floor < 1 / 2 then q.floor
  else if 1 / 2 < q - q.floor then q.floor + 1
  else if q.floor % 2 = 0 then q.floor
  else q.floor + 1

/-- `np.interp` at a point between the first sample and the last. -/
def interp (samples : List Int) (x : ℚ) : ℚ :=
  let left : ℚ := samples.getD x.floor.toNat 0
  let right : ℚ := samples.getD (x.floor.toNat + 1) 0
  left + (right - left) * (x - x.floor)

/-- `np.clip` to 16 bits and `astype(np.int16)`, which cuts off towards zero. -/
def castInt16 (q : ℚ) : Int :=
  if q < 0 then (max q (-32768)).ceil else (min q 32767).floor

/-- The samples at another rate. `resample_to_vad_rate` without its tests. -/
def resample (samples : List Int) (fromRate toRate : Nat) : List Int :=
  if fromRate = toRate then samples
  else
    let dstLen := (roundHalfEven (samples.length * (toRate / fromRate))).toNat
    match samples with
    | [sample] => List.replicate dstLen sample
    | _ =>
      (List.range dstLen).map fun i =>
        castInt16 (interp samples (i * ((samples.length - 1) / (dstLen - 1))))

def resampleToVadRate (samples : List Int) (fromRate toRate : Nat) :
    Except AudioError (List Int) :=
  if fromRate ∉ vadSampleRates then
    .error (.decode ("resample: from_rate " ++ toString fromRate ++
      " is not a VAD-supported rate."))
  else if toRate ∉ vadSampleRates then
    .error (.decode ("resample: to_rate " ++ toString toRate ++ " is not a VAD-supported rate."))
  else .ok (resample samples fromRate toRate)

/-- The distance of two rates. -/
def rateDistance (r rate : Nat) : Nat := (r - rate) + (rate - r)

/-- The key of `r` is smaller than that of `best`: it is closer, or as close and higher. -/
def Closer (rate r best : Nat) : Prop :=
  rateDistance r rate < rateDistance best rate ∨
    rateDistance r rate = rateDistance best rate ∧ best < r

instance (rate r best : Nat) : Decidable (Closer rate r best) :=
  inferInstanceAs (Decidable (_ ∨ _ ∧ _))

/-- `_nearest_vad_rate`. -/
def nearestVadRate (rate : Nat) : Nat :=
  [16000, 32000, 48000].foldl (fun best r => if Closer rate r best then r else best) 8000

/-! ## 3. Frames

Full frames as long as there are samples for one, and one frame padded with zeros for what is
left. -/

structure AudioFrame (α : Type*) where
  samples : List α
  sampleRateHz : Nat
  durationMs : Nat
  capturedAtMs : Int
deriving DecidableEq, Repr

/-- `split_into_vad_frames`. Full frames from the front, and a last one filled up with zeros. -/
def splitIntoVadFrames {α : Type*} [Zero α] (samples : List α) (sampleRateHz durationMs : Nat)
    (capturedAtOffsetMs : Int) : Except AudioError (List (AudioFrame α)) :=
  let samplesPerFrame := sampleRateHz * durationMs / 1000
  if sampleRateHz ∉ vadSampleRates then
    .error (.decode ("split: sample_rate_hz " ++ toString sampleRateHz ++
      " is not VAD-supported."))
  else if durationMs ∉ vadFrameDurations then
    .error (.decode ("split: duration_ms " ++ toString durationMs ++
      " is not VAD-supported; expected one of [10, 20, 30]."))
  else if samplesPerFrame = 0 then
    .error (.decode ("split: rate/duration combination " ++ toString sampleRateHz ++ " Hz / " ++
      toString durationMs ++ " ms produced a 0-sample frame."))
  else if samples.length = 0 then .ok []
  else
    let nFull := samples.length / samplesPerFrame
    let tail := samples.length % samplesPerFrame
    .ok ((List.range nFull).map (fun i =>
        { samples := (samples.drop (i * samplesPerFrame)).take samplesPerFrame
          sampleRateHz := sampleRateHz
          durationMs := durationMs
          capturedAtMs := capturedAtOffsetMs + i * durationMs }) ++
      if tail = 0 then []
      else
        [{ samples := samples.drop (nFull * samplesPerFrame) ++
            List.replicate (samplesPerFrame - tail) 0
           sampleRateHz := sampleRateHz
           durationMs := durationMs
           capturedAtMs := capturedAtOffsetMs + nFull * durationMs }])

/-! ## 4. The pipeline

The three in a row. The test of the rate after the decoder has seen it never succeeds. -/

/-- `compute_rms_db` before the root and the logarithm; `none` is `-inf`. -/
def meanSquare (samples : List Int) : Option ℚ :=
  let mean : ℚ := (samples.map fun x => x * x).sum / samples.length
  if samples.length = 0 then none else if mean ≤ 0 then none else some mean

/-- `preprocess_audio_chunk`. Its `chunk_duration_ms` is not read. The branch that resamples stands
    behind a decoder that lets no such rate through. -/
def preprocessAudioChunk (encoded encoding : String) (sampleRateHz frameDurationMs : Nat) :
    Except AudioError (List (AudioFrame Int) × Option ℚ) :=
  if frameDurationMs ∉ vadFrameDurations then
    .error (.decode ("frame_duration_ms " ++ toString frameDurationMs ++
      " is not VAD-supported."))
  else do
    -- handed the rate, the decoder refuses those that are resampled below
    let decoded ← decodePcmAudioChunk encoded encoding (some sampleRateHz)
    let rateForSplit :=
      if sampleRateHz ∉ vadSampleRates then nearestVadRate sampleRateHz else sampleRateHz
    let samples ←
      if sampleRateHz ∉ vadSampleRates then resampleToVadRate decoded sampleRateHz rateForSplit
      else pure decoded
    let frames ← splitIntoVadFrames samples rateForSplit frameDurationMs 0
    return (frames, meanSquare samples)

/-! ## 5. What splitting does

The frames are `Framing.blocks` with labels. -/

/-- The frames a chunk should be split into: each labelled with its rate, its duration and the
    time of its first sample. -/
structure SplitsInto {α : Type*} [Zero α] (samples : List α) (sampleRateHz durationMs : Nat)
    (capturedAtOffsetMs : Int) (frames : List (AudioFrame α)) : Prop where
  covers : Framing.Covers (sampleRateHz * durationMs / 1000) 0 samples (frames.map (·.samples))
  labelled : ∀ f ∈ frames, f.sampleRateHz = sampleRateHz ∧ f.durationMs = durationMs
  stamped : frames.map (·.capturedAtMs) =
    (List.range frames.length).map fun i : Nat => capturedAtOffsetMs + i * durationMs
  empty : samples = [] → frames = []

theorem samplesPerFrame_pos : ∀ rate ∈ vadSampleRates, ∀ duration ∈ vadFrameDurations,
    0 < rate * duration / 1000 := by
  decide

section
variable {α : Type*} [Zero α] {samples : List α} {rate duration : Nat} {offset : Int}

/-- The frames of a chunk: the full ones of the loop, and one for what is left. -/
def vadFrames (samples : List α) (rate duration : Nat) (offset : Int) : List (AudioFrame α) :=
  (List.range (samples.length / (rate * duration / 1000))).map (fun i =>
      ⟨Framing.piece (rate * duration / 1000) samples i, rate, duration, offset + i * duration⟩) ++
    if samples.length % (rate * duration / 1000) = 0 then []
    else
      [⟨Framing.padded (rate * duration / 1000) 0 samples, rate, duration,
        offset + (samples.length / (rate * duration / 1000) : Nat) * duration⟩]

theorem splitIntoVadFrames_eq (hrate : rate ∈ vadSampleRates)
    (hduration : duration ∈ vadFrameDurations) :
    splitIntoVadFrames samples rate duration offset =
      .ok (vadFrames samples rate duration offset) := by
  have hpos := samplesPerFrame_pos rate hrate duration hduration
  unfold splitIntoVadFrames vadFrames
  dsimp only
  rw [if_neg (not_not.mpr hrate), if_neg (not_not.mpr hduration), if_neg (Nat.ne_of_gt hpos)]
  split
  case isTrue hempty =>
    rw [hempty, Nat.zero_div, Nat.zero_mod]
    rfl
  case isFalse => rfl

theorem map_samples_vadFrames :
    (vadFrames samples rate duration offset).map (·.samples) =
      Framing.blocks (rate * duration / 1000) 0 samples := by
  unfold vadFrames Framing.blocks
  rw [List.map_append, List.map_map]
  congr 1
  split
  case isTrue => rfl
  case isFalse => rfl

/-- Frame by frame the time goes on by the duration. -/
theorem map_capturedAtMs_vadFrames :
    (vadFrames samples rate duration offset).map (·.capturedAtMs) =
      (List.range (vadFrames samples rate duration offset).length).map
        fun i : Nat => offset + i * duration := by
  unfold vadFrames
  split
  case isTrue =>
    rw [List.append_nil, List.map_map, List.length_map, List.length_range]
    rfl
  case isFalse =>
    -- the padded frame is the one behind the last of the loop
    rw [List.map_append, List.map_map, List.length_append, List.length_map, List.length_range,
      List.length_singleton, List.range_succ, List.map_append]
    rfl

theorem labelled_vadFrames : ∀ f ∈ vadFrames samples rate duration offset,
    f.sampleRateHz = rate ∧ f.durationMs = duration := by
  intro f hf
  unfold vadFrames at hf
  obtain hf | hf := List.mem_append.mp hf
  · obtain ⟨i, -, rfl⟩ := List.mem_map.mp hf
    exact ⟨rfl, rfl⟩
  · split at hf
    case isTrue => cases hf
    case isFalse =>
      rw [List.mem_singleton.mp hf]
      exact ⟨rfl, rfl⟩

theorem splitsInto_vadFrames (hrate : rate ∈ vadSampleRates)
    (hduration : duration ∈ vadFrameDurations) :
    SplitsInto samples rate duration offset (vadFrames samples rate duration offset) := by
  constructor
  case covers =>
    rw [map_samples_vadFrames]
    exact Framing.covers_blocks (samplesPerFrame_pos rate hrate duration hduration)
  case labelled => exact labelled_vadFrames
  case stamped => exact map_capturedAtMs_vadFrames
  case empty =>
    rintro rfl
    unfold vadFrames
    rw [List.length_nil, Nat.zero_div, Nat.zero_mod]
    rfl

/-- **Splitting loses no sample.** The full frames and the tail put together are the samples, each
    frame with its place in time. -/
theorem splitIntoVadFrames_splits (samples : List α) (rate duration : Nat) (offset : Int)
    (hrate : rate ∈ vadSampleRates) (hduration : duration ∈ vadFrameDurations) :
    ∃ frames, splitIntoVadFrames samples rate duration offset = .ok frames ∧
      SplitsInto samples rate duration offset frames :=
  ⟨_, splitIntoVadFrames_eq hrate hduration, splitsInto_vadFrames hrate hduration⟩

/-- A hundred samples are a full frame of 80 and a tail of 20. -/
theorem splitIntoVadFrames_splits_sample :
    ∃ frames, splitIntoVadFrames (List.replicate 100 (1 : Int)) 8000 10 5 = .ok frames ∧
      SplitsInto (List.replicate 100 (1 : Int)) 8000 10 5 frames :=
  splitIntoVadFrames_splits (List.replicate 100 1) 8000 10 5 (by decide) (by decide)

end

/-! ## 6. What becomes of the other rates

For a rate that is supported the chunk comes out whole, for any other it is refused by the
decoder. -/

/-- The supported rate that is nearest, and of two that are the higher. -/
def IsNearest (rate target : Nat) : Prop :=
  target ∈ vadSampleRates ∧ ∀ r ∈ vadSampleRates, r ≠ target → Closer rate target r

/-- A chunk comes out whole: resampled to the nearest supported rate and split. -/
def KeepsChunk (samples : List Int) (rate duration : Nat)
    (result : Except AudioError (List (AudioFrame Int) × Option ℚ)) : Prop :=
  ∃ frames level target, result = .ok (frames, level) ∧ IsNearest rate target ∧
    SplitsInto (resample samples rate target) target duration 0 frames

section
variable {encoded encoding : String} {samples : List Int} {rate duration : Nat}

theorem Closer.trans {a b c : Nat} (hab : Closer rate a b) (hbc : Closer rate b c) :
    Closer rate a c := by
  unfold Closer at *
  omega

theorem closer_or_eq_of_not {a b : Nat} (h : ¬ Closer rate a b) : Closer rate b a ∨ b = a := by
  unfold Closer rateDistance at *
  omega

/-- What `min` returns is an item than which no other is closer. By induction on the items still
    to be compared. -/
theorem foldl_closer (l : List Nat) (b : Nat) :
    l.foldl (fun best r => if Closer rate r best then r else best) b ∈ b :: l ∧
      ∀ r ∈ b :: l, r ≠ l.foldl (fun best r => if Closer rate r best then r else best) b →
        Closer rate (l.foldl (fun best r => if Closer rate r best then r else best) b) r := by
  induction l generalizing b with
  | nil =>
    refine ⟨List.mem_singleton_self b, ?_⟩
    intro r hr hne
    exact absurd (List.mem_singleton.mp hr) hne
  | cons c l ih =>
    rw [List.foldl_cons]
    by_cases hcloser : Closer rate c b
    -- the new item takes the place of the best so far
    · rw [if_pos hcloser]
      obtain ⟨hmem, hbest⟩ := ih c
      refine ⟨List.mem_cons_of_mem b hmem, ?_⟩
      intro r hr hne
      obtain rfl | hr := List.mem_cons.mp hr
      · by_cases hc : c = l.foldl (fun best r => if Closer rate r best then r else best) c
        · rwa [← hc]
        · exact (hbest c List.mem_cons_self hc).trans hcloser
      · exact hbest r hr hne
    · rw [if_neg hcloser]
      obtain ⟨hmem, hbest⟩ := ih b
      constructor
      · obtain hmem | hmem := List.mem_cons.mp hmem
        · exact List.mem_cons.mpr (.inl hmem)
        · exact List.mem_cons_of_mem b (List.mem_cons_of_mem c hmem)
      · intro r hr hne
        obtain rfl | hr := List.mem_cons.mp hr
        · exact hbest r List.mem_cons_self hne
        obtain rfl | hr := List.mem_cons.mp hr
        · by_cases hb : b = l.foldl (fun best r => if Closer rate r best then r else best) b
          · rw [← hb] at hne ⊢
            exact (closer_or_eq_of_not hcloser).resolve_right (Ne.symm hne)
          · obtain hcloser' | rfl := closer_or_eq_of_not hcloser
            · exact (hbest b List.mem_cons_self hb).trans hcloser'
            · exact hbest b List.mem_cons_self hne
        · exact hbest r (List.mem_cons_of_mem b hr) hne

/-- The fallback rate is the one the fallback should have. -/
theorem isNearest_nearestVadRate : IsNearest rate (nearestVadRate rate) :=
  foldl_closer [16000, 32000, 48000] 8000

theorem nearestVadRate_of_mem (h : rate ∈ vadSampleRates) : nearestVadRate rate = rate := by
  revert rate
  decide

/-- The decoder tests the rate after it has decoded. -/
theorem decodePcmAudioChunk_some
    (h : decodePcmAudioChunk encoded encoding none = .ok samples) :
    decodePcmAudioChunk encoded encoding (some rate) =
      if rate ∉ vadSampleRates then
        .error (.decode ("sample_rate_hz " ++ toString rate ++
          " is not one of [8000, 16000, 32000, 48000]; client must resample or caller must " ++
          "invoke resample_to_vad_rate()."))
      else .ok samples := by
  unfold decodePcmAudioChunk at h ⊢
  cases hdecoded : decodeSamples encoded encoding with
  | error e =>
    rw [hdecoded] at h
    cases h
  | ok decoded =>
    rw [hdecoded] at h
    cases h
    rfl

/-- A rate that is not supported is refused where the chunk is decoded. -/
theorem preprocessAudioChunk_of_not_mem
    (h : decodePcmAudioChunk encoded encoding none = .ok samples)
    (hduration : duration ∈ vadFrameDurations) (hrate : rate ∉ vadSampleRates) :
    preprocessAudioChunk encoded encoding rate duration =
      .error (.decode ("sample_rate_hz " ++ toString rate ++
        " is not one of [8000, 16000, 32000, 48000]; client must resample or caller must " ++
        "invoke resample_to_vad_rate().")) := by
  unfold preprocessAudioChunk
  rw [if_neg (not_not.mpr hduration), decodePcmAudioChunk_some h, if_pos hrate]
  rfl

/-- A supported rate is the rate of the frames. -/
theorem preprocessAudioChunk_of_mem
    (h : decodePcmAudioChunk encoded encoding none = .ok samples)
    (hduration : duration ∈ vadFrameDurations) (hrate : rate ∈ vadSampleRates) :
    preprocessAudioChunk encoded encoding rate duration =
      .ok (vadFrames samples rate duration 0, meanSquare samples) := by
  unfold preprocessAudioChunk
  rw [if_neg (not_not.mpr hduration), decodePcmAudioChunk_some h]
  simp only [if_neg (not_not.mpr hrate)]
  show (splitIntoVadFrames samples rate duration 0 >>= _) = _
  rw [splitIntoVadFrames_eq hrate hduration]
  rfl

/-- **A chunk comes out whole exactly when there is nothing to resample.** The decoder refuses every
    other rate, so the branch that would resample it is never reached. -/
theorem preprocessAudioChunk_keepsChunk_iff
    (h : decodePcmAudioChunk encoded encoding none = .ok samples)
    (hduration : duration ∈ vadFrameDurations) :
    KeepsChunk samples rate duration (preprocessAudioChunk encoded encoding rate duration) ↔
      rate ∈ vadSampleRates := by
  constructor
  · intro ⟨frames, level, target, hresult, _⟩
    by_contra hrate
    rw [preprocessAudioChunk_of_not_mem h hduration hrate] at hresult
    cases hresult
  · intro hrate
    have hnearest : IsNearest rate rate := by
      have hnearest : IsNearest rate (nearestVadRate rate) := isNearest_nearestVadRate
      rwa [nearestVadRate_of_mem hrate] at hnearest
    have hsame : resample samples rate rate = samples := if_pos rfl
    refine ⟨_, _, rate, preprocessAudioChunk_of_mem h hduration hrate, hnearest, ?_⟩
    rw [hsame]
    exact splitsInto_vadFrames hrate hduration

/-- A hundred samples of silence at 8 kHz: a full frame of 80 and a tail of 20. -/
theorem preprocessAudioChunk_keepsChunk_sample :
    KeepsChunk (List.replicate 100 0) 8000 10
        (preprocessAudioChunk (String.ofList (List.replicate 267 'A' ++ ['='])) "pcm16_le"
          8000 10) ↔
      8000 ∈ vadSampleRates :=
  preprocessAudioChunk_keepsChunk_iff (by decide +kernel) (by decide)

/-- One sample of silence at 44.1 kHz is refused. -/
theorem preprocessAudioChunk_refuses_44100 :
    decodePcmAudioChunk "AAA=" "pcm16_le" none = .ok [0] ∧
      ¬ KeepsChunk [0] 44100 20 (preprocessAudioChunk "AAA=" "pcm16_le" 44100 20) := by
  constructor
  · rfl
  · intro ⟨frames, level, target, hresult, _⟩
    cases hresult

end

end ProctorEngine.Preprocessing
