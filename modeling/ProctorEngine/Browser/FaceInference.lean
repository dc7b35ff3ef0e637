import Mathlib.Algebra.Order.Field.Basic
import ProctorEngine.Browser.WireFormat
import ProctorEngine.Browser.WsClient

/-!
# `FaceInferenceRunner` and `sendLightTelemetry`

From what the face detector finds in a picture to the envelope that tells the server. The
detector answers in pixels, `normalizeBbox` divides by the size of the picture, and the server
takes numbers of `[0, 1]` only.

Only the box of the **primary** detection is sent, and everything else in the envelope is
always in order, so **the server takes the envelope exactly when the primary box is one the
picture could hold**. The detector is not bound to such boxes: it extrapolates a face that the
edge of the picture cuts off.
-/

set_option autoImplicit false

namespace ProctorEngine.Browser

/-! ## 1. Detections -/

/-- `BoundingBox`, in pixels. -/
structure BoundingBox where
  originX : ℚ
  originY : ℚ
  width : ℚ
  height : ℚ

/-- `Detection`: the scores of its categories, and its box. -/
structure Detection where
  categories : List Score
  boundingBox : Option BoundingBox

structure FaceDetectorResult where
  detections : List Detection

structure FaceDetection where
  faceCount : Nat
  confidence : ℚ
  bbox : Option (ℚ × ℚ × ℚ × ℚ)

/-- `detection.categories[0]?.score ?? 0` -/
def Detection.score (d : Detection) : ℚ := (d.categories.head?.map (·.val)).getD 0

def BoundingBox.toBbox (bb : BoundingBox) : ℚ × ℚ × ℚ × ℚ :=
  (bb.originX, bb.originY, bb.width, bb.height)

/-- The locals of the loop over the detections. -/
structure Scan where
  maxConfidence : ℚ
  primaryBbox : Option BoundingBox

/-- The body of that loop. -/
def Scan.detection (s : Scan) (d : Detection) : Scan :=
  if s.maxConfidence < d.score then ⟨d.score, d.boundingBox.or s.primaryBbox⟩ else s

def scan (ds : List Detection) : Scan := ds.foldl Scan.detection ⟨0, none⟩

/-- `_processDetectionResult` -/
def processDetectionResult (result : FaceDetectorResult) : FaceDetection :=
  if result.detections.length = 0 then ⟨0, 0, none⟩
  else
    ⟨result.detections.length, (scan result.detections).maxConfidence,
      (scan result.detections).primaryBbox.map BoundingBox.toBbox⟩

def normalizeBbox (bbox : ℚ × ℚ × ℚ × ℚ) (width height : ℚ) : ℚ × ℚ × ℚ × ℚ :=
  (bbox.1 / width, bbox.2.1 / height, bbox.2.2.1 / width, bbox.2.2.2 / height)

/-- The payload of `sendLightTelemetry`. -/
def lightPayload (detection : FaceDetection) (videoWidth videoHeight : ℚ) :
    TelemetryLightPayload where
  modality := .facePresence
  faceCount := some detection.faceCount
  confidence := detection.confidence
  bbox :=
    if videoWidth > 0 ∧ videoHeight > 0 then
      detection.bbox.map fun bbox => normalizeBbox bbox videoWidth videoHeight
    else none
  offScreen := none

/-- The envelope `sendLightTelemetry` hands to the connection. -/
def sendLightTelemetry (sessionId : SessionId) (detection : FaceDetection)
    (videoWidth videoHeight : ℚ) (now : UtcTime) : Dict :=
  buildEnvelope (.telemetryLight (lightPayload detection videoWidth videoHeight)) sessionId.val
    none now

/-! ## 2. The primary box -/

/-- `d` scores above nought and above everything before it. -/
def Detection.SetsRecord (before : List Detection) (d : Detection) : Prop :=
  0 < d.score ∧ ∀ e ∈ before, e.score < d.score

/-- `bb` is the box of the last record-setting detection that has one. -/
def IsPrimary (ds : List Detection) (bb : BoundingBox) : Prop :=
  ∃ before d after, ds = before ++ d :: after ∧ d.SetsRecord before ∧
    d.boundingBox = some bb ∧
    ∀ mid e rest, after = mid ++ e :: rest → e.SetsRecord (before ++ d :: mid) →
      e.boundingBox = none

/-- A picture of this size could hold the box, were it at the origin. -/
@[mk_iff fits_iff]
structure BoundingBox.Fits (bb : BoundingBox) (width height : ℚ) : Prop where
  originX : 0 ≤ bb.originX ∧ bb.originX ≤ width
  originY : 0 ≤ bb.originY ∧ bb.originY ≤ height
  width : 0 ≤ bb.width ∧ bb.width ≤ width
  height : 0 ≤ bb.height ∧ bb.height ≤ height

section
variable {ds : List Detection} {d : Detection} {bb : BoundingBox}

theorem Detection.score_inUnit : InUnit d.score := by
  unfold Detection.score InUnit
  cases d.categories with
  | nil => exact ⟨le_rfl, zero_le_one⟩
  | cons s rest => exact ⟨s.nonneg, s.le_one⟩

theorem scan_append : scan (ds ++ [d]) = (scan ds).detection d := by
  simp [scan, List.foldl_append]

/-- What beats the running maximum beats nought and every score so far. -/
theorem maxConfidence_lt_iff {q : ℚ} :
    (scan ds).maxConfidence < q ↔ 0 < q ∧ ∀ e ∈ ds, e.score < q := by
  induction ds using List.reverseRecOn generalizing q with
  | nil => simp [scan]
  | append_singleton ds d ih =>
    rw [scan_append, Scan.detection]
    simp only [List.mem_append, List.mem_singleton, or_imp, forall_and, forall_eq]
    by_cases hd : (scan ds).maxConfidence < d.score
    · rw [if_pos hd]
      obtain ⟨hpos, hall⟩ := ih.mp hd
      constructor
      · intro hq
        exact ⟨hpos.trans hq, fun e he => (hall e he).trans hq, hq⟩
      · intro h
        exact h.2.2
    · rw [if_neg hd, ih]
      constructor
      · intro h
        exact ⟨h.1, h.2, (not_lt.mp hd).trans_lt (ih.mpr h)⟩
      · intro h
        exact ⟨h.1, h.2.1⟩

theorem maxConfidence_inUnit : InUnit (scan ds).maxConfidence := by
  induction ds using List.reverseRecOn with
  | nil => exact ⟨le_rfl, zero_le_one⟩
  | append_singleton ds d ih =>
    rw [scan_append, Scan.detection]
    by_cases hd : (scan ds).maxConfidence < d.score
    · rw [if_pos hd]
      exact d.score_inUnit
    · rw [if_neg hd]
      exact ih

theorem not_isPrimary_nil : ¬ IsPrimary [] bb := by
  intro ⟨before, d, after, hds, _⟩
  simp at hds

/-- A last detection takes the place if it sets a record and has a box. -/
theorem isPrimary_append_singleton :
    IsPrimary (ds ++ [d]) bb ↔
      (d.SetsRecord ds ∧ d.boundingBox = some bb) ∨
        ((d.SetsRecord ds → d.boundingBox = none) ∧ IsPrimary ds bb) := by
  constructor
  · intro ⟨before, e, after, hds, hrecord, hbox, hlater⟩
    -- The detection that set the last record is the new one, or one before it.
    rcases List.eq_nil_or_concat after with hnil | ⟨mid, x, hafter⟩
    · subst hnil
      obtain ⟨hbefore, he⟩ := List.append_inj' hds rfl
      simp only [List.cons.injEq, and_true] at he
      subst hbefore he
      exact Or.inl ⟨hrecord, hbox⟩
    · subst hafter
      rw [List.concat_eq_append, ← List.cons_append, ← List.append_assoc] at hds
      obtain ⟨hbefore, hx⟩ := List.append_inj' hds rfl
      simp only [List.cons.injEq, and_true] at hx
      subst hx
      refine Or.inr ⟨fun hd => ?_, before, e, mid, hbefore, hrecord, hbox, ?_⟩
      · exact hlater mid d [] (by simp) (hbefore ▸ hd)
      · intro mid' e' rest hmid
        exact hlater mid' e' (rest ++ [d]) (by simp [hmid])
  · intro h
    rcases h with ⟨hrecord, hbox⟩ | ⟨hd, before, e, after, hds, hrecord, hbox, hlater⟩
    · exact ⟨ds, d, [], rfl, hrecord, hbox, by simp⟩
    · subst hds
      refine ⟨before, e, after ++ [d], by simp, hrecord, hbox, ?_⟩
      intro mid e' rest hafter hrecord'
      -- a later record with a box is the new one, which has none, or an old one
      rcases List.eq_nil_or_concat rest with hnil | ⟨rest', x, hrest⟩
      · subst hnil
        obtain ⟨hmid, he'⟩ := List.append_inj' hafter rfl
        simp only [List.cons.injEq, and_true] at he'
        subst hmid he'
        exact hd hrecord'
      · subst hrest
        rw [List.concat_eq_append, ← List.cons_append, ← List.append_assoc] at hafter
        exact hlater mid e' rest' (List.append_inj' hafter rfl).1 hrecord'

/-- The loop ends with the primary box. -/
theorem primaryBbox_eq_some_iff : (scan ds).primaryBbox = some bb ↔ IsPrimary ds bb := by
  induction ds using List.reverseRecOn with
  | nil => exact iff_of_false (by simp [scan]) not_isPrimary_nil
  | append_singleton ds d ih =>
    have hrecord : (scan ds).maxConfidence < d.score ↔ d.SetsRecord ds := maxConfidence_lt_iff
    rw [isPrimary_append_singleton, ← ih, ← hrecord, scan_append, Scan.detection]
    by_cases hd : (scan ds).maxConfidence < d.score
    · cases hbox : d.boundingBox with
      | none => simp [hd]
      | some bb' => simp [hd]
    · simp [hd]

end

/-! ## 3. The envelope -/

section
variable {result : FaceDetectorResult} {bb : BoundingBox} {width height : ℚ}

theorem processDetectionResult_confidence :
    InUnit (processDetectionResult result).confidence := by
  unfold processDetectionResult
  by_cases hempty : result.detections.length = 0
  · rw [if_pos hempty]
    exact ⟨le_rfl, zero_le_one⟩
  · rw [if_neg hempty]
    exact maxConfidence_inUnit

/-- The box is the primary one, also where the loop was not entered. -/
theorem processDetectionResult_bbox :
    (processDetectionResult result).bbox =
      (scan result.detections).primaryBbox.map BoundingBox.toBbox := by
  unfold processDetectionResult
  by_cases hempty : result.detections.length = 0
  · rw [if_pos hempty, List.length_eq_zero_iff.mp hempty]
    rfl
  · rw [if_neg hempty]

theorem inUnit_div_iff {x size : ℚ} (hsize : 0 < size) :
    InUnit (x / size) ↔ 0 ≤ x ∧ x ≤ size := by
  unfold InUnit
  rw [le_div_iff₀ hsize, zero_mul, div_le_one hsize]

/-- Dividing by the size of the picture normalises the boxes that fit, and no others. -/
theorem normalizeBbox_inUnit_iff (hwidth : 0 < width) (hheight : 0 < height) :
    (InUnit (normalizeBbox bb.toBbox width height).1 ∧
      InUnit (normalizeBbox bb.toBbox width height).2.1 ∧
      InUnit (normalizeBbox bb.toBbox width height).2.2.1 ∧
      InUnit (normalizeBbox bb.toBbox width height).2.2.2) ↔ bb.Fits width height := by
  rw [BoundingBox.fits_iff]
  simp only [normalizeBbox, BoundingBox.toBbox, inUnit_div_iff hwidth, inUnit_div_iff hheight]

theorem lightPayload_valid_iff (hwidth : 0 < width) (hheight : 0 < height) :
    (lightPayload (processDetectionResult result) width height).Valid ↔
      ∀ bb, IsPrimary result.detections bb → bb.Fits width height := by
  have hbox : (lightPayload (processDetectionResult result) width height).bbox =
      (scan result.detections).primaryBbox.map
        fun bb => normalizeBbox bb.toBbox width height := by
    simp only [lightPayload, if_pos (And.intro hwidth hheight), processDetectionResult_bbox,
      Option.map_map, Function.comp_def]
  constructor
  · intro hvalid bb hprimary
    apply (normalizeBbox_inUnit_iff hwidth hheight).mp
    apply hvalid.bbox
    rw [hbox, primaryBbox_eq_some_iff.mpr hprimary]
    rfl
  · intro hfits
    refine ⟨rfl, ⟨_, rfl, by simp [IsCount]⟩, processDetectionResult_confidence, ?_, rfl⟩
    intro b hb
    rw [hbox, Option.mem_map] at hb
    obtain ⟨bb, hbb, heq⟩ := hb
    rw [← heq]
    exact (normalizeBbox_inUnit_iff hwidth hheight).mpr
      (hfits bb (primaryBbox_eq_some_iff.mp hbb))

/-- The server parses the frame to a message. -/
def Accepted (c : Pydantic) (frame : Dict) : Prop :=
  ∃ message, parseClientMessage c frame = .ok message

theorem accepted_buildEnvelope_iff {c : Pydantic} {p : ClientPayload} {sessionId : SessionId}
    {capturedAt : Option UtcTime} {now : UtcTime} :
    Accepted c (buildEnvelope p sessionId.val capturedAt now) ↔ p.Valid := by
  obtain ⟨read, hvalid, hparse⟩ := parse_buildEnvelope c p capturedAt now sessionId.property
  unfold Accepted
  rw [← hvalid, hparse]
  cases read with
  | none => simp
  | some payload => simp

/-- **Face telemetry is accepted exactly when the primary box fits the picture.** The primary box is
    that of the last detection to set a record with a box; `normalizeBbox` divides and does not
    clamp, and the server takes shares of the picture only. -/
theorem lightTelemetry_accepted_iff (c : Pydantic) (sessionId : SessionId)
    (result : FaceDetectorResult) (videoWidth videoHeight : ℚ) (now : UtcTime)
    (hwidth : 0 < videoWidth) (hheight : 0 < videoHeight) :
    Accepted c (sendLightTelemetry sessionId (processDetectionResult result) videoWidth
        videoHeight now) ↔
      ∀ bb, IsPrimary result.detections bb → bb.Fits videoWidth videoHeight :=
  accepted_buildEnvelope_iff.trans (lightPayload_valid_iff hwidth hheight)

end

/-- A picture with one face in it, in a box of 200 by 250 pixels. -/
def oneFace (originX originY : ℚ) : FaceDetectorResult :=
  ⟨[⟨[.one], some ⟨originX, originY, 200, 250⟩⟩]⟩

def someSession : SessionId := ⟨"s-1", by decide⟩

def someTime : UtcTime where
  year := 2026
  month := 8
  day := 9
  hour := 12
  minute := 30
  second := 15
  millisecond := 250
  yearInRange := by decide
  monthInRange := by decide
  dayInRange := by decide
  timeInRange := by decide

theorem isPrimary_oneFace {x y : ℚ} {bb : BoundingBox} :
    IsPrimary (oneFace x y).detections bb ↔ bb = ⟨x, y, 200, 250⟩ := by
  rw [← primaryBbox_eq_some_iff]
  simp [oneFace, scan, Scan.detection, Detection.score, Score.one, eq_comm]

/-- The face of the client's own tests. -/
theorem centredFace_accepted :
    Accepted .strict (sendLightTelemetry someSession (processDetectionResult (oneFace 100 50))
      640 480 someTime) := by
  apply (lightTelemetry_accepted_iff .strict someSession (oneFace 100 50) 640 480 someTime
    (by norm_num) (by norm_num)).mpr
  intro bb hbb
  rw [isPrimary_oneFace] at hbb
  subst hbb
  constructor <;> norm_num

/-- A face whose box starts five pixels outside the picture. -/
theorem faceAtEdge_refused :
    ¬ ∀ (c : Pydantic) (sessionId : SessionId) (result : FaceDetectorResult)
      (videoWidth videoHeight : ℚ) (now : UtcTime), 0 < videoWidth → 0 < videoHeight →
        Accepted c (sendLightTelemetry sessionId (processDetectionResult result) videoWidth
          videoHeight now) := by
  intro h
  have hwidth : (0 : ℚ) < 640 := by norm_num
  have hheight : (0 : ℚ) < 480 := by norm_num
  have haccepted := h .strict someSession (oneFace (-5) 50) 640 480 someTime hwidth hheight
  have hfits := (lightPayload_valid_iff hwidth hheight).mp
    (accepted_buildEnvelope_iff.mp haccepted) _ (isPrimary_oneFace.mpr rfl)
  exact absurd hfits.originX.1 (by norm_num)

end ProctorEngine.Browser
