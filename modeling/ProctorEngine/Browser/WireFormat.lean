import ProctorEngine.Websocket.Parse
import ProctorEngine.Browser.Envelope

/-!
# The two ends of the wire format

`envelope.ts` and `client.py` describe one wire format twice. This module says where they
agree: **an envelope the client builds is accepted by the server exactly when its payload is
valid**, and an accepted envelope arrives with the session id it was built with.

The proof is one lemma per payload model. In each, the object the client serialises is run
through the model's fields in order, and every field is one scalar reading.
-/

set_option autoImplicit false

namespace ProctorEngine.Browser

variable {c : Pydantic}

/-! ## 1. Scalars -/

/-- A reading whose continuation does not depend on what was read. -/
theorem any_const {α : Type} {x : Option α} {b : Bool} :
    x.any (fun _ => b) = (x.isSome && b) := by
  cases x <;> simp

theorem isSome_nonnegInt {q : ℚ} : (c.nonnegInt (.num q)).isSome ↔ IsCount q := by
  unfold Pydantic.nonnegInt IsCount
  rw [c.int_num]
  by_cases hq : q.den = 1
  · simp [hq]
  · simp [hq]

theorem isSome_unitFloat {q : ℚ} : (c.unitFloat (.num q)).isSome ↔ InUnit q := by
  unfold Pydantic.unitFloat InUnit
  rw [c.float_num]
  by_cases hq : 0 ≤ q ∧ q ≤ 1
  · simp [hq]
  · simp [hq]

theorem isSome_readNonempty {s : String} : (readNonempty (.str s)).isSome ↔ s ≠ "" := by
  by_cases hs : s ≠ ""
  · simp [readNonempty, readStr, hs]
  · simp [readNonempty, readStr, hs]

/-- A number is read as a count exactly when it is one. -/
theorem nonnegInt_eq_some_iff {q : ℚ} {n : Nat} :
    c.nonnegInt (.num q) = some n ↔ q = (n : ℚ) := by
  unfold Pydantic.nonnegInt
  rw [c.int_num]
  constructor
  · intro h
    by_cases hden : q.den = 1
    · by_cases hnum : 0 ≤ q.num
      · have hn : q.num.toNat = n := by simpa [hden, hnum] using h
        have hcast : ((n : Int) : ℚ) = q := by
          rw [← hn, Int.toNat_of_nonneg hnum]
          exact (Rat.den_eq_one_iff q).mp hden
        exact hcast.symm
      · exact absurd h (by simp [hden, Rat.num_nonneg.not.mp hnum])
    · exact absurd h (by simp [hden])
  · intro h
    subst h
    simp

theorem isSome_intOneOf {allowed : List Nat} {q : ℚ} :
    (c.intOneOf allowed (.num q)).isSome ↔ ∃ n ∈ allowed, q = (n : ℚ) := by
  unfold Pydantic.intOneOf
  constructor
  · intro h
    obtain ⟨m, hm⟩ := Option.isSome_iff_exists.mp h
    obtain ⟨n, hn, hm⟩ := Option.bind_eq_some_iff.mp hm
    by_cases hmem : n ∈ allowed
    · exact ⟨n, hmem, nonnegInt_eq_some_iff.mp hn⟩
    · exact absurd hm (by simp [hmem])
  · intro ⟨n, hmem, hq⟩
    rw [nonnegInt_eq_some_iff.mpr hq]
    simp [hmem]

theorem isSome_bbox {b : ℚ × ℚ × ℚ × ℚ} :
    (c.bbox (bboxJson b)).isSome ↔
      InUnit b.1 ∧ InUnit b.2.1 ∧ InUnit b.2.2.1 ∧ InUnit b.2.2.2 := by
  rcases b with ⟨x, y, w, h⟩
  simp [Pydantic.bbox, readList, bboxJson, ← isSome_unitFloat (c := c), Option.isSome_bind,
    Option.bind_assoc, any_const]

theorem isSome_readOptional_bbox {b : ℚ × ℚ × ℚ × ℚ} :
    (readOptional c.bbox (bboxJson b)).isSome ↔ (c.bbox (bboxJson b)).isSome := by
  rcases b with ⟨x, y, w, h⟩
  show ((c.bbox (bboxJson (x, y, w, h))).map some).isSome ↔ _
  simp

theorem isSome_resolution {r : ℚ × ℚ} :
    (c.resolution (.arr [.num r.1, .num r.2])).isSome ↔
      (r.1.den = 1 ∧ 0 < r.1) ∧ (r.2.den = 1 ∧ 0 < r.2) := by
  rcases r with ⟨w, h⟩
  simp only [Pydantic.resolution, readList, List.mapM_cons, List.mapM_nil, c.int_num]
  by_cases hw : w.den = 1
  · by_cases hh : h.den = 1
    · simp [hw, hh]
    · simp [hw, hh]
  · simp [hw]

/-! ## 2. Payloads -/

/-- Members that are the model's own, in its order, are all allowed. -/
theorem forbidExtra_eq_some {fields : Dict} {names : List String}
    (h : fields.map (·.1) = names) : forbidExtra fields names = some () := by
  unfold forbidExtra
  rw [if_pos (List.all_eq_true.mpr ?_)]
  intro f hf
  rw [← h]
  exact decide_eq_true (List.mem_map_of_mem hf)

/-- The model reads the members the client writes, one after the other. -/
theorem telemetryLight_toJson {p : TelemetryLightPayload} (hoff : p.offScreen = none) :
    c.telemetryLight p.toJson = (do
      let _ ← readOneOf ["face_presence"] (.str p.modality.value)
      let faceCount ← (p.faceCount.map .num).bind c.nonnegInt
      let confidence ← c.unitFloat (.num p.confidence)
      let bbox ← (p.bbox.map bboxJson).elim (some none) (readOptional c.bbox)
      return ⟨faceCount, confidence, bbox⟩) := by
  rcases p with ⟨modality, faceCount, confidence, bbox, offScreen⟩
  subst hoff
  cases faceCount with
  | none =>
    cases bbox <;>
      simp [Pydantic.telemetryLight, TelemetryLightPayload.toJson, optionalMember, readDict,
        forbidExtra, required, withDefault, Json.get?]
  | some n =>
    cases bbox <;>
      simp [Pydantic.telemetryLight, TelemetryLightPayload.toJson, optionalMember, readDict,
        forbidExtra, required, withDefault, Json.get?]

theorem isSome_telemetryLight {p : TelemetryLightPayload} :
    (c.telemetryLight p.toJson).isSome ↔ p.Valid := by
  rw [TelemetryLightPayload.valid_iff]
  cases hoff : p.offScreen with
  | some b =>
    -- `off_screen` is a member the model does not name
    have hforbidden : c.telemetryLight p.toJson = none := by
      simp [Pydantic.telemetryLight, TelemetryLightPayload.toJson, optionalMember, readDict,
        forbidExtra, hoff]
    simp [hforbidden]
  | none =>
    rw [telemetryLight_toJson hoff]
    cases hmodality : p.modality with
    | headPoseGaze => simp [Modality.value, readOneOf, readStr]
    | facePresence =>
      cases hcount : p.faceCount with
      | none => simp
      | some n =>
        cases hbox : p.bbox with
        | none =>
          simp [Modality.value, readOneOf, readStr, isSome_unitFloat, isSome_nonnegInt,
            Option.isSome_bind, any_const]
        | some b =>
          simp [Modality.value, readOneOf, readStr, isSome_unitFloat, isSome_nonnegInt,
            isSome_readOptional_bbox, isSome_bbox, Option.isSome_bind, any_const]

theorem telemetryHeavyFrame_toJson {p : TelemetryHeavyFramePayload} :
    c.telemetryHeavyFrame p.toJson = (do
      let frame ← readNonempty (.str p.frame)
      let resolution ← c.resolution (.arr [.num p.resolution.1, .num p.resolution.2])
      let encoding ← readOneOf validFrameEncodings (.str "jpeg")
      return ⟨frame.val, resolution.val.1, resolution.val.2, encoding.val, frame.property,
        resolution.property, encoding.property⟩) := by
  unfold Pydantic.telemetryHeavyFrame TelemetryHeavyFramePayload.toJson
  simp only [readDict, Option.bind_eq_bind, Option.bind_some, forbidExtra_eq_some, List.map_cons,
    List.map_nil]
  rfl

theorem isSome_telemetryHeavyFrame {p : TelemetryHeavyFramePayload} :
    (c.telemetryHeavyFrame p.toJson).isSome ↔ p.Valid := by
  rw [TelemetryHeavyFramePayload.valid_iff, telemetryHeavyFrame_toJson]
  simp [isSome_readNonempty, isSome_resolution, readOneOf, readStr, validFrameEncodings,
    Option.isSome_bind, any_const]

theorem audioChunk_toJson {p : TelemetryAudioChunkPayload} :
    c.audioChunk p.toJson = (do
      let audio ← readNonempty (.str p.audio)
      let sampleRateHz ← c.intOneOf validSampleRates (.num p.sampleRateHz.val)
      let durationMs ← c.intOneOf validFrameDurations (.num p.durationMs)
      return ⟨audio.val, sampleRateHz.val, durationMs.val, audio.property, sampleRateHz.property,
        durationMs.property⟩) := by
  unfold Pydantic.audioChunk TelemetryAudioChunkPayload.toJson
  simp only [readDict, Option.bind_eq_bind, Option.bind_some, forbidExtra_eq_some, List.map_cons,
    List.map_nil]
  rfl

theorem isSome_audioChunk {p : TelemetryAudioChunkPayload} :
    (c.audioChunk p.toJson).isSome ↔ p.Valid := by
  have hrate := p.sampleRateHz.property
  rw [TelemetryAudioChunkPayload.valid_iff, audioChunk_toJson]
  simp [isSome_readNonempty, isSome_intOneOf, Option.isSome_bind, any_const, hrate]

theorem isSome_browserEvent {p : TelemetryBrowserEventPayload} :
    (Pydantic.browserEvent p.toJson).isSome := by
  have hevent := p.eventType.property
  simp [Pydantic.browserEvent, TelemetryBrowserEventPayload.toJson, readDict, forbidExtra,
    required, withDefault, Json.get?, readOneOf, readStr, hevent]

theorem isSome_killSwitchAck {p : KillSwitchAcknowledgePayload} :
    (c.killSwitchAck p.toJson).isSome ↔ p.flagId ≠ "" := by
  simp [Pydantic.killSwitchAck, KillSwitchAcknowledgePayload.toJson, readDict, forbidExtra,
    required, withDefault, Json.get?, isSome_readNonempty, Option.isSome_bind]

/-! ## 3. Envelopes -/

/-- Every type the client can name has a model, which takes the valid payloads of that type
    and no others. -/
theorem typeToModel_type (p : ClientPayload) :
    ∃ model, c.typeToModel p.type = some model ∧ ((model p.toJson).isSome ↔ p.Valid) := by
  cases p with
  | telemetryLight p => exact ⟨_, rfl, Option.isSome_map.symm ▸ isSome_telemetryLight⟩
  | telemetryHeavyFrame p => exact ⟨_, rfl, Option.isSome_map.symm ▸ isSome_telemetryHeavyFrame⟩
  | audioChunk p => exact ⟨_, rfl, Option.isSome_map.symm ▸ isSome_audioChunk⟩
  | browserEvent p =>
    refine ⟨_, rfl, Option.isSome_map.symm ▸ ?_⟩
    exact iff_of_true isSome_browserEvent trivial
  | killSwitchAck p => exact ⟨_, rfl, Option.isSome_map.symm ▸ isSome_killSwitchAck⟩

section
variable {p : ClientPayload} {sessionId : String} {capturedAt : Option UtcTime} {now : UtcTime}

/-- The envelope around a payload is never what fails. -/
theorem modelValidate_buildEnvelope (hsid : sessionId ≠ "")
    (model : Json → Option ProctorEngine.ClientPayload) :
    c.modelValidate model (buildEnvelope p sessionId capturedAt now) =
      (model p.toJson).map fun payload =>
        ⟨sessionId, (capturedAt.getD now).micros, payload, hsid⟩ := by
  simp only [Pydantic.modelValidate, buildEnvelope]
  cases hm : model p.toJson with
  | none => simp [forbidExtra, required, Json.get?, hm]
  | some payload =>
    simp [forbidExtra, required, Json.get?, hm, readNonempty, readStr, hsid,
      c.datetime_toISOString]

/-- Parsing an envelope is reading its payload. -/
theorem parse_buildEnvelope (c : Pydantic) (p : ClientPayload) (capturedAt : Option UtcTime)
    (now : UtcTime) (hsid : sessionId ≠ "") :
    ∃ read : Option ProctorEngine.ClientPayload, (read.isSome ↔ p.Valid) ∧
      parseClientMessage c (buildEnvelope p sessionId capturedAt now) =
        match read with
        | some payload => .ok ⟨sessionId, (capturedAt.getD now).micros, payload, hsid⟩
        | none => .error (.envelope
            (.validationFailed p.type (buildEnvelope p sessionId capturedAt now))) := by
  obtain ⟨model, hmodel, hvalid⟩ := typeToModel_type (c := c) p
  refine ⟨model p.toJson, hvalid, ?_⟩
  have htype : Json.get? (buildEnvelope p sessionId capturedAt now) "type" =
      some (.str p.type) := by
    simp [Json.get?, buildEnvelope]
  unfold parseClientMessage
  simp only [htype, hmodel, modelValidate_buildEnvelope hsid]
  cases model p.toJson with
  | none => rfl
  | some payload => rfl

end

end ProctorEngine.Browser
