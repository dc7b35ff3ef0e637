import ProctorEngine.Lib.PyJson
import ProctorEngine.Websocket.MessageLoop

/-!
# `parse_client_message` on what `json.loads` returns

`Websocket/Parse.lean` reads the values of JSON, which is all a client of the engine sends. The
text of a frame is anybody's: `json.loads` also returns `NaN`, infinities and strings with lone
surrogates, at the `type`, inside a payload or in the name of a member. This is the same function
over `PyJson`.

The dispatch on `type` is the source's own and is spelled out. What pydantic makes of a payload,
and what `str` makes of a value, are parameters (`PyReading`) that say on the values of JSON what
`Pydantic` says there. **On those values the two readers are one** (`PyReading.parse_toPyFields`).
-/

set_option autoImplicit false

namespace ProctorEngine

/-- `str` and pydantic on all that `json.loads` returns. -/
structure PyReading (c : Pydantic) where
  /-- `str(value)`. -/
  str : PyJson → PyStr
  /-- `model_validate` of the model of a `type`: a message, or the account of the failure. Where
      the payload types have no name for what pydantic lets through — a `NaN` inside a range, any
      value under `detail` — one they have stands for it. -/
  validate : String → PyDict → Except PyStr ClientMessage
  str_toPy : ∀ v : Json, str v.toPy = PyStr.ofString (c.str v)
  validate_toPyFields : ∀ {msgType : String} {model : Json → Option ClientPayload} (raw : Dict),
    c.typeToModel msgType = some model →
      validate msgType (Json.toPyFields raw) =
        match c.modelValidate model raw with
        | some message => .ok message
        | none => .error (PyStr.ofString (c.describe (.obj raw)))

/-- The readings of `Pydantic.strict`, which accept no more than it does. -/
def PyReading.strict : PyReading .strict where
  str v := ((v.toJson?).map fun v => PyStr.ofString (Pydantic.strict.str v)).getD []
  validate msgType raw :=
    match PyJson.toJsonFields? raw, Pydantic.strict.typeToModel msgType with
    | some raw, some model =>
      match Pydantic.strict.modelValidate model raw with
      | some message => .ok message
      | none => .error (PyStr.ofString (Pydantic.strict.describe (.obj raw)))
    | _, _ => .error []
  str_toPy v := by simp [PyJson.toJson?_toPy]
  validate_toPyFields raw hmodel := by simp only [PyJson.toJsonFields?_toPyFields, hmodel]

/-- What `parse_client_message` raises: its own error with its message, or a `TypeError`. -/
inductive PyParseError where
  | envelope (text : PyStr)
  | unhashableType

/-- The same error of the reader of JSON values. -/
def ParseError.toPy (c : Pydantic) : ParseError → PyParseError
  | .envelope e => .envelope (PyStr.ofString (e.text c))
  | .unhashableType => .unhashableType

def unknownTypeText (msgType : PyStr) : PyStr :=
  PyStr.ofString unknownTypeHead ++ (msgType ++ PyStr.ofString unknownTypeTail)

def validationFailedText (msgType : String) (account : PyStr) : PyStr :=
  PyStr.ofString (validationFailedHead msgType) ++ account

/-- The name in `_TYPE_TO_MODEL` a string is. -/
def Pydantic.typeName? (c : Pydantic) (s : PyStr) : Option String :=
  match s.toString? with
  | some name => if (c.typeToModel name).isSome then some name else none
  | none => none

/-! ## 1. The parser -/

namespace PyReading
variable {c : Pydantic}

/-- `parse_client_message`. A type that cannot be a key of `_TYPE_TO_MODEL` raises from the lookup.
    -/
def parse (p : PyReading c) (raw : PyDict) : Except PyParseError ClientMessage :=
  match PyJson.get? raw "type" with
  | none | some .null =>
    .error (.envelope (PyStr.ofString (EnvelopeValidationError.missingType.text c)))
  | some (.arr _) | some (.obj _) => .error .unhashableType
  | some (.str s) =>
    match c.typeName? s with
    | none => .error (.envelope (unknownTypeText (p.str (.str s))))
    | some msgType =>
      match p.validate msgType raw with
      | .error account => .error (.envelope (validationFailedText msgType account))
      | .ok message => .ok message
  | some msgType => .error (.envelope (unknownTypeText (p.str msgType)))

end PyReading

section
variable {c : Pydantic} {msgType : String} {s t account : PyStr}

theorem PyStr.ofString_append (s t : String) :
    PyStr.ofString (s ++ t) = PyStr.ofString s ++ PyStr.ofString t := by
  simp [PyStr.ofString, String.toList_append]

theorem typeName?_ofString (name : String) :
    c.typeName? (PyStr.ofString name) =
      if (c.typeToModel name).isSome then some name else none := by
  unfold Pydantic.typeName?
  rw [PyStr.toString?_ofString]

theorem typeToModel_of_typeName? (h : c.typeName? s = some msgType) :
    (c.typeToModel msgType).isSome = true := by
  unfold Pydantic.typeName? at h
  split at h
  · split at h
    · rename_i hmodel
      cases h
      exact hmodel
    · cases h
  · cases h

theorem unknownTypeText_ofString (msgType : Json) :
    unknownTypeText (PyStr.ofString (c.str msgType)) =
      PyStr.ofString ((EnvelopeValidationError.unknownType msgType).text c) := by
  simp only [unknownTypeText, EnvelopeValidationError.text, PyStr.ofString_append,
    List.append_assoc]

/-- **On the values of JSON the two parsers are one.** -/
theorem PyReading.parse_toPyFields (p : PyReading c) (raw : Dict) :
    p.parse (Json.toPyFields raw) = (parseClientMessage c raw).mapError (ParseError.toPy c) := by
  unfold PyReading.parse parseClientMessage
  rw [PyJson.get?_toPyFields]
  cases Json.get? raw "type" with
  | none => rfl
  | some v =>
    cases v with
    -- A null type is missing in both, an unhashable one raises in both, and any other that is
    -- no string is unknown in both.
    | null => rfl
    | arr xs => rfl
    | obj fields => rfl
    | bool b =>
      show Except.error (PyParseError.envelope (unknownTypeText (p.str (Json.bool b).toPy))) = _
      rw [p.str_toPy, unknownTypeText_ofString]
      rfl
    | num n =>
      show Except.error (PyParseError.envelope (unknownTypeText (p.str (Json.num n).toPy))) = _
      rw [p.str_toPy, unknownTypeText_ofString]
      rfl
    | str name =>
      have hstr := p.str_toPy (.str name)
      simp only [Option.map_some, Json.toPy, typeName?_ofString] at hstr ⊢
      cases hmodel : c.typeToModel name with
      | none =>
        simp only [hstr, unknownTypeText_ofString]
        rfl
      | some model =>
        have hread := p.validate_toPyFields raw hmodel
        cases hmessage : c.modelValidate model raw with
        | none =>
          simp only [hmessage] at hread
          simp only [Option.isSome_some, if_true, hread, hmessage, validationFailedText,
            ← PyStr.ofString_append]
          rfl
        | some message =>
          simp only [hmessage] at hread
          simp only [Option.isSome_some, if_true, hread, hmessage]
          rfl

end

/-! ## 2. The close of a refused envelope -/

/-- `websocket.close(code=4006, reason=str(exc)[:120])`. Half a surrogate pair in the reason has
    no UTF-8. -/
def closeRefusal (text : PyStr) : FrameOutcome :=
  match PyStr.toString? (text.take 120) with
  | none => .raised
  | some reason => closeFrame wsCloseProtocolError reason

/-- A `type` that is refused can be repeated in a reason. What stands before it leaves 91
    characters of the 120, and they are filled up with what stands behind it. -/
def ShortType (msgType : PyStr) : Prop := msgType.Fits 91 (min msgType.length 91 + 3)

/-- So can pydantic's account of a failure, after the 39 characters and the `type` before it. -/
def ShortAccount (msgType : String) (account : PyStr) : Prop :=
  account.Fits (81 - msgType.length) (84 - msgType.length)

/-- The `type` of an object can be looked up, and if the envelope is refused, then in a text the
    close can send. -/
def PyReading.Dispatches {c : Pydantic} (p : PyReading c) (raw : PyDict) : Prop :=
  match PyJson.get? raw "type" with
  | none | some .null => True
  | some (.arr _) | some (.obj _) => False
  | some (.str s) =>
    match c.typeName? s with
    | none => ShortType (p.str (.str s))
    | some msgType => ∀ account, p.validate msgType raw = .error account →
        ShortAccount msgType account
  | some msgType => ShortType (p.str msgType)

section
variable {c : Pydantic} {p : PyReading c} {raw : PyDict} {text : PyStr}

/-- A reason that fits goes out with the code. -/
theorem closeRefusal_of_fits (h : text.Fits 120 123) :
    ∃ reason, closeRefusal text = .closed wsCloseProtocolError reason := by
  obtain ⟨cs, hcs, hlen⟩ := h
  refine ⟨String.ofList cs, ?_⟩
  unfold closeRefusal closeFrame
  rw [PyStr.toString?, hcs]
  simp only [Option.map_some, String.toList_ofList]
  rw [if_pos hlen]

/-- Any other raises. -/
theorem closeRefusal_of_not_fits (h : ¬ text.Fits 120 123) : closeRefusal text = .raised := by
  unfold closeRefusal closeFrame
  cases hcs : PyStr.toChars? (text.take 120) with
  | none => rw [PyStr.toString?, hcs, Option.map_none]
  | some cs =>
    have hlong : ¬ (JsonText.utf8 cs).length ≤ 123 := fun hlen => h ⟨cs, hcs, hlen⟩
    rw [PyStr.toString?, hcs]
    simp only [Option.map_some, String.toList_ofList]
    rw [if_neg hlong]

theorem closeRefusal_ofString (s : String) :
    closeRefusal (PyStr.ofString s) = closeFrame wsCloseProtocolError (truncateReason s) := by
  unfold closeRefusal truncateReason PyStr.ofString
  rw [← List.map_take, PyStr.toString?, PyStr.toChars?_map]
  rfl

/-! ### Which texts fit -/

theorem fits_missingType :
    PyStr.Fits 120 123 (PyStr.ofString (EnvelopeValidationError.missingType.text c)) := by
  show PyStr.Fits 120 123 (PyStr.ofString "Message envelope is missing the 'type' field.")
  decide +kernel

/-- Whatever the `type`, what stands behind it fills the reason up. -/
theorem unknownTypeTail_text :
    JsonText.IsAscii unknownTypeTail.toList ∧ unknownTypeTail.toList.length = 115 := by
  decide +kernel

theorem fits_unknownTypeText (msgType : PyStr) :
    PyStr.Fits 120 123 (unknownTypeText msgType) ↔ ShortType msgType := by
  have hhead : JsonText.IsAscii unknownTypeHead.toList := by decide
  have hlen : unknownTypeHead.toList.length = 29 := by decide
  obtain ⟨htail, hlen'⟩ := unknownTypeTail_text
  unfold unknownTypeText PyStr.ofString
  rw [PyStr.fits_append_left hhead (by omega) (by omega), hlen,
    PyStr.fits_append_right htail (by omega) (by omega)]
  rfl

-- four two-byte characters are one byte too many
example : ¬ ShortType (PyStr.ofString "éééé") := by
  unfold ShortType
  decide +kernel

/-- A `type` of `_TYPE_TO_MODEL` is one of five words. -/
theorem isAscii_of_typeToModel {msgType : String} (h : (c.typeToModel msgType).isSome = true) :
    JsonText.IsAscii msgType.toList ∧ msgType.toList.length ≤ 21 := by
  unfold Pydantic.typeToModel at h
  split at h
  · decide
  · decide
  · decide
  · decide
  · decide
  · cases h

/-- The text in front of an account is as long as the `type` makes it. -/
theorem validationFailedHead_text {msgType : String} (h : JsonText.IsAscii msgType.toList) :
    JsonText.IsAscii (validationFailedHead msgType).toList ∧
      (validationFailedHead msgType).toList.length = 39 + msgType.length := by
  have hbefore : JsonText.IsAscii "Validation failed for message type '".toList ∧
      "Validation failed for message type '".toList.length = 36 := by decide
  have hbehind : JsonText.IsAscii "': ".toList ∧ "': ".toList.length = 3 := by decide
  unfold validationFailedHead
  rw [String.toList_append, String.toList_append]
  refine ⟨JsonText.isAscii_append.mpr
    ⟨JsonText.isAscii_append.mpr ⟨hbefore.1, h⟩, hbehind.1⟩, ?_⟩
  rw [List.length_append, List.length_append, hbefore.2, hbehind.2, String.length_toList]
  omega

theorem fits_validationFailedText {msgType : String} (h : (c.typeToModel msgType).isSome = true)
    (account : PyStr) :
    PyStr.Fits 120 123 (validationFailedText msgType account) ↔ ShortAccount msgType account := by
  obtain ⟨hascii, hshort⟩ := isAscii_of_typeToModel h
  obtain ⟨hhead, hlen⟩ := validationFailedHead_text hascii
  have hroom : 120 - (validationFailedHead msgType).toList.length = 81 - msgType.length := by
    omega
  have hbytes : 123 - (validationFailedHead msgType).toList.length = 84 - msgType.length := by
    omega
  rw [String.length_toList] at hshort
  unfold validationFailedText PyStr.ofString ShortAccount
  rw [PyStr.fits_append_left hhead (by omega) (by omega), hroom, hbytes]

/-! ### What the parser gives -/

/-- All the parser can do, and whether the loop can tell the client so. -/
theorem PyReading.parse_cases (p : PyReading c) (raw : PyDict) :
    (∃ message, p.parse raw = .ok message ∧ p.Dispatches raw) ∨
      (∃ text, p.parse raw = .error (.envelope text) ∧
        (p.Dispatches raw ↔ text.Fits 120 123)) ∨
      (p.parse raw = .error .unhashableType ∧ ¬ p.Dispatches raw) := by
  unfold PyReading.parse PyReading.Dispatches
  cases PyJson.get? raw "type" with
  | none => exact .inr (.inl ⟨_, rfl, iff_of_true trivial fits_missingType⟩)
  | some v =>
    cases v with
    | null => exact .inr (.inl ⟨_, rfl, iff_of_true trivial fits_missingType⟩)
    -- A list or a dict cannot be a key: a `TypeError`, and no envelope error.
    | arr xs => exact .inr (.inr ⟨rfl, id⟩)
    | obj fields => exact .inr (.inr ⟨rfl, id⟩)
    | bool b => exact .inr (.inl ⟨_, rfl, (fits_unknownTypeText _).symm⟩)
    | num n => exact .inr (.inl ⟨_, rfl, (fits_unknownTypeText _).symm⟩)
    | nan => exact .inr (.inl ⟨_, rfl, (fits_unknownTypeText _).symm⟩)
    | infinity negative => exact .inr (.inl ⟨_, rfl, (fits_unknownTypeText _).symm⟩)
    | str s =>
      cases hname : c.typeName? s with
      | none =>
        refine .inr (.inl ⟨unknownTypeText (p.str (.str s)), by simp only [hname], ?_⟩)
        simp only [hname]
        exact (fits_unknownTypeText _).symm
      | some msgType =>
        cases hread : p.validate msgType raw with
        | ok message =>
          exact .inl ⟨message, by simp only [hname, hread], by simp [hname, hread]⟩
        | error account =>
          refine .inr (.inl ⟨validationFailedText msgType account,
            by simp only [hname, hread], ?_⟩)
          rw [fits_validationFailedText (typeToModel_of_typeName? hname)]
          simp [hname, hread]

/-- A `pong` is no client message. -/
theorem PyReading.parse_of_pong (h : PyJson.get? raw "type" = some (.str (PyStr.ofString "pong"))) :
    ∃ text, p.parse raw = .error (.envelope text) := by
  have hname : c.typeName? (PyStr.ofString "pong") = none := by
    rw [typeName?_ofString]
    rfl
  unfold PyReading.parse
  simp only [h, hname]
  exact ⟨_, rfl⟩

end

end ProctorEngine
