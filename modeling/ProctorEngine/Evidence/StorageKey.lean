import ProctorEngine.Evidence.Service
import ProctorEngine.Lib.Segments
import ProctorEngine.Uuid

/-!
# `parse_storage_key`

Storage keys read back. The parser takes the ids of a key for whatever `uuid.UUID` takes them for,
so it accepts keys that no artifact is stored under: **the key of what it returns is the key it was
given exactly when both ids are spelled the way `str` spells them**.

A key is cut at its slashes and has four parts. Of these the first and the last are fixed by what
they are compared with: the one is a word, and a file name is accepted only if it is the name of its
artifact type (`filename_of_parseFilename`). The ids are all the freedom there is. `uuid.UUID`
removes `urn:`, `uuid:` and hyphens wherever they stand and braces around the rest, and takes digits
of either case; `str` writes 32 lowercase digits in five groups.

That a canonical text is read as the UUID that is written so is a round trip of numbers in
hexadecimal: the digits of a text are the field of the number they denote, and the groups of a UUID
put together are the field of all of it.
-/

set_option autoImplicit false

namespace ProctorEngine

/-- The `ValueError`s of `parse_storage_key`, each with what its message quotes. -/
inductive StorageKeyError where
  | partCount (count : Nat) (key : String)
  | start (part : List Char)
  | examSessionId (part : List Char)
  | flagId (part : List Char)
  | noDot (filename : List Char)
  | artifactType (artifactType : List Char)
  | extension (artifactType : EvidenceKind) (got : List Char)

/-- The entry of `_ARTIFACT_EXTENSIONS` under a name. -/
def EvidenceKind.named? (artifactType : List Char) : Option EvidenceKind :=
  [.frame, .clip, .audio, .eventExport].find? fun kind => kind.value.toList = artifactType

/-- The file name of an artifact: its type, and the type's extension behind the last dot. -/
def parseFilename (filename : List Char) : Except StorageKeyError EvidenceKind :=
  if filename.contains '.' then
    -- `filename.rsplit(".", 1)`
    let artifactType := (filename.rdropWhile (· ≠ '.')).dropLast
    let ext := filename.rtakeWhile (· ≠ '.')
    match EvidenceKind.named? artifactType with
    | none => .error (.artifactType artifactType)
    | some kind => if ext = kind.extension.toList then .ok kind else .error (.extension kind ext)
  else .error (.noDot filename)

/-- `parse_storage_key`. Four parts, the prefix, two ids and a file name, checked in this order; the
    first that is wrong names the error. -/
def parseStorageKey (key : String) : Except StorageKeyError (UUID × UUID × EvidenceKind) :=
  match key.toList.splitOn '/' with
  | [start, session, flag, filename] =>
    if start ≠ "evidence".toList then .error (.start start)
    else
      -- what an id may look like is left to `uuid.UUID`
      match parseUuid (String.ofList session) with
      | none => .error (.examSessionId session)
      | some examSessionId =>
        match parseUuid (String.ofList flag) with
        | none => .error (.flagId flag)
        | some flagId =>
          match parseFilename filename with
          | .error e => .error e
          | .ok artifactType => .ok (examSessionId, flagId, artifactType)
  | parts => .error (.partCount parts.length key)

def lowerHexDigits : List Char := "0123456789abcdef".toList

/-- The spelling of `str(uuid)`: lowercase digits in groups of 8, 4, 4, 4 and 12. -/
def IsCanonical (id : List Char) : Prop :=
  (id.splitOn '-').map List.length = [8, 4, 4, 4, 12] ∧
    ∀ c ∈ id, c ≠ '-' → c ∈ lowerHexDigits

/-- Both ids of a key are spelled the way `str` spells them. -/
def HasCanonicalIds (key : String) : Prop :=
  ∀ id ∈ ((key.toList.splitOn '/').drop 1).take 2, IsCanonical id

/-! ## 1. Digits and fields

A field is a number in a fixed count of lowercase digits. Reading it gives the number back, up to
what does not fit. -/

section
variable {width m n : Nat} {c : Char} {cs id : List Char} {u : UUID}

theorem value?_hexDigit {d : Nat} (h : d < 16) : HexText.value? (hexDigit d) = some d := by
  revert d
  decide

theorem exists_hexDigit (h : c ∈ lowerHexDigits) : ∃ d < 16, hexDigit d = c := by
  obtain ⟨d, hd, hc⟩ := List.mem_iff_getElem.mp h
  refine ⟨d, hd, ?_⟩
  rw [← hc]
  exact (List.getElem_eq_getD '0').symm

theorem hexDigit_mem {d : Nat} (h : d < 16) : hexDigit d ∈ lowerHexDigits := by
  have hd : d < lowerHexDigits.length := h
  have hdigit : hexDigit d = lowerHexDigits[d] := (List.getElem_eq_getD '0').symm
  rw [hdigit]
  exact List.getElem_mem hd

theorem isDigit_of_mem (h : c ∈ lowerHexDigits) : HexText.isDigit c = true := by
  obtain ⟨d, hd, rfl⟩ := exists_hexDigit h
  rw [HexText.isDigit, value?_hexDigit hd]
  rfl

theorem hexField_succ : (hexField (width + 1) n).toList =
    (hexField width (n / 16)).toList ++ [hexDigit (n % 16)] := by
  unfold hexField
  rw [String.toList_ofList, String.toList_ofList, List.range_succ_eq_map, List.reverse_cons,
    List.map_append, ← List.map_reverse, List.map_map]
  congr 1
  · apply List.map_congr_left
    intro i _
    show hexDigit (n / 16 ^ (i + 1) % 16) = hexDigit (n / 16 / 16 ^ i % 16)
    rw [Nat.pow_succ', Nat.div_div_eq_div_mul]
  · rw [List.map_singleton, Nat.pow_zero, Nat.div_one]

/-- A field is the field of the high digits and the field of the low ones. -/
theorem hexField_add : (hexField (width + m) n).toList =
    (hexField width (n / 16 ^ m)).toList ++ (hexField m n).toList := by
  induction m generalizing n with
  | zero =>
    rw [Nat.pow_zero, Nat.div_one]
    exact (List.append_nil _).symm
  | succ m ih =>
    rw [← Nat.add_assoc, hexField_succ, ih, hexField_succ, List.append_assoc,
      Nat.div_div_eq_div_mul, Nat.pow_succ']

theorem mem_lowerHexDigits_of_mem_hexField (h : c ∈ (hexField width n).toList) :
    c ∈ lowerHexDigits := by
  rw [hexField, String.toList_ofList] at h
  obtain ⟨i, -, rfl⟩ := List.mem_map.mp h
  exact hexDigit_mem (Nat.mod_lt _ (by decide))

/-- A field reads as the number modulo the field's range. -/
theorem number_hexField : HexText.number (hexField width n).toList = n % 16 ^ width := by
  induction width generalizing n with
  | zero =>
    rw [Nat.pow_zero, Nat.mod_one]
    rfl
  | succ width ih =>
    rw [hexField_succ, HexText.number_append_singleton, ih,
      value?_hexDigit (Nat.mod_lt n (by decide)), Option.getD_some, Nat.pow_succ', Nat.mod_mul]
    ring

/-- Digits are the field of the number they denote. -/
theorem hexField_number (h : ∀ c ∈ cs, c ∈ lowerHexDigits) :
    (hexField cs.length (HexText.number cs)).toList = cs := by
  induction cs using List.reverseRecOn with
  | nil => rfl
  | append_singleton cs c ih =>
    obtain ⟨d, hd, rfl⟩ := exists_hexDigit (h _ (List.mem_append_right cs List.mem_cons_self))
    have hdiv : (HexText.number cs * 16 + d) / 16 = HexText.number cs := by omega
    have hmod : (HexText.number cs * 16 + d) % 16 = d := by omega
    rw [List.length_append, List.length_singleton, hexField_succ, HexText.number_append_singleton,
      value?_hexDigit hd, Option.getD_some, hdiv, hmod,
      ih fun c hc => h c (List.mem_append_left _ hc)]

/-! ## 2. The text of a UUID

From fields to the five groups, and from the groups to the text between the hyphens. -/

/-- The groups of digits between the hyphens of `str(uuid)`. -/
def UUID.groups (u : UUID) : List (List Char) :=
  [(hexField 8 (u.toNat / 16 ^ 24)).toList, (hexField 4 (u.toNat / 16 ^ 20)).toList,
    (hexField 4 (u.toNat / 16 ^ 16)).toList, (hexField 4 (u.toNat / 16 ^ 12)).toList,
    (hexField 12 u.toNat).toList]

theorem UUID.mem_lowerHexDigits {group : List Char} (hgroup : group ∈ u.groups) (hc : c ∈ group) :
    c ∈ lowerHexDigits := by
  simp only [UUID.groups, List.mem_cons, List.not_mem_nil, or_false] at hgroup
  obtain rfl | rfl | rfl | rfl | rfl := hgroup
  all_goals exact mem_lowerHexDigits_of_mem_hexField hc

theorem UUID.splitOn_str : u.str.toList.splitOn '-' = u.groups := by
  have hnone : ∀ group ∈ u.groups, '-' ∉ group := by
    intro group hgroup hmem
    exact absurd (isDigit_of_mem (UUID.mem_lowerHexDigits hgroup hmem)) (by decide)
  have hstr : u.str.toList = ['-'].intercalate u.groups := by
    rw [UUID.str_toList]
    simp [UUID.groups, List.intercalate_cons_cons]
  rw [hstr]
  exact List.splitOn_intercalate '-' hnone (List.cons_ne_nil _ _)

theorem UUID.map_length_groups : u.groups.map List.length = [8, 4, 4, 4, 12] := by
  simp [UUID.groups, length_hexField]

/-- The groups together are the 32 digits of the UUID. -/
theorem UUID.flatten_groups : u.groups.flatten = (hexField 32 u.toNat).toList := by
  have hdigits : (hexField (8 + (4 + (4 + (4 + 12)))) u.toNat).toList = u.groups.flatten := by
    rw [hexField_add, hexField_add, hexField_add, hexField_add]
    simp only [UUID.groups, List.flatten_cons, List.flatten_nil, List.append_nil]
  exact hdigits.symm

theorem UUID.isCanonical_str : IsCanonical u.str.toList := by
  constructor
  · rw [UUID.splitOn_str, UUID.map_length_groups]
  · intro c hc hhyphen
    have hmem : c ∈ u.groups.flatten := by
      rw [← UUID.splitOn_str, Segments.flatten_splitOn, List.mem_filter]
      exact ⟨hc, decide_eq_true hhyphen⟩
    obtain ⟨group, hgroup, hc⟩ := List.mem_flatten.mp hmem
    exact UUID.mem_lowerHexDigits hgroup hc

/-- Canonical text is read as the UUID that is written so. -/
theorem IsCanonical.parseUuid (h : IsCanonical id) :
    ∃ u : UUID, parseUuid (String.ofList id) = some u ∧ u.str.toList = id := by
  let digits := id.filter (· ≠ '-')
  have hflatten : (id.splitOn '-').flatten = digits := Segments.flatten_splitOn '-' id
  have hlength : digits.length = 32 := by
    rw [← hflatten, List.length_flatten, h.1]
    rfl
  have hlower : ∀ c ∈ digits, c ∈ lowerHexDigits := by
    intro c hc
    rw [List.mem_filter, decide_eq_true_eq] at hc
    exact h.2 c hc.1 hc.2
  have hfield : (hexField 32 (HexText.number digits)).toList = digits := by
    rw [← hlength]
    exact hexField_number hlower
  have hu : (BitVec.ofNat 128 (HexText.number digits)).toNat = HexText.number digits := by
    have hmod : HexText.number (hexField 32 (HexText.number digits)).toList =
        HexText.number digits % 16 ^ 32 := number_hexField
    rw [hfield] at hmod
    rw [BitVec.toNat_ofNat]
    exact hmod.symm
  refine ⟨BitVec.ofNat 128 (HexText.number digits), ?_, ?_⟩
  · exact parseUuid_of_isDigit (fun c hc hhyphen => isDigit_of_mem (h.2 c hc hhyphen)) rfl hlength
      hu.symm
  -- its text has the same groups, and so is the same text
  · have hgroups : UUID.groups (BitVec.ofNat 128 (HexText.number digits)) = id.splitOn '-' := by
      rw [List.eq_iff_flatten_eq, UUID.flatten_groups, UUID.map_length_groups, hu, hfield, hflatten,
        h.1]
      exact ⟨rfl, rfl⟩
    calc (UUID.str (BitVec.ofNat 128 (HexText.number digits))).toList
      _ = ['-'].intercalate (UUID.groups (BitVec.ofNat 128 (HexText.number digits))) := by
        rw [← UUID.splitOn_str, List.intercalate_splitOn]
      _ = id := by rw [hgroups, List.intercalate_splitOn]

/-- `uuid.UUID(str(uuid))` is the UUID. -/
theorem parseUuid_str : parseUuid u.str = some u := by
  obtain ⟨v, hparse, hv⟩ := (UUID.isCanonical_str (u := u)).parseUuid
  rw [String.ofList_toList] at hparse
  rw [hparse, UUID.str_inj.mp (String.toList_inj.mp hv)]

/-- A text that is read as a UUID is the UUID's own exactly when it is canonical. -/
theorem str_eq_iff_isCanonical (h : parseUuid (String.ofList id) = some u) :
    u.str.toList = id ↔ IsCanonical id := by
  constructor
  · intro hid
    rw [← hid]
    exact UUID.isCanonical_str
  · intro hid
    obtain ⟨v, hparse, hv⟩ := hid.parseUuid
    rw [h, Option.some.injEq] at hparse
    rwa [hparse]

end

/-! ## 3. Keys

Which keys are accepted, with the parts they have, and when such a key is the one that is built. -/

/-- `build_storage_key` of a parsed key. -/
def rebuildStorageKey (id : UUID × UUID × EvidenceKind) : String :=
  buildStorageKey id.1 id.2.1 id.2.2

/-- The file name that `build_storage_key` writes. -/
def EvidenceKind.filename (kind : EvidenceKind) : List Char :=
  kind.value.toList ++ '.' :: kind.extension.toList

section
variable {key key' : String} {start session flag filename : List Char}
  {examSessionId flagId : UUID} {kind : EvidenceKind} {id : UUID × UUID × EvidenceKind}

theorem parseFilename_filename : parseFilename kind.filename = .ok kind := by
  cases kind with
  | frame => rfl
  | clip => rfl
  | audio => rfl
  | eventExport => rfl

theorem EvidenceKind.value_of_named? {artifactType : List Char}
    (h : EvidenceKind.named? artifactType = some kind) : kind.value.toList = artifactType := by
  have hkind := List.find?_some h
  rwa [decide_eq_true_eq] at hkind

/-- A file name is accepted for the artifact type it is written for. -/
theorem filename_of_parseFilename (h : parseFilename filename = .ok kind) :
    filename = kind.filename := by
  unfold parseFilename at h
  split at h
  case isFalse => cases h
  case isTrue hdot =>
    dsimp only at h
    split at h
    case h_1 => cases h
    case h_2 found hfound =>
      split at h
      case isFalse => cases h
      case isTrue hext =>
        cases h
        -- The name is cut at its last dot, and the two parts put together are the name.
        have hne : filename.rdropWhile (· ≠ '.') ≠ [] := by
          intro hnil
          have hall := List.rdropWhile_eq_nil_iff.mp hnil '.' (List.contains_iff_mem.mp hdot)
          exact absurd hall (by decide)
        have hlast := List.rdropWhile_last_not (· ≠ '.') filename hne
        rw [decide_eq_true_eq, not_not] at hlast
        have htype := List.dropLast_append_getLast hne
        rw [hlast] at htype
        calc filename
          _ = filename.rdropWhile (· ≠ '.') ++ filename.rtakeWhile (· ≠ '.') :=
            List.rdropWhile_append_rtakeWhile.symm
          _ = ((filename.rdropWhile (· ≠ '.')).dropLast ++ ['.']) ++
              filename.rtakeWhile (· ≠ '.') := by rw [htype]
          _ = kind.filename := by
            rw [← EvidenceKind.value_of_named? hfound, hext, List.append_assoc]
            rfl

/-- What stands between the slashes of a key. -/
theorem splitOn_buildStorageKey :
    (buildStorageKey examSessionId flagId kind).toList.splitOn '/' =
      ["evidence".toList, examSessionId.str.toList, flagId.str.toList, kind.filename] := by
  have hkey : (buildStorageKey examSessionId flagId kind).toList =
      "evidence".toList ++ '/' ::
        (examSessionId.str.toList ++ '/' :: (flagId.str.toList ++ '/' :: kind.filename)) := by
    have hprefix : "evidence/".toList = "evidence".toList ++ ['/'] := by decide
    have hslash : "/".toList = ['/'] := by decide
    have hdot : ".".toList = ['.'] := by decide
    delta buildStorageKey
    simp only [String.toList_append, List.append_assoc, hprefix, hslash, hdot, List.cons_append,
      List.nil_append, EvidenceKind.filename]
  have hevidence : '/' ∉ "evidence".toList := by decide
  have hfilename : '/' ∉ kind.filename := by
    cases kind with
    | frame => decide
    | clip => decide
    | audio => decide
    | eventExport => decide
  rw [hkey, List.splitOn_append_cons_self_of_not_mem hevidence,
    List.splitOn_append_cons_self_of_not_mem UUID.slash_not_mem_str,
    List.splitOn_append_cons_self_of_not_mem UUID.slash_not_mem_str,
    List.splitOn_eq_singleton hfilename]

/-- The accepted keys. -/
theorem parseStorageKey_eq_ok :
    parseStorageKey key = .ok (examSessionId, flagId, kind) ↔
      ∃ session flag, key.toList.splitOn '/' = ["evidence".toList, session, flag, kind.filename] ∧
        parseUuid (String.ofList session) = some examSessionId ∧
        parseUuid (String.ofList flag) = some flagId := by
  constructor
  · intro h
    -- Each error of the parser is one part of the right-hand side missing.
    unfold parseStorageKey at h
    split at h
    case h_2 => cases h
    case h_1 start session flag filename hparts =>
      split at h
      case isTrue => cases h
      case isFalse hstart =>
        split at h
        case h_1 => cases h
        case h_2 session' hsession =>
          split at h
          case h_1 => cases h
          case h_2 flag' hflag =>
            split at h
            case h_1 => cases h
            case h_2 kind' hfilename =>
              cases h
              rw [not_not] at hstart
              rw [hstart, filename_of_parseFilename hfilename] at hparts
              exact ⟨session, flag, hparts, hsession, hflag⟩
  · intro ⟨session, flag, hparts, hsession, hflag⟩
    unfold parseStorageKey
    rw [hparts]
    dsimp only
    rw [if_neg (not_not.mpr rfl), hsession, hflag, parseFilename_filename]

/-- A key is its parts. -/
theorem eq_of_splitOn_eq (h : key.toList.splitOn '/' = key'.toList.splitOn '/') : key = key' := by
  have hkey : ['/'].intercalate (key.toList.splitOn '/') = key.toList :=
    List.intercalate_splitOn '/'
  rw [h, List.intercalate_splitOn] at hkey
  exact (String.toList_inj.mp hkey).symm

/-- What is built is read back. -/
theorem parseStorageKey_buildStorageKey :
    parseStorageKey (buildStorageKey examSessionId flagId kind) =
      .ok (examSessionId, flagId, kind) := by
  apply parseStorageKey_eq_ok.mpr
  refine ⟨_, _, splitOn_buildStorageKey, ?_, ?_⟩
  · rw [String.ofList_toList]
    exact parseUuid_str
  · rw [String.ofList_toList]
    exact parseUuid_str

/-- What is read is built again exactly when it was spelled canonically. -/
theorem rebuildStorageKey_eq_iff (h : parseStorageKey key = .ok id) :
    rebuildStorageKey id = key ↔ HasCanonicalIds key := by
  obtain ⟨examSessionId, flagId, kind⟩ := id
  obtain ⟨session, flag, hparts, hsession, hflag⟩ := parseStorageKey_eq_ok.mp h
  have hids : HasCanonicalIds key ↔ IsCanonical session ∧ IsCanonical flag := by
    unfold HasCanonicalIds
    rw [hparts]
    show (∀ id ∈ [session, flag], IsCanonical id) ↔ _
    rw [List.forall_mem_cons, List.forall_mem_singleton]
  rw [hids, ← str_eq_iff_isCanonical hsession, ← str_eq_iff_isCanonical hflag]
  constructor
  · intro hkey
    -- the parts of the key, once as they were given and once as they are built
    have hbuilt : (rebuildStorageKey (examSessionId, flagId, kind)).toList.splitOn '/' = _ :=
      splitOn_buildStorageKey
    rw [hkey, hparts] at hbuilt
    injection hbuilt with _ hbuilt
    injection hbuilt with hs hbuilt
    injection hbuilt with hf _
    exact ⟨hs.symm, hf.symm⟩
  · intro ⟨hs, hf⟩
    apply eq_of_splitOn_eq
    rw [hparts, ← hs, ← hf]
    exact splitOn_buildStorageKey

/-- **Keys encode artifacts exactly as far as their ids are canonical.** Every key of the builder is
    read back without a condition; but the parser leaves the ids to `uuid.UUID`, which takes many
    spellings of each. -/
theorem storageKey_bijective_iff (examSessionId flagId : UUID) (kind : EvidenceKind) (key : String)
    (id : UUID × UUID × EvidenceKind) (h : parseStorageKey key = .ok id) :
    parseStorageKey (buildStorageKey examSessionId flagId kind) =
        .ok (examSessionId, flagId, kind) ∧
      (rebuildStorageKey id = key ↔ HasCanonicalIds key) ∧
      ∀ key', parseStorageKey key' = .ok id → HasCanonicalIds key → HasCanonicalIds key' →
        key = key' := by
  refine ⟨parseStorageKey_buildStorageKey, rebuildStorageKey_eq_iff h, ?_⟩
  intro key' h' hids hids'
  rw [← (rebuildStorageKey_eq_iff h).mpr hids, ← (rebuildStorageKey_eq_iff h').mpr hids']

/-- A key of the builder. -/
theorem storageKey_bijective_iff_clip :
    parseStorageKey (buildStorageKey 3 4 .frame) = .ok (3, 4, .frame) ∧
      (rebuildStorageKey (1, 2, .clip) = buildStorageKey 1 2 .clip ↔
        HasCanonicalIds (buildStorageKey 1 2 .clip)) ∧
      ∀ key', parseStorageKey key' = .ok (1, 2, .clip) →
        HasCanonicalIds (buildStorageKey 1 2 .clip) → HasCanonicalIds key' →
          buildStorageKey 1 2 .clip = key' :=
  storageKey_bijective_iff 3 4 .frame (buildStorageKey 1 2 .clip) (1, 2, .clip)
    parseStorageKey_buildStorageKey

/-- The key of an artifact, but for a capital in the session id. -/
def uppercaseKey : String :=
  "evidence/00000000-0000-0000-0000-00000000000A/00000000-0000-0000-0000-000000000002/clip.webm"

/-- It is read as the artifact, whose key it is not. -/
theorem uppercaseKey_accepted :
    parseStorageKey uppercaseKey = .ok (10, 2, .clip) ∧
      rebuildStorageKey (10, 2, .clip) ≠ uppercaseKey := by
  constructor
  · rfl
  · decide +kernel

end

end ProctorEngine
