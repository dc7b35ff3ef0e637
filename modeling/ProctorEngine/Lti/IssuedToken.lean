import ProctorEngine.Lib.Base64
import ProctorEngine.Lib.JsonText
import ProctorEngine.Lti.SessionToken

/-!
# The text of a session token

`issue_session_token` from the claims down to the characters: the payload in JSON, its bytes in
base64url between two segments that are the library's. A reader of the text needs neither the
secret nor the library: the middle segment is the payload.
-/

set_option autoImplicit false

namespace ProctorEngine
namespace Lti

open JsonText

/-- `str(uuid)` -/
def uuidStr (u : UUID) : String :=
  let hex := hexDigits 32 u.toNat
  String.ofList (hex.take 8 ++ '-' :: ((hex.drop 8).take 4 ++ '-' :: ((hex.drop 12).take 4 ++
    '-' :: ((hex.drop 16).take 4 ++ '-' :: hex.drop 20))))

/-- `AppRole.value` -/
def AppRole.value : AppRole → String
  | .learner => "learner"
  | .instructor => "instructor"
  | .admin => "admin"
  | .proctor => "proctor"

/-- What `LtiSettings` says of session tokens. -/
structure SessionTokenSettings where
  secret : String
  issuer : String
  audience : String
  ttlSeconds : Int

/-- `int(value.timestamp())` -/
def unixSeconds (value : DateTime) : Int := value.tdiv 1000000

/-- The payload of `issue_session_token`. -/
def sessionPayload (settings : SessionTokenSettings) (participantId examSessionId : UUID)
    (role : AppRole) (now : DateTime) (jti : UUID) : List (String × Scalar) :=
  [("sub", .str (uuidStr participantId)), ("sid", .str (uuidStr examSessionId)),
    ("role", .str role.value), ("iss", .str settings.issuer), ("aud", .str settings.audience),
    ("iat", .int (unixSeconds now)),
    ("exp", .int (unixSeconds (now + settings.ttlSeconds * 1000000))),
    ("jti", .str (uuidStr jti))]

/-- `jwt.encode` with HS256: the segments that are not the payload, in an alphabet without a
    dot. -/
structure JwtEncoder where
  header : List Char
  signature : String → List Char → List Char
  headerNoDot : '.' ∉ header
  signatureNoDot : ∀ secret signingInput, '.' ∉ signature secret signingInput

namespace JwtEncoder

/-- What is signed: the header and the payload. -/
def signingInput (jwt : JwtEncoder) (payload : List (String × Scalar)) : List Char :=
  jwt.header ++ '.' :: Base64.urlEncode (utf8 (writeObject payload))

def encode (jwt : JwtEncoder) (payload : List (String × Scalar)) (secret : String) : List Char :=
  jwt.signingInput payload ++ '.' :: jwt.signature secret (jwt.signingInput payload)

end JwtEncoder

def issueSessionToken (jwt : JwtEncoder) (settings : SessionTokenSettings)
    (participantId examSessionId : UUID) (role : AppRole) (now : DateTime) (jti : UUID) :
    List Char :=
  jwt.encode (sessionPayload settings participantId examSessionId role now jti) settings.secret

/-- The payload as a Python `dict`. -/
def toDict (payload : List (String × Scalar)) : Dict :=
  payload.map fun (name, value) =>
    match value with
    | .str s => (name, .str s)
    | .int n => (name, .num n)

/-! ## What a reader finds -/

section
variable {settings : SessionTokenSettings} {participantId examSessionId jti : UUID}
  {role : AppRole} {issuedAt : DateTime}

theorem uuidStr_filter (u : UUID) :
    (uuidStr u).toList.filter (· ≠ '-') = hexDigits 32 u.toNat := by
  have hdigit : ∀ d < 16, Nat.digitChar d ≠ '-' := by decide
  have hself : (hexDigits 32 u.toNat).filter (· ≠ '-') = hexDigits 32 u.toNat := by
    apply List.filter_eq_self.mpr
    intro c hc
    obtain ⟨d, hd, rfl⟩ := mem_hexDigits hc
    simp [hdigit d hd]
  have hcut : ∀ (n k : Nat) (cs : List Char),
      (cs.drop n).take k ++ cs.drop (n + k) = cs.drop n := by
    intro n k cs
    rw [← List.drop_drop, List.take_append_drop]
  unfold uuidStr
  dsimp only
  rw [String.toList_ofList]
  simp only [List.filter_append, List.filter_cons, ne_eq, not_true_eq_false, decide_false,
    Bool.false_eq_true, if_false]
  simp only [← List.filter_append]
  rw [hcut 16 4, hcut 12 4, hcut 8 4, List.take_append_drop]
  exact hself

/-- A UUID is its text. -/
theorem uuidStr_injective {u v : UUID} (h : uuidStr u = uuidStr v) : u = v := by
  have hhex : hexDigits 32 u.toNat = hexDigits 32 v.toNat := by
    rw [← uuidStr_filter u, ← uuidStr_filter v, h]
  exact BitVec.eq_of_toNat_eq (hexDigits_injective 32 u.isLt v.isLt hhex)

theorem uuidStr_isAscii (u : UUID) : IsAscii (uuidStr u).toList := by
  intro c hc
  by_cases hdash : c = '-'
  · subst hdash
    decide
  · have hmem : c ∈ (uuidStr u).toList.filter (· ≠ '-') := by simpa [hdash] using hc
    rw [uuidStr_filter] at hmem
    exact isAscii_hexDigits 32 u.toNat c hmem

theorem utf16_uuidStr (u : UUID) : utf16 (uuidStr u) = (uuidStr u).toList.map Char.toNat :=
  utf16_of_isAscii (uuidStr_isAscii u)

theorem utf16_uuidStr_injective {u v : UUID} (h : utf16 (uuidStr u) = utf16 (uuidStr v)) :
    u = v := by
  rw [utf16_uuidStr, utf16_uuidStr] at h
  have hchars : (uuidStr u).toList = (uuidStr v).toList :=
    List.map_injective_iff.mpr (fun _ _ => Char.toNat_inj.mp) h
  exact uuidStr_injective (String.toList_inj.mp hchars)

theorem utf16_uuidStr_ne_nil (u : UUID) : utf16 (uuidStr u) ≠ [] := by
  rw [utf16_uuidStr]
  intro h
  have hdash : '-' ∈ (uuidStr u).toList := by
    unfold uuidStr
    rw [String.toList_ofList]
    exact List.mem_append_right _ List.mem_cons_self
  rw [List.map_eq_nil_iff.mp h] at hdash
  exact absurd hdash List.not_mem_nil

theorem toDict_sessionPayload :
    Json.get? (toDict (sessionPayload settings participantId examSessionId role issuedAt jti))
      "sid" = some (.str (uuidStr examSessionId)) := rfl

theorem AppRole.ofValue?_value (role : AppRole) : AppRole.ofValue? role.value = some role := by
  cases role with
  | learner | instructor | admin | proctor => rfl

/-- The origin reads what was put into the token. -/
theorem claimsFromPayload_sessionPayload {jwt : Jwt} {iat exp : Int}
    (hiat : jwt.timestamp (.num (unixSeconds issuedAt)) = some iat)
    (hexp : jwt.timestamp (.num (unixSeconds (issuedAt + settings.ttlSeconds * 1000000))) =
      some exp) :
    claimsFromPayload jwt
        (toDict (sessionPayload settings participantId examSessionId role issuedAt jti)) =
      some ⟨uuidStr participantId, uuidStr examSessionId, role, settings.issuer,
        settings.audience, iat, exp, uuidStr jti⟩ := by
  have hpayload : claimsFromPayload jwt
      (toDict (sessionPayload settings participantId examSessionId role issuedAt jti)) = do
        let readRole ← AppRole.ofValue? (jwt.str (.str role.value))
        let readIat ← jwt.timestamp (.num (unixSeconds issuedAt))
        let readExp ← jwt.timestamp
          (.num (unixSeconds (issuedAt + settings.ttlSeconds * 1000000)))
        return ⟨jwt.str (.str (uuidStr participantId)), jwt.str (.str (uuidStr examSessionId)),
          readRole, jwt.str (.str settings.issuer), jwt.str (.str settings.audience), readIat,
          readExp, jwt.str (.str (uuidStr jti))⟩ := rfl
  rw [hpayload]
  simp only [jwt.str_str, AppRole.ofValue?_value, hiat, hexp]
  rfl

theorem decodeSessionToken_of_claims {jwt : Jwt} {now : DateTime} {token : String} {payload : Dict}
    {claims : SessionClaims} (hdecode : jwt.decode now token = .ok payload)
    (hclaims : claimsFromPayload jwt payload = some claims) :
    decodeSessionToken jwt now token = .ok claims := by
  simp only [decodeSessionToken, hdecode, hclaims]

/-- The session id the origin reads is the one the token was issued for. -/
theorem claimsFromPayload_sessionId {jwt : Jwt} {claims : SessionClaims}
    (h : claimsFromPayload jwt
      (toDict (sessionPayload settings participantId examSessionId role issuedAt jti)) =
        some claims) : claims.sessionId = uuidStr examSessionId := by
  simp only [claimsFromPayload, toDict_sessionPayload, Option.bind_eq_bind,
    Option.bind_eq_some_iff, Option.pure_def] at h
  obtain ⟨subject, -, sessionId, hsid, roleValue, -, roleRead, -, iat, -, iatRead, -, exp, -,
    expRead, -, issuer, -, audience, -, jtiRead, -, hclaims⟩ := h
  cases hsid
  cases hclaims
  exact jwt.str_str _

end

end Lti
end ProctorEngine
