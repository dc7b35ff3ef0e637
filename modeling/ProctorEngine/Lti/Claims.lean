import ProctorEngine.Lti.Service
import ProctorEngine.Websocket.Parse

/-!
# The claims of an `id_token`

`LtiIdToken.from_jwt_payload` takes a verified payload apart by eighteen claim names and refuses a
payload with any other (`extra="forbid"`), a claim it cannot read, another LTI version or another
kind of message. **What it lets through has every member accounted for**; only the `custom` claim
and its members of other names are carried along unread.

`process_launch` reads four things of it, which are `Service`'s `LtiIdToken`.

A signature says who wrote the payload and nothing of its shape, so this is the one place where the
shape is checked. What the later modules use is `validateIdToken_eq_some`: which member of the
payload each field was read from, whatever else the payload says.
-/

set_option autoImplicit false

namespace ProctorEngine.Lti

/-! ## 1. The names

The names as the platform spells them; the long ones are URIs. -/

def claimIssuer : String := "iss"
def claimSubject : String := "sub"
def claimAudience : String := "aud"
def claimExpiresAt : String := "exp"
def claimIssuedAt : String := "iat"
def claimNonce : String := "nonce"
def claimMessageType : String := "https://purl.imsglobal.org/spec/lti/claim/message_type"
def claimVersion : String := "https://purl.imsglobal.org/spec/lti/claim/version"
def claimDeploymentId : String := "https://purl.imsglobal.org/spec/lti/claim/deployment_id"
def claimRoles : String := "https://purl.imsglobal.org/spec/lti/claim/roles"
def claimContext : String := "https://purl.imsglobal.org/spec/lti/claim/context"
def claimResourceLink : String := "https://purl.imsglobal.org/spec/lti/claim/resource_link"
def claimToolPlatform : String := "https://purl.imsglobal.org/spec/lti/claim/tool_platform"
def claimCustom : String := "https://purl.imsglobal.org/spec/lti/claim/custom"
def claimTargetLinkUri : String := "https://purl.imsglobal.org/spec/lti/claim/target_link_uri"
def claimName : String := "name"
def claimEmail : String := "email"
def claimPreferredUsername : String := "preferred_username"

/-- The aliases of the model's fields. -/
def claimNames : List String :=
  [claimIssuer, claimSubject, claimAudience, claimExpiresAt, claimIssuedAt, claimNonce,
    claimMessageType, claimVersion, claimDeploymentId, claimRoles, claimContext,
    claimResourceLink, claimToolPlatform, claimTargetLinkUri, claimCustom, claimName, claimEmail,
    claimPreferredUsername]

/-- `LTI_MESSAGE_TYPE_RESOURCE_LINK` -/
def resourceLinkRequest : String := "LtiResourceLinkRequest"

/-- `LTI_MESSAGE_TYPE_DEEP_LINKING` -/
def deepLinkingRequest : String := "LtiDeepLinkingRequest"

/-- `LTI_VERSION_1_3` -/
def ltiVersion : String := "1.3.0"

/-! ## 2. The models

Each model with a reader that fails where pydantic would refuse. -/

/-- A `str` with `min_length` and `max_length`, counted in code points. -/
abbrev Text (min max : Nat) := { s : String // min ≤ s.length ∧ s.length ≤ max }

def readText (min max : Nat) (value : Json) : Option (Text min max) := do
  let s ← readStr value
  if h : min ≤ s.length ∧ s.length ≤ max then some ⟨s, h⟩ else none

/-- `Optional[str]` with `max_length`, and a default. -/
def optionalText (fields : Dict) (name : String) (max : Nat) : Option (Option (Text 0 max)) :=
  withDefault fields name none (readOptional (readText 0 max))

/-- `Optional[str]`, and a default. -/
def optionalStr (fields : Dict) (name : String) : Option (Option String) :=
  withDefault fields name none (readOptional readStr)

structure LtiContext where
  id : Text 1 512
  label : Option (Text 0 512)
  title : Option (Text 0 512)
  type : Option (List String)

structure LtiResourceLink where
  id : Text 1 512
  title : Option (Text 0 512)
  description : Option String
  url : Option String

structure LtiToolPlatform where
  guid : Text 1 512
  name : Text 1 512
  productFamilyCode : Text 1 128
  version : Option String
  url : Option String

/-- The fields of other names are kept as they are. -/
structure LtiCustomClaims where
  policyConfigName : Option (Text 0 128)
  extra : Dict

structure LtiIdTokenClaims where
  issuer : Text 1 2048
  subject : Text 1 2048
  audience : Text 1 2048
  expiresAt : Int
  issuedAt : Int
  nonce : Text 1 2048
  messageType : String
  version : String
  deploymentId : Text 1 512
  roles : { uris : List String // uris ≠ [] }
  context : LtiContext
  resourceLink : LtiResourceLink
  toolPlatform : LtiToolPlatform
  targetLinkUri : Text 1 2048
  custom : LtiCustomClaims
  name : Option (Text 0 512)
  email : Option (Text 0 512)
  preferredUsername : Option (Text 0 512)

def readContext (value : Json) : Option LtiContext := do
  let fields ← readDict value
  forbidExtra fields ["id", "label", "title", "type"]
  let id ← required fields "id" (readText 1 512)
  let label ← optionalText fields "label" 512
  let title ← optionalText fields "title" 512
  let type ← withDefault fields "type" none (readOptional (readList readStr))
  return ⟨id, label, title, type⟩

def readResourceLink (value : Json) : Option LtiResourceLink := do
  let fields ← readDict value
  forbidExtra fields ["id", "title", "description", "url"]
  let id ← required fields "id" (readText 1 512)
  let title ← optionalText fields "title" 512
  let description ← optionalStr fields "description"
  let url ← optionalStr fields "url"
  return ⟨id, title, description, url⟩

def readToolPlatform (value : Json) : Option LtiToolPlatform := do
  let fields ← readDict value
  forbidExtra fields ["guid", "name", "product_family_code", "version", "url"]
  let guid ← required fields "guid" (readText 1 512)
  let name ← required fields "name" (readText 1 512)
  let productFamilyCode ← required fields "product_family_code" (readText 1 128)
  let version ← optionalStr fields "version"
  let url ← optionalStr fields "url"
  return ⟨guid, name, productFamilyCode, version, url⟩

/-- `extra="allow"` -/
def readCustom (value : Json) : Option LtiCustomClaims := do
  let fields ← readDict value
  let policyConfigName ← optionalText fields "policy_config_name" 128
  return ⟨policyConfigName, fields.filter (·.1 ≠ "policy_config_name")⟩

def readRoles (value : Json) : Option { uris : List String // uris ≠ [] } := do
  let uris ← readList readStr value
  if h : uris ≠ [] then some ⟨uris, h⟩ else none

/-- `LtiIdToken.model_validate(payload)` The fields in the order of the model, each with the bounds
    of its type; a member of any other name refuses the payload. -/
def validateIdToken (c : Pydantic) (payload : Dict) : Option LtiIdTokenClaims := do
  forbidExtra payload claimNames
  let issuer ← required payload claimIssuer (readText 1 2048)
  let subject ← required payload claimSubject (readText 1 2048)
  let audience ← required payload claimAudience (readText 1 2048)
  let expiresAt ← required payload claimExpiresAt c.int
  let issuedAt ← required payload claimIssuedAt c.int
  let nonce ← required payload claimNonce (readText 1 2048)
  let messageType ← required payload claimMessageType readStr
  let version ← required payload claimVersion readStr
  let deploymentId ← required payload claimDeploymentId (readText 1 512)
  let roles ← required payload claimRoles readRoles
  let context ← required payload claimContext readContext
  let resourceLink ← required payload claimResourceLink readResourceLink
  let toolPlatform ← required payload claimToolPlatform readToolPlatform
  let targetLinkUri ← required payload claimTargetLinkUri (readText 1 2048)
  let custom ← withDefault payload claimCustom ⟨none, []⟩ readCustom
  let name ← optionalText payload claimName 512
  let email ← optionalText payload claimEmail 512
  let preferredUsername ← optionalText payload claimPreferredUsername 512
  return {
    issuer, subject, audience, expiresAt, issuedAt, nonce, messageType, version, deploymentId,
    roles, context, resourceLink, toolPlatform, targetLinkUri, custom, name, email,
    preferredUsername }

inductive LtiClaimsError where
  | invalid (payload : Dict)
  | version (got : String)
  | deepLinking
  | messageType (got : String)
  | policyNameRequired

/-- `str(exc)`, with `repr` what `!r` writes for a string. -/
def LtiClaimsError.message (c : Pydantic) (repr : String → String) : LtiClaimsError → String
  | .invalid payload => "LTI id_token claims are invalid: " ++ c.describe (.obj payload)
  | .version got => "LTI version must be '1.3.0', got " ++ repr got
  | .deepLinking =>
    "LtiDeepLinkingRequest is not supported in v1; the next layer will reject this " ++
      "in the route handler"
  | .messageType got => "unsupported LTI message_type " ++ repr got ++
      "; v1 only accepts 'LtiResourceLinkRequest'"
  | .policyNameRequired => "custom claim 'policy_config_name' is required and must be non-empty"

/-- `from_jwt_payload`, of a payload that is a dictionary. -/
def fromJwtPayload (c : Pydantic) (payload : Dict) : Except LtiClaimsError LtiIdTokenClaims :=
  match validateIdToken c payload with
  | none => .error (.invalid payload)
  | some claims =>
    if claims.version ≠ ltiVersion then .error (.version claims.version)
    else if claims.messageType = resourceLinkRequest then .ok claims
    else if claims.messageType = deepLinkingRequest then .error .deepLinking
    else .error (.messageType claims.messageType)

namespace LtiIdTokenClaims

/-- What `process_launch` reads of the rows' columns. -/
def idToken (claims : LtiIdTokenClaims) : LtiIdToken where
  issuer := claims.issuer
  subject := claims.subject
  policyConfigName := claims.custom.policyConfigName.map (·.val)
  resourceLinkId := claims.resourceLink.id

/-- `combined_context_id` -/
def combinedContextId (claims : LtiIdTokenClaims) : String :=
  claims.context.id.val ++ ":" ++ claims.resourceLink.id.val

end LtiIdTokenClaims

/-- Step 5 of the launch: the claims without the OIDC `state`, and the name of a policy. -/
def readClaims (c : Pydantic) (payload : Dict) : Except LtiClaimsError LtiIdTokenClaims :=
  match fromJwtPayload c (payload.filter (·.1 ≠ "state")) with
  | .error e => .error e
  | .ok claims =>
    match requirePolicyConfigName claims.idToken with
    | none => .error .policyNameRequired
    | some _ => .ok claims

/-! ## 3. What is let through

A successful reader is read backwards, one lemma for each kind of field, and the claims of the model
come out member by member. -/

/-- What the claims say is what the payload says. -/
structure Reads (payload : Dict) (claims : LtiIdTokenClaims) : Prop where
  names : ∀ member ∈ payload, member.1 = "state" ∨ member.1 ∈ claimNames
  issuer : Json.get? payload claimIssuer = some (.str claims.issuer)
  subject : Json.get? payload claimSubject = some (.str claims.subject)
  nonce : Json.get? payload claimNonce = some (.str claims.nonce)
  roles : Json.get? payload claimRoles = some (.arr (claims.roles.val.map .str))
  resourceLink : ∃ fields, Json.get? payload claimResourceLink = some (.obj fields) ∧
    Json.get? fields "id" = some (.str claims.resourceLink.id)
  version : claims.version = ltiVersion
  messageType : claims.messageType = resourceLinkRequest
  policy : ∃ name ≠ "", claims.idToken.policyConfigName = some name

section
variable {c : Pydantic} {payload fields : Dict} {claims : LtiIdTokenClaims} {name : String}
  {value : Json}

theorem readStr_eq_some {s : String} (h : readStr value = some s) : value = .str s := by
  cases value with
  | str t =>
    cases h
    rfl
  | null | bool b | num n | arr xs | obj fs => exact nomatch h

theorem readText_eq_some {min max : Nat} {s : Text min max} (h : readText min max value = some s) :
    value = .str s := by
  obtain ⟨t, ht, hbounds⟩ := Option.bind_eq_some_iff.mp h
  split at hbounds
  case isTrue =>
    cases hbounds
    exact readStr_eq_some ht
  case isFalse => exact nomatch hbounds

theorem required_eq_some {α : Type} {read : Json → Option α} {a : α}
    (h : required fields name read = some a) :
    ∃ value, Json.get? fields name = some value ∧ read value = some a :=
  Option.bind_eq_some_iff.mp h

theorem required_text {min max : Nat} {s : Text min max}
    (h : required fields name (readText min max) = some s) :
    Json.get? fields name = some (.str s) := by
  obtain ⟨value, hvalue, hread⟩ := required_eq_some h
  rw [hvalue, readText_eq_some hread]

theorem mapM_readStr {values : List Json} {texts : List String}
    (h : values.mapM readStr = some texts) : values = texts.map .str := by
  induction values generalizing texts with
  | nil =>
    cases h
    rfl
  | cons value values ih =>
    rw [List.mapM_cons] at h
    obtain ⟨text, htext, h⟩ := Option.bind_eq_some_iff.mp h
    obtain ⟨rest, hrest, h⟩ := Option.bind_eq_some_iff.mp h
    cases h
    rw [List.map_cons, ← ih hrest, readStr_eq_some htext]

theorem readRoles_eq_some {roles : { uris : List String // uris ≠ [] }}
    (h : readRoles value = some roles) : value = .arr (roles.val.map .str) := by
  obtain ⟨uris, huris, hne⟩ := Option.bind_eq_some_iff.mp h
  split at hne
  case isFalse => exact nomatch hne
  case isTrue =>
    cases hne
    cases value with
    | arr xs =>
      rw [mapM_readStr huris]
    | null | bool b | num n | str s | obj fs => exact nomatch huris

theorem readResourceLink_eq_some {link : LtiResourceLink} (h : readResourceLink value = some link) :
    ∃ fields, value = .obj fields ∧ Json.get? fields "id" = some (.str link.id) := by
  unfold readResourceLink at h
  simp only [Option.bind_eq_bind, Option.bind_eq_some_iff, Option.pure_def] at h
  obtain ⟨fields, hfields, -, -, id, hid, title, -, description, -, url, -, hlink⟩ := h
  cases hlink
  cases value with
  | obj members =>
    cases hfields
    exact ⟨fields, rfl, required_text hid⟩
  | null | bool b | num n | str s | arr xs => exact nomatch hfields

theorem forbidExtra_eq_some {names : List String} {u : Unit}
    (h : forbidExtra fields names = some u) : ∀ member ∈ fields, member.1 ∈ names := by
  unfold forbidExtra at h
  split at h
  case isFalse => exact nomatch h
  case isTrue hall =>
    intro member hmember
    exact of_decide_eq_true (List.all_eq_true.mp hall member hmember)

/-- Leaving one name out is not seen under another. -/
theorem get?_filter_ne {dropped : String} (hne : name ≠ dropped) :
    Json.get? (fields.filter (·.1 ≠ dropped)) name = Json.get? fields name := by
  unfold Json.get?
  rw [← List.filter_reverse, List.find?_filter]
  congr 2
  funext member
  by_cases hname : member.1 = name
  · simp [hname, hne]
  · simp [hname]

theorem validateIdToken_eq_some (h : validateIdToken c payload = some claims) :
    (∀ member ∈ payload, member.1 ∈ claimNames) ∧
      Json.get? payload claimIssuer = some (.str claims.issuer) ∧
      Json.get? payload claimSubject = some (.str claims.subject) ∧
      Json.get? payload claimNonce = some (.str claims.nonce) ∧
      Json.get? payload claimRoles = some (.arr (claims.roles.val.map .str)) ∧
      ∃ fields, Json.get? payload claimResourceLink = some (.obj fields) ∧
        Json.get? fields "id" = some (.str claims.resourceLink.id) := by
  -- The fields in the order the model declares them; what is not claimed below is dropped.
  unfold validateIdToken at h
  obtain ⟨done, hnames, h⟩ := Option.bind_eq_some_iff.mp h
  obtain ⟨issuer, hissuer, h⟩ := Option.bind_eq_some_iff.mp h
  obtain ⟨subject, hsubject, h⟩ := Option.bind_eq_some_iff.mp h
  obtain ⟨audience, -, h⟩ := Option.bind_eq_some_iff.mp h
  obtain ⟨expiresAt, -, h⟩ := Option.bind_eq_some_iff.mp h
  obtain ⟨issuedAt, -, h⟩ := Option.bind_eq_some_iff.mp h
  obtain ⟨nonce, hnonce, h⟩ := Option.bind_eq_some_iff.mp h
  obtain ⟨messageType, -, h⟩ := Option.bind_eq_some_iff.mp h
  obtain ⟨version, -, h⟩ := Option.bind_eq_some_iff.mp h
  obtain ⟨deploymentId, -, h⟩ := Option.bind_eq_some_iff.mp h
  obtain ⟨roles, hroles, h⟩ := Option.bind_eq_some_iff.mp h
  obtain ⟨context, -, h⟩ := Option.bind_eq_some_iff.mp h
  obtain ⟨link, hlink, h⟩ := Option.bind_eq_some_iff.mp h
  obtain ⟨platform, -, h⟩ := Option.bind_eq_some_iff.mp h
  obtain ⟨target, -, h⟩ := Option.bind_eq_some_iff.mp h
  obtain ⟨custom, -, h⟩ := Option.bind_eq_some_iff.mp h
  obtain ⟨name, -, h⟩ := Option.bind_eq_some_iff.mp h
  obtain ⟨email, -, h⟩ := Option.bind_eq_some_iff.mp h
  obtain ⟨preferred, -, h⟩ := Option.bind_eq_some_iff.mp h
  cases h
  obtain ⟨rolesValue, hrolesGet, hrolesRead⟩ := required_eq_some hroles
  obtain ⟨linkValue, hlinkGet, hlinkRead⟩ := required_eq_some hlink
  obtain ⟨fields, rfl, hid⟩ := readResourceLink_eq_some hlinkRead
  refine ⟨forbidExtra_eq_some hnames, required_text hissuer, required_text hsubject,
    required_text hnonce, ?_, fields, hlinkGet, hid⟩
  rw [hrolesGet, readRoles_eq_some hrolesRead]

theorem fromJwtPayload_ok (h : fromJwtPayload c payload = .ok claims) :
    validateIdToken c payload = some claims ∧ claims.version = ltiVersion ∧
      claims.messageType = resourceLinkRequest := by
  unfold fromJwtPayload at h
  split at h
  case h_1 => exact nomatch h
  case h_2 claims' hvalid =>
    split at h
    case isTrue => exact nomatch h
    case isFalse hversion =>
      split at h
      case isTrue htype =>
        cases h
        exact ⟨hvalid, not_not.mp hversion, htype⟩
      case isFalse =>
        split at h
        case isTrue => exact nomatch h
        case isFalse => exact nomatch h

/-- **A launch that is let through says what its payload says, and nothing in the payload was
    passed over.** -/
theorem readClaims_ok (h : readClaims c payload = .ok claims) : Reads payload claims := by
  unfold readClaims at h
  split at h
  case h_1 => exact nomatch h
  case h_2 claims' hclaims =>
    split at h
    case h_1 => exact nomatch h
    case h_2 policy hpolicy =>
      cases h
      obtain ⟨hvalid, hversion, htype⟩ := fromJwtPayload_ok hclaims
      obtain ⟨hnames, hissuer, hsubject, hnonce, hroles, fields, hlink, hid⟩ :=
        validateIdToken_eq_some hvalid
      have hstate : ∀ {name}, name ≠ "state" →
          Json.get? (payload.filter (·.1 ≠ "state")) name = Json.get? payload name :=
        get?_filter_ne
      rw [hstate (by decide)] at hissuer hsubject hnonce hroles hlink
      obtain ⟨hpolicyName, hpolicyNe⟩ := Option.filter_eq_some_iff.mp hpolicy
      refine ⟨?_, hissuer, hsubject, hnonce, hroles, ⟨fields, hlink, hid⟩, hversion, htype,
        policy, by simpa using hpolicyNe, hpolicyName⟩
      intro member hmember
      by_cases hname : member.1 = "state"
      · exact .inl hname
      · exact .inr (hnames member (List.mem_filter.mpr ⟨hmember, by simpa using hname⟩))

end

end ProctorEngine.Lti
