import ProctorEngine.Models

/-!
# Session tokens

The HS256 token a launch issues, from the side that decodes it: `jwt.decode` verifies and
requires eight claims, and `_claims_from_payload` reads them. **A role is one of four or the
token is invalid.** Signature, expiry and the registered claims are the library's.
-/

set_option autoImplicit false

namespace ProctorEngine
namespace Lti

inductive AppRole where
  | learner | instructor | admin | proctor
deriving DecidableEq, Repr

/-- `AppRole(value)`, which raises on any other string. -/
def AppRole.ofValue? : String → Option AppRole
  | "learner" => some .learner
  | "instructor" => some .instructor
  | "admin" => some .admin
  | "proctor" => some .proctor
  | _ => none

structure SessionClaims where
  subject : String
  sessionId : String
  role : AppRole
  issuer : String
  audience : String
  issuedAt : Int
  expiresAt : Int
  jti : String
deriving DecidableEq, Repr

inductive SessionTokenError where
  | expired
  | invalid
deriving DecidableEq, Repr

/-- The library and the conversions applied to what it returns. -/
structure Jwt where
  /-- `jwt.decode` at a time, with the settings' secret, issuer and audience. -/
  decode : DateTime → String → Except SessionTokenError Dict
  /-- `str(value)`. -/
  str : Json → String
  /-- `datetime.fromtimestamp(int(value))`. -/
  timestamp : Json → Option Int
  str_str : ∀ s, str (.str s) = s

/-- `_claims_from_payload`. Every claim has to be there. The texts are `str` of whatever stands in
    the payload, so only the role and the two times can be refused. -/
def claimsFromPayload (jwt : Jwt) (payload : Dict) : Option SessionClaims := do
  let subject ← Json.get? payload "sub"
  let sessionId ← Json.get? payload "sid"
  let role ← AppRole.ofValue? (jwt.str (← Json.get? payload "role"))
  let issuedAt ← jwt.timestamp (← Json.get? payload "iat")
  let expiresAt ← jwt.timestamp (← Json.get? payload "exp")
  let issuer ← Json.get? payload "iss"
  let audience ← Json.get? payload "aud"
  let jti ← Json.get? payload "jti"
  return {
    subject := jwt.str subject
    sessionId := jwt.str sessionId
    role := role
    issuer := jwt.str issuer
    audience := jwt.str audience
    issuedAt := issuedAt
    expiresAt := expiresAt
    jti := jwt.str jti }

def decodeSessionToken (jwt : Jwt) (now : DateTime) (token : String) :
    Except SessionTokenError SessionClaims :=
  match jwt.decode now token with
  | .error e => .error e
  | .ok payload =>
    match claimsFromPayload jwt payload with
    | none => .error .invalid
    | some claims => .ok claims

/-- A library that has issued one token, valid until a time. -/
def Jwt.issued (token : String) (payload : Dict) (expiresAt : DateTime) : Jwt where
  decode now presented :=
    if presented ≠ token then .error .invalid
    else if expiresAt ≤ now then .error .expired
    else .ok payload
  str
    | .str s => s
    | _ => ""
  timestamp
    | .num n => some n.floor
    | _ => none
  str_str _ := rfl

end Lti
end ProctorEngine
