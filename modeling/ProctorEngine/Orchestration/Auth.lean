import ProctorEngine.Evidence.Service
import ProctorEngine.Lti.SessionToken
import ProctorEngine.Uuid

/-!
# Authorization

The three dependencies of the orchestration routes: the internal credential, an
administrator's session token, and the session's owner or an administrator. A token names a
participant; an administrator is the `admin_users` row of the participant's identity. **The
role that opens the door is the token's, the row is whatever the identity resolves to**; its
`retired_at` is not looked at.
-/

set_option autoImplicit false

namespace ProctorEngine

open Lti (Jwt AppRole decodeSessionToken)

/-- The closed error codes of the layer. -/
inductive AuthError where
  | internalTokenRequired
  | internalTokenInvalid
  | sessionTokenRequired
  | sessionTokenInvalid
  | sessionTokenExpired
  | notAuthorized
  | sessionNotFound
deriving DecidableEq, Repr

/-! ## 1. Credentials -/

/-- The characters `str.strip` removes, as far as a header can hold them. -/
def isSpace (c : Char) : Bool :=
  c.toNat ∈ [9, 10, 11, 12, 13, 28, 29, 30, 31, 32, 133, 160]

/-- `str.strip`, of a class of characters. -/
def strip (p : Char → Bool) (cs : List Char) : List Char :=
  ((cs.dropWhile p).reverse.dropWhile p).reverse

/-- The scheme is taken in any case, and what is left of the header is the token, without the spaces
    around it. -/
def parseBearer : Option String → Option String
  | none => none
  | some authorization =>
    match authorization.toList.dropWhile (· ≠ ' ') with
    -- no blank to split at
    | [] => none
    | _ :: rest =>
      if (authorization.toList.takeWhile (· ≠ ' ')).map Char.toLower ≠ "bearer".toList then none
      else if strip isSpace rest = [] then none
      else some (String.ofList (strip isSpace rest))

def requireInternalTerminateToken (internalTerminateToken : String)
    (authorization : Option String) : Except AuthError Unit :=
  match parseBearer authorization with
  | none => .error .internalTokenRequired
  | some token =>
    if token = internalTerminateToken then .ok () else .error .internalTokenInvalid

/-- `_decode_or_raise`. -/
def decodeOrRaise (jwt : Jwt) (now : DateTime) (authorization : Option String) :
    Except AuthError Lti.SessionClaims :=
  match parseBearer authorization with
  | none => .error .sessionTokenRequired
  | some token =>
    match decodeSessionToken jwt now token with
    | .error .expired => .error .sessionTokenExpired
    | .error .invalid => .error .sessionTokenInvalid
    | .ok claims => .ok claims

/-! ## 2. Identities -/

/-- `_ADMIN_ROLES`. -/
def adminRoles : List AppRole := [.admin, .instructor, .proctor]

/-- `db.get(Participant, id)`. -/
def Database.getParticipant (db : Database) (id : UUID) : Option Participant :=
  db.participants.find? fun p => p.id = id

/-- `_load_admin_user`. The token names a participant, and the administrator is the one with the
    same issuer and reference. The role that counts is the one of the row. -/
def loadAdminUser (db : Database) (claims : Lti.SessionClaims) : Except AuthError AdminUser :=
  match parseUuid claims.subject with
  | none => .error .notAuthorized
  | some id =>
    match db.getParticipant id with
    | none => .error .notAuthorized
    | some participant =>
      match db.adminUsers.find? fun a => a.ltiIssuer = participant.ltiIssuer ∧
        a.lmsUserReference = participant.lmsUserReference with
      | none => .error .notAuthorized
      | some admin => .ok admin

def requireAdminRole (jwt : Jwt) (now : DateTime) (db : Database) (authorization : Option String) :
    Except AuthError AdminUser :=
  match decodeOrRaise jwt now authorization with
  | .error e => .error e
  | .ok claims =>
    if claims.role ∉ adminRoles then .error .notAuthorized else loadAdminUser db claims

/-- A session is shown to administrators and to the participant it belongs to. Whether it exists is
    answered before whether it may be seen. -/
def requireSessionOwnerOrAdmin (jwt : Jwt) (now : DateTime) (db : Database) (sessionId : String)
    (authorization : Option String) : Except AuthError ExamSession :=
  match decodeOrRaise jwt now authorization with
  | .error e => .error e
  | .ok claims =>
    match (parseUuid sessionId).bind db.getExamSession with
    | none => .error .sessionNotFound
    | some session =>
      if claims.role ∈ adminRoles then .ok session
      else if claims.role = .learner ∧ session.participantId.str = claims.subject then
        .ok session
      else .error .notAuthorized

section
variable {jwt : Jwt} {now : DateTime} {db : Database} {authorization : Option String}
  {admin : AdminUser}

/-- Whoever gets through is in the table. -/
theorem mem_of_requireAdminRole (h : requireAdminRole jwt now db authorization = .ok admin) :
    admin ∈ db.adminUsers := by
  unfold requireAdminRole loadAdminUser at h
  repeat' split at h
  all_goals cases h
  rename_i hfind
  exact Table.mem_of_find?_eq_some hfind

/-- No session token, no administrator. -/
theorem requireAdminRole_error {e : AuthError}
    (h : decodeOrRaise jwt now authorization = .error e) :
    requireAdminRole jwt now db authorization = .error e := by
  rw [requireAdminRole, h]

end

end ProctorEngine
