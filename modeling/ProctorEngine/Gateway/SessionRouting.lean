import ProctorEngine.Lti.IssuedToken
import ProctorEngine.Websocket.Subprotocol

/-!
# `extractSessionId`

The gateway finds the session id of a connection for itself: it splits and trims the header the way
JavaScript does, decodes the middle segment of the token and reads it as JSON, without the secret.
Every step has its counterpart at the origin, or in what the token was made by, and **the two agree
but for one**: Python strips the separators U+001C to U+001F and the control character U+0085, and
JavaScript does not. An offer that is led by one of these is an offer of the engine's for the
origin, and none for the gateway.

The characters of a header are those of bytes, so of all that JavaScript trims only what is in that
range counts, and Python strips all of it. The other direction fails, but only the start of an offer
is concerned: what stands behind the token does not matter, for the middle segment ends at a dot and
the signature is behind it.

The origin has accepted the connection, so it has found exactly one offer of the engine's in the
header; the gateway looks through the offers from the front, and all but that one yield nothing to
it.
-/

set_option autoImplicit false

namespace ProctorEngine
namespace Gateway

open JsonText Lti Websocket

/-! ## 1. The gateway's reading

The functions of the worker in the order of the calls, and where `fetch` sends the request. -/

/-- The characters `String.prototype.trim` takes. -/
def javaScriptSpaces : List Nat :=
  [0x09, 0x0a, 0x0b, 0x0c, 0x0d, 0x20, 0xa0, 0x1680, 0x2000, 0x2001, 0x2002, 0x2003, 0x2004,
    0x2005, 0x2006, 0x2007, 0x2008, 0x2009, 0x200a, 0x2028, 0x2029, 0x202f, 0x205f, 0x3000, 0xfeff]

def isJavaScriptSpace (c : Char) : Bool := c.toNat ∈ javaScriptSpaces

/-- `String.prototype.trim` -/
def trim (cs : List Char) : List Char := Trim.trim isJavaScriptSpace cs

/-- What `extractSessionId` reads of a request: the header, and `session_id` of the query. -/
structure RoutingRequest where
  secWebSocketProtocol : Option HeaderValue
  querySessionId : Option Units

/-- `parsed.sid` if that is a string, else `parsed.session_id` if that is one. Of a value that is
    no object neither is there. -/
def sidOf (parsed : Value) : Option Units :=
  match parsed.member? (utf16 "sid") with
  | some (.str sid) => some sid
  | _ =>
    match parsed.member? (utf16 "session_id") with
    | some (.str sid) => some sid
    | _ => none

/-- The session id of a token, without a look at its signature. An empty one is none. -/
def tokenSessionId (rawToken : List Char) : Option Units :=
  match rawToken.splitOn '.' with
  | _ :: base64Url :: _ => do
    let data ← Base64.forgivingDecode (base64Url.map Base64.toStandard)
    let parsed ← parse (latin1 data)
    (sidOf parsed).filter (· ≠ [])
  | _ => none

/-- What one offered subprotocol yields. -/
def protocolSessionId (protocol : List Char) : Option Units :=
  if subprotocolPrefix.isPrefixOf protocol then
    tokenSessionId (protocol.drop subprotocolPrefix.length)
  else none

/-- The `session_id` of the query, in development and in tests. -/
def fallbackSessionId (request : RoutingRequest) (environment : Option String) : Option Units :=
  if environment = some "development" ∨ environment = some "test" then
    request.querySessionId.filter (· ≠ [])
  else none

def extractSessionId (request : RoutingRequest) (environment : Option String) : Option Units :=
  (request.secWebSocketProtocol.bind fun header =>
    ((header.chars.splitOn ',').map trim).findSome? protocolSessionId).or
    (fallbackSessionId request environment)

/-- Where `fetch` sends a connection. -/
inductive Routing where
  /-- 400, `session_id_missing`. -/
  | sessionIdMissing
  /-- The Durable Object of this name. -/
  | durableObject (name : Units)
deriving DecidableEq

/-- The `/ws` branch of `fetch`. -/
def route (request : RoutingRequest) (environment : Option String) : Routing :=
  match extractSessionId request environment with
  | none | some [] => .sessionIdMissing
  | some sessionId => .durableObject sessionId

/-! ## 2. Two readings of one header

The same segments, trimmed twice. -/

/-- No offer of the engine's is led by a blank that is one for Python only. -/
def LeadsAlike (raw : HeaderValue) : Prop :=
  ∀ segment ∈ raw.chars.splitOn ',', subprotocolPrefix <+: pyStrip segment →
    Trim.Leads isJavaScriptSpace isPythonSpace segment

instance (raw : HeaderValue) : Decidable (LeadsAlike raw) :=
  inferInstanceAs (Decidable (∀ segment ∈ raw.chars.splitOn ',',
    subprotocolPrefix <+: pyStrip segment →
      Trim.Leads isJavaScriptSpace isPythonSpace segment))

section
variable {raw : HeaderValue} {segment token : List Char}

/-- Of the characters of a header, Python strips all that JavaScript trims. -/
theorem isPythonSpace_of_isJavaScriptSpace {c : Char} (hc : c.toNat < 256)
    (h : isJavaScriptSpace c = true) : isPythonSpace c = true := by
  have hspaces : ∀ n ∈ javaScriptSpaces, n < 256 → n ∈ pythonSpaces := by decide
  unfold isPythonSpace isJavaScriptSpace at *
  simpa using hspaces c.toNat (by simpa using h) hc

theorem mem_of_mem_splitOn {sep c : Char} {cs : List Char} (hsegment : segment ∈ cs.splitOn sep)
    (hc : c ∈ segment) : c ∈ cs := by
  induction cs generalizing segment with
  | nil =>
    rw [List.splitOn_nil, List.mem_singleton] at hsegment
    rwa [hsegment] at hc
  | cons c' cs ih =>
    rw [List.splitOn_cons_eq_if_modifyHead] at hsegment
    split at hsegment
    · obtain rfl | hsegment := List.mem_cons.mp hsegment
      · exact absurd hc List.not_mem_nil
      · exact List.mem_cons_of_mem c' (ih hsegment hc)
    · cases hsplit : cs.splitOn sep with
      | nil => exact absurd hsplit (List.splitOn_ne_nil sep cs)
      | cons first rest =>
        rw [hsplit, List.modifyHead_cons] at hsegment
        obtain rfl | hsegment := List.mem_cons.mp hsegment
        · obtain rfl | hc := List.mem_cons.mp hc
          · exact List.mem_cons_self
          · exact List.mem_cons_of_mem c' (ih (hsplit ▸ List.mem_cons_self) hc)
        · exact List.mem_cons_of_mem c'
            (ih (hsplit ▸ List.mem_cons_of_mem first hsegment) hc)

/-- The gateway sees an offer of the engine's where the origin does, and nothing leads it. -/
theorem prefix_trim_segment_iff (hsegment : segment ∈ raw.chars.splitOn ',') :
    subprotocolPrefix <+: trim segment ↔
      subprotocolPrefix <+: pyStrip segment ∧
        Trim.Leads isJavaScriptSpace isPythonSpace segment := by
  apply Trim.prefix_trim_iff
  · intro c hc
    exact isPythonSpace_of_isJavaScriptSpace (raw.isByte c (mem_of_mem_splitOn hsegment hc))
  · exact List.cons_ne_nil _ _
  · intro c hc
    obtain rfl : 'p' = c := Option.some.inj hc
    decide
  · intro c hc
    obtain rfl : '.' = c := Option.some.inj hc
    decide

/-- A segment without a visible offer yields nothing. -/
theorem protocolSessionId_of_not (h : ¬ subprotocolPrefix <+: segment) :
    protocolSessionId segment = none :=
  if_neg fun hprefix => h (List.isPrefixOf_iff_prefix.mp hprefix)

theorem protocolSessionId_append :
    protocolSessionId (subprotocolPrefix ++ token) = tokenSessionId token := by
  unfold protocolSessionId
  rw [if_pos (List.isPrefixOf_iff_prefix.mpr (List.prefix_append _ _)), List.drop_left]

/-- The loop over the offers, where all but one yield nothing. -/
theorem findSome?_eq {segments : List (List Char)} {f : List Char → Option Units}
    (hmem : segment ∈ segments) (hothers : ∀ other ∈ segments, other ≠ segment → f other = none) :
    segments.findSome? f = f segment := by
  induction segments with
  | nil => exact absurd hmem List.not_mem_nil
  | cons first rest ih =>
    have hrest := fun other hother => hothers other (List.mem_cons_of_mem first hother)
    rw [List.findSome?_cons]
    by_cases hfirst : first = segment
    · subst hfirst
      cases hf : f first with
      | some sid => rfl
      | none =>
        rw [List.findSome?_eq_none_iff]
        intro other hother
        by_cases heq : other = first
        · rw [heq, hf]
        · exact hrest other hother heq
    · rw [hothers first List.mem_cons_self hfirst]
      exact ih ((List.mem_cons.mp hmem).resolve_left (Ne.symm hfirst)) hrest

end

/-! ## 3. Tokens

The payload goes through the writer of JSON, the URL-safe base64 without padding, and comes back
through the forgiving decoder and the reader. -/

section
variable {encoder : JwtEncoder} {settings : SessionTokenSettings}
  {participantId examSessionId jti : UUID} {role : AppRole} {issuedAt : DateTime}

theorem sidOf_sessionPayload :
    sidOf (.obj (readFields
      (sessionPayload settings participantId examSessionId role issuedAt jti))) =
        some (utf16 (uuidStr examSessionId)) := by
  have hnames : ∀ name ∈ ["jti", "exp", "iat", "aud", "iss", "role"],
      utf16 name ≠ utf16 "sid" := by decide
  have hmember : (Value.obj (readFields
      (sessionPayload settings participantId examSessionId role issuedAt jti))).member?
        (utf16 "sid") = some (.str (utf16 (uuidStr examSessionId))) := by
    simp [Value.member?, readFields, sessionPayload, Scalar.read, hnames]
  unfold sidOf
  rw [hmember]

/-- **The middle segment of an issued token gives the session id away**, whatever follows it. -/
theorem tokenSessionId_issued (signature : List Char) :
    tokenSessionId (encoder.signingInput
        (sessionPayload settings participantId examSessionId role issuedAt jti) ++
          '.' :: signature) = some (utf16 (uuidStr examSessionId)) := by
  have hascii := isAscii_writeObject
    (sessionPayload settings participantId examSessionId role issuedAt jti)
  have hbytes := utf8_lt hascii
  unfold tokenSessionId JwtEncoder.signingInput
  rw [List.append_assoc, List.cons_append,
    List.splitOn_append_cons_self_of_not_mem encoder.headerNoDot,
    List.splitOn_append_cons_self_of_not_mem (Base64.dot_not_mem_urlEncode hbytes)]
  dsimp only
  rw [Base64.forgivingDecode_urlEncode hbytes]
  dsimp only [Option.bind_eq_bind, Option.bind_some]
  rw [latin1_utf8 hascii, parse_writeObject]
  dsimp only [Option.bind_some]
  rw [sidOf_sessionPayload]
  exact Option.filter_eq_some_iff.mpr ⟨rfl, by simpa using utf16_uuidStr_ne_nil examSessionId⟩

end

/-! ## 4. Accepted connections

What is assumed of the library is that it returns the payload it was given to encode, for a token it
takes to be good. -/

/-- A connection whose token the origin extracts and accepts, the token being one that
    `issue_session_token` has issued. The library takes whatever follows the last dot for the
    signature, and returns the payload that was encoded. -/
structure AcceptedConnection (encoder : JwtEncoder) (jwt : Jwt) where
  header : HeaderValue
  querySessionId : Option Units
  token : List Char
  now : DateTime
  claims : Lti.SessionClaims
  settings : SessionTokenSettings
  participantId : UUID
  examSessionId : UUID
  role : AppRole
  issuedAt : DateTime
  jti : UUID
  signature : List Char
  extracted : extractTokenFromSubprotocol (some header) = some token
  issued : token = encoder.signingInput
    (sessionPayload settings participantId examSessionId role issuedAt jti) ++ '.' :: signature
  verified : jwt.decode now (String.ofList token) =
    .ok (toDict (sessionPayload settings participantId examSessionId role issuedAt jti))
  accepted : decodeSessionToken jwt now (String.ofList token) = .ok claims

namespace AcceptedConnection

variable {encoder : JwtEncoder} {jwt : Jwt}

def request (c : AcceptedConnection encoder jwt) : RoutingRequest :=
  ⟨some c.header, c.querySessionId⟩

theorem sessionId_eq (c : AcceptedConnection encoder jwt) :
    c.claims.sessionId = uuidStr c.examSessionId := by
  have haccepted := c.accepted
  unfold decodeSessionToken at haccepted
  rw [c.verified] at haccepted
  dsimp only at haccepted
  split at haccepted
  case h_1 => exact nomatch haccepted
  case h_2 claims hclaims =>
    cases haccepted
    exact claimsFromPayload_sessionId hclaims

/-- Of the offers of the header only the one with the token yields anything, and it yields the
    session id where the two trims see the same beginning. -/
theorem findSome?_protocols (c : AcceptedConnection encoder jwt) :
    (LeadsAlike c.header →
        ((c.header.chars.splitOn ',').map trim).findSome? protocolSessionId =
          some (utf16 (uuidStr c.examSessionId))) ∧
      (¬ LeadsAlike c.header →
        ((c.header.chars.splitOn ',').map trim).findSome? protocolSessionId = none) := by
  obtain ⟨segment, hsegment, hstrip, honly⟩ :=
    extractTokenFromSubprotocol_eq_some c.extracted
  have hoffered : subprotocolPrefix <+: pyStrip segment := hstrip ▸ List.prefix_append _ _
  have hothers : ∀ other ∈ c.header.chars.splitOn ',', other ≠ segment →
      (protocolSessionId ∘ trim) other = none := by
    intro other hother hne
    apply protocolSessionId_of_not
    intro hvisible
    exact hne (honly other hother ((prefix_trim_segment_iff hother).mp hvisible).1)
  -- Only the segment the server took its token from offers the prefix; the rest give nothing.
  rw [List.findSome?_map, findSome?_eq hsegment hothers]
  constructor
  · intro hleads
    have hlead := hleads segment hsegment hoffered
    have hblank : ∀ x ∈ segment, isJavaScriptSpace x = true → isPythonSpace x = true :=
      fun x hx => isPythonSpace_of_isJavaScriptSpace
        (c.header.isByte x (mem_of_mem_splitOn hsegment hx))
    obtain ⟨blanks, hblanks, -⟩ := hlead.trim_eq_append hblank
    have htrim : trim segment = subprotocolPrefix ++ (c.token ++ blanks) := by
      unfold trim
      rw [hblanks, ← List.append_assoc, ← hstrip]
      rfl
    show protocolSessionId (trim segment) = _
    rw [htrim, protocolSessionId_append, c.issued, List.append_assoc, List.cons_append]
    exact tokenSessionId_issued (c.signature ++ blanks)
  · intro hleads
    apply protocolSessionId_of_not
    intro hvisible
    apply hleads
    intro other hother hoffer
    rw [honly other hother hoffer]
    exact ((prefix_trim_segment_iff hsegment).mp hvisible).2

theorem extractSessionId_eq (c : AcceptedConnection encoder jwt) (environment : Option String) :
    (LeadsAlike c.header →
        extractSessionId c.request environment = some (utf16 c.claims.sessionId)) ∧
      (¬ LeadsAlike c.header →
        extractSessionId c.request environment = fallbackSessionId c.request environment) := by
  obtain ⟨hfound, hnone⟩ := c.findSome?_protocols
  rw [c.sessionId_eq]
  constructor
  · intro hleads
    show (((c.header.chars.splitOn ',').map trim).findSome? protocolSessionId).or _ = _
    rw [hfound hleads]
    rfl
  · intro hleads
    show (((c.header.chars.splitOn ',').map trim).findSome? protocolSessionId).or _ = _
    rw [hnone hleads]
    rfl

theorem route_eq (c : AcceptedConnection encoder jwt) (environment : Option String)
    (hleads : LeadsAlike c.header) :
    route c.request environment = .durableObject (utf16 (uuidStr c.examSessionId)) := by
  have hextract := (c.extractSessionId_eq environment).1 hleads
  rw [c.sessionId_eq] at hextract
  unfold route
  rw [hextract]
  cases hunits : utf16 (uuidStr c.examSessionId) with
  | nil => exact absurd hunits (utf16_uuidStr_ne_nil c.examSessionId)
  | cons u us => rfl

end AcceptedConnection

/-- **The gateway agrees with the origin** on the session id of every accepted connection whose
    offer is led by no blank that is one for Python only: it is sent to the Durable Object of the
    session it was issued for, which is another session's only if the sessions are one. Where
    such a blank leads the offer the gateway finds no token. -/
theorem routing_agrees {encoder : JwtEncoder} {jwt : Jwt} (c : AcceptedConnection encoder jwt)
    (environment : Option String) :
    (LeadsAlike c.header →
        extractSessionId c.request environment = some (utf16 c.claims.sessionId) ∧
          ∀ (d : AcceptedConnection encoder jwt) (environment' : Option String),
            LeadsAlike d.header →
              (route c.request environment = route d.request environment' ↔
                c.examSessionId = d.examSessionId)) ∧
      (¬ LeadsAlike c.header →
        extractSessionId c.request environment = fallbackSessionId c.request environment) := by
  obtain ⟨hagrees, hfallback⟩ := c.extractSessionId_eq environment
  refine ⟨fun hleads => ⟨hagrees hleads, fun d environment' hleads' => ?_⟩, hfallback⟩
  rw [c.route_eq environment hleads, d.route_eq environment' hleads', Routing.durableObject.injEq]
  exact ⟨utf16_uuidStr_injective, fun h => h ▸ rfl⟩

/-! ## 5. A launch

A token of the engine behind another offer, and behind a blank that only Python strips. -/

def launchEncoder : JwtEncoder where
  header := ['e', '3', '0']
  signature _ _ := ['s', 'i', 'g']
  headerNoDot := by decide
  signatureNoDot _ _ := by decide

def launchSettings : SessionTokenSettings :=
  ⟨"0123456789abcdef0123456789abcdef", "proctor", "ws", 14400⟩

def launchPayload : List (String × Scalar) := sessionPayload launchSettings 1 2 .learner 0 3

def launchToken : List Char := issueSessionToken launchEncoder launchSettings 1 2 .learner 0 3

/-- A library that knows this token, for the four hours it is good for. -/
def launchLibrary : Jwt :=
  Jwt.issued (String.ofList launchToken) (toDict launchPayload) 14400000000

/-- A connection with the token of the launch in its header. -/
def launchConnection (header : HeaderValue)
    (h : extractTokenFromSubprotocol (some header) = some launchToken) :
    AcceptedConnection launchEncoder launchLibrary where
  header := header
  querySessionId := none
  token := launchToken
  now := 0
  claims := ⟨uuidStr 1, uuidStr 2, .learner, "proctor", "ws", 0, 14400, uuidStr 3⟩
  settings := launchSettings
  participantId := 1
  examSessionId := 2
  role := .learner
  issuedAt := 0
  jti := 3
  signature := ['s', 'i', 'g']
  extracted := h
  issued := rfl
  verified := by simp [launchLibrary, launchPayload, Jwt.issued]
  accepted := by
    have hdecode : launchLibrary.decode 0 (String.ofList launchToken) =
        .ok (toDict launchPayload) := by
      simp [launchLibrary, Jwt.issued]
    have hclaims : claimsFromPayload launchLibrary (toDict launchPayload) =
        some ⟨uuidStr 1, uuidStr 2, .learner, "proctor", "ws", 0, 14400, uuidStr 3⟩ :=
      claimsFromPayload_sessionPayload (by decide) (by decide)
    exact decodeSessionToken_of_claims hdecode hclaims

theorem isByte_of_all {cs : List Char} (h : cs.all (·.toNat < 256) = true) :
    ∀ c ∈ cs, c.toNat < 256 := by
  intro c hc
  exact of_decide_eq_true (List.all_eq_true.mp h c hc)

/-- Another offer, a comma and a blank before the offer of the engine's. -/
def offeredHeader : HeaderValue where
  chars := ['c', 'h', 'a', 't', ',', ' '] ++ subprotocolPrefix ++ launchToken
  isByte := isByte_of_all (by decide +kernel)

/-- A control character that Python takes for whitespace before it. -/
def ledHeader : HeaderValue where
  chars := Char.ofNat 0x85 :: (subprotocolPrefix ++ launchToken)
  isByte := isByte_of_all (by decide +kernel)

theorem offeredHeader_extracted :
    extractTokenFromSubprotocol (some offeredHeader) = some launchToken := by decide +kernel

theorem ledHeader_extracted :
    extractTokenFromSubprotocol (some ledHeader) = some launchToken := by decide +kernel

theorem routing_agrees_offered :
    extractSessionId (launchConnection offeredHeader offeredHeader_extracted).request none =
      some (utf16 (uuidStr 2)) :=
  ((routing_agrees (launchConnection offeredHeader offeredHeader_extracted) none).1
    (by decide +kernel)).1

/-- The origin accepts the connection, and the gateway finds no session id in it. -/
theorem ledHeader_not_agrees :
    extractSessionId (launchConnection ledHeader ledHeader_extracted).request none ≠
      some (utf16 (launchConnection ledHeader ledHeader_extracted).claims.sessionId) := by
  decide +kernel

end Gateway
end ProctorEngine
