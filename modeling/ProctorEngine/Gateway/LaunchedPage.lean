import ProctorEngine.Browser.Envelope
import ProctorEngine.Browser.Redirect
import ProctorEngine.Gateway.SessionRouting
import ProctorEngine.Lti.Redirects
import ProctorEngine.Uuid

/-!
# From a launch to its session

A launch leaves the origin as the text of a redirect and comes back as the header of a handshake. In
between are a URL parser, a form parser, the constructor of a `WebSocket`, the gateway and the
origin's own reading of the header, and none of them knows of the others. The token and the id pass
through all of them because of their alphabet: **no reader on the way has anything to escape, to
trim or to cut**.

The alphabet of a token is partly the library's. Its payload is base64url by the code here, but the
header and the signature are what the encoder makes of them, so `IsUrlSafe` is asked of the encoder.
The surface URL is the deployment's, and is asked to have no `#` of its own.

The rest is a chain of equations, one a reader, and `launched_page_reaches_session` is the chain.
-/

set_option autoImplicit false

namespace ProctorEngine
namespace Gateway

open JsonText Lti Websocket Browser UrlEncoded

/-! ## 1. The launch and the page

A launch is what `process_launch` hands to `issue_session_token` and to the redirect. The header is
a value only where the constructor of the socket does not throw. -/

structure Launch where
  settings : SessionTokenSettings
  urls : SurfaceUrls
  participantId : UUID
  examSessionId : UUID
  role : AppRole
  issuedAt : DateTime
  jti : UUID

namespace Launch

variable (l : Launch)

def payload : List (String × Scalar) :=
  sessionPayload l.settings l.participantId l.examSessionId l.role l.issuedAt l.jti

def token (encoder : JwtEncoder) : List Char :=
  issueSessionToken encoder l.settings l.participantId l.examSessionId l.role l.issuedAt l.jti

def redirectUrl (encoder : JwtEncoder) : List Char :=
  Lti.redirectUrl l.urls l.role (l.token encoder) l.examSessionId

end Launch

/-- The segments of a token are in an alphabet that needs no escaping. -/
def IsUrlSafe (encoder : JwtEncoder) : Prop :=
  encoder.header.all isUnreserved = true ∧
    ∀ secret input, (encoder.signature secret input).all isUnreserved = true

/-- A character that may stand in the name of a subprotocol. -/
def isTokenChar (c : Char) : Bool :=
  c.isAlphanum ||
    c ∈ ['!', '#', '$', '%', '&', '*', '+', '-', '.', '^', '_', '|', '~', '\x27', '\x60']

theorem isTokenChar_lt {c : Char} (h : isTokenChar c = true) : c.toNat < 256 := by
  unfold isTokenChar at h
  rw [Bool.or_eq_true, decide_eq_true_eq] at h
  rcases h with h | h
  · exact Nat.lt_trans (isAlphanum_lt h) (by decide)
  · simp only [List.mem_cons, List.not_mem_nil, or_false] at h
    rcases h with rfl | rfl | rfl | rfl | rfl | rfl | rfl | rfl | rfl | rfl | rfl | rfl | rfl |
      rfl | rfl
    all_goals decide

/-- The header of the handshake `WsClient.connect` begins. The constructor of `WebSocket` throws
    where the name of the subprotocol is not one. -/
def openingHeader (sessionToken : List Char) : Option HeaderValue :=
  if h : (subprotocolPrefix ++ sessionToken).all isTokenChar = true then
    some ⟨subprotocolPrefix ++ sessionToken,
      fun c hc => isTokenChar_lt (List.all_eq_true.mp h c hc)⟩
  else none

/-! ## 2. Texts that need no escaping

One lemma a reader: a character of the alphabet is a token character, no space of Python's, and
escaped by no fragment. -/

section
variable {c : Char} {cs token : List Char} {encoder : JwtEncoder} {l : Launch} {u : UUID}

theorem isUnreserved_urlChar : ∀ n < 64, isUnreserved (Base64.urlChar n) = true := by decide

theorem isUnreserved_digitChar : ∀ d < 16, isUnreserved (Nat.digitChar d) = true := by decide

theorem isTokenChar_of_isUnreserved (h : isUnreserved c = true) : isTokenChar c = true :=
  of_isUnreserved (P := fun c => isTokenChar c = true) (by decide) h

theorem isPythonSpace_of_isUnreserved (h : isUnreserved c = true) : isPythonSpace c = false :=
  of_isUnreserved (P := fun c => isPythonSpace c = false) (by decide) h

theorem fragmentChar_of_isUnreserved (h : isUnreserved c = true) : fragmentChar c = [c] :=
  of_isUnreserved (P := fun c => fragmentChar c = [c]) (by decide) h

theorem ne_of_isUnreserved (h : isUnreserved c = true) :
    c ≠ '&' ∧ c ≠ '=' ∧ c ≠ '%' ∧ c ≠ '+' ∧ c ≠ ',' ∧ c ≠ '?' :=
  of_isUnreserved (P := fun c => c ≠ '&' ∧ c ≠ '=' ∧ c ≠ '%' ∧ c ≠ '+' ∧ c ≠ ',' ∧ c ≠ '?')
    (by decide) h

theorem isUnreserved_uuidStr : ∀ c ∈ (uuidStr u).toList, isUnreserved c = true := by
  intro c hc
  by_cases hdash : c = '-'
  · rw [hdash]
    decide
  · have hmem : c ∈ (uuidStr u).toList.filter (· ≠ '-') := by simpa [hdash] using hc
    rw [uuidStr_filter] at hmem
    obtain ⟨d, hd, rfl⟩ := mem_hexDigits hmem
    exact isUnreserved_digitChar d hd

/-- A token is in the alphabet of its segments, and the dot. -/
theorem isUnreserved_token (h : IsUrlSafe encoder) :
    ∀ c ∈ l.token encoder, isUnreserved c = true := by
  have hbytes := utf8_lt (isAscii_writeObject l.payload)
  intro c hc
  rcases List.mem_append.mp hc with hc | hc
  · rcases List.mem_append.mp hc with hc | hc
    · exact List.all_eq_true.mp h.1 c hc
    · rcases List.mem_cons.mp hc with rfl | hc
      · decide
      · obtain ⟨n, hn, rfl⟩ := List.mem_map.mp hc
        exact isUnreserved_urlChar n (Base64.sextets_lt hbytes n hn)
  · rcases List.mem_cons.mp hc with rfl | hc
    · decide
    · exact List.all_eq_true.mp (h.2 _ _) c hc

theorem token_ne_nil : l.token encoder ≠ [] := by
  simp [Launch.token, issueSessionToken, JwtEncoder.encode]

theorem uuidStr_ne_nil : (uuidStr u).toList ≠ [] := by
  intro h
  have hutf16 := utf16_uuidStr_ne_nil u
  rw [utf16_uuidStr, h] at hutf16
  exact hutf16 rfl

/-- `uuid.UUID` reads back what `str` wrote. -/
theorem parseUuid_uuidStr : parseUuid (uuidStr u) = some u := by
  -- Thirty-two hex digits of a number below 2 ^ 128 give the number back.
  have hnumber : ∀ width n, HexText.number (hexDigits width n) = n % 16 ^ width := by
    intro width
    induction width with
    | zero =>
      intro n
      exact (Nat.mod_one n).symm
    | succ width ih =>
      intro n
      have hdigit : ∀ d < 16, (HexText.value? (Nat.digitChar d)).getD 0 = d := by decide
      show HexText.number (hexDigits width (n / 16) ++ [Nat.digitChar (n % 16)]) = _
      rw [HexText.number_append_singleton, ih, hdigit _ (Nat.mod_lt n (by decide)), pow_succ,
        Nat.mul_comm (16 ^ width) 16, Nat.mod_mul, Nat.mul_comm, Nat.add_comm]
  have hlength : ∀ width n, (hexDigits width n).length = width := by
    intro width
    induction width with
    | zero => exact fun n => rfl
    | succ width ih =>
      intro n
      show (hexDigits width (n / 16) ++ [Nat.digitChar (n % 16)]).length = _
      rw [List.length_append, ih]
      rfl
  have hhex : ∀ d < 16, HexText.isDigit (Nat.digitChar d) = true := by decide
  have hparse : parseUuid (String.ofList (uuidStr u).toList) = some u := by
    refine parseUuid_of_isDigit ?_ (uuidStr_filter u) (hlength 32 _) ?_
    · intro c hc hdash
      have hmem : c ∈ (uuidStr u).toList.filter (· ≠ '-') := by simpa [hdash] using hc
      rw [uuidStr_filter] at hmem
      obtain ⟨d, hd, rfl⟩ := mem_hexDigits hmem
      exact hhex d hd
    · rw [hnumber]
      exact Nat.mod_eq_of_lt u.isLt
  rwa [String.ofList_toList] at hparse

/-! ## 3. The fragment

Between the hash and the page's parameters stand the browser, which may escape a fragment, and
`URLSearchParams`, which decodes it. -/

/-- One parameter of a fragment, with nothing in its value to decode. -/
theorem parse_segment {name : List Char} (hname : ∀ c ∈ name, isUnreserved c = true)
    (h : ∀ c ∈ cs, isUnreserved c = true) :
    UrlEncoded.parse (name ++ '=' :: cs) = [(name, cs)] := by
  have hplain : ∀ {text : List Char}, (∀ c ∈ text, isUnreserved c = true) →
      ∀ c ∈ text, c ≠ '%' ∧ c ≠ '+' := fun htext c hc =>
    ⟨(ne_of_isUnreserved (htext c hc)).2.2.1, (ne_of_isUnreserved (htext c hc)).2.2.2.1⟩
  have hamp : ∀ s ∈ [name ++ '=' :: cs], '&' ∉ s := by
    intro s hs hmem
    rw [List.mem_singleton.mp hs] at hmem
    rcases List.mem_append.mp hmem with hmem | hmem
    · exact (ne_of_isUnreserved (hname _ hmem)).1 rfl
    · rcases List.mem_cons.mp hmem with hmem | hmem
      · exact absurd hmem (by decide)
      · exact (ne_of_isUnreserved (h _ hmem)).1 rfl
  have hne : ∀ s ∈ [name ++ '=' :: cs], s ≠ [] := by
    intro s hs
    rw [List.mem_singleton.mp hs]
    exact List.append_ne_nil_of_right_ne_nil _ (List.cons_ne_nil _ _)
  have hparse := parse_intercalate hamp hne
  rw [List.intercalate_singleton] at hparse
  rw [hparse, List.map_singleton,
    readPair_append fun hmem => (ne_of_isUnreserved (hname _ hmem)).2.1 rfl,
    unquotePlus_of_plain (hplain hname), unquotePlus_of_plain (hplain h)]

/-- What `process_launch` puts behind the hash. -/
def launchFragment (token sessionId : List Char) : List Char :=
  ("session_token".toList ++ '=' :: token) ++ '&' :: ("session_id".toList ++ '=' :: sessionId)

theorem redirectUrl_eq : l.redirectUrl encoder = (l.urls.of l.role).toList ++
    '#' :: launchFragment (l.token encoder) (uuidStr l.examSessionId).toList := by
  have htokenName : "session_token=".toList = "session_token".toList ++ ['='] := by decide
  have hidName : "session_id=".toList = "session_id".toList ++ ['='] := by decide
  unfold Launch.redirectUrl Lti.redirectUrl launchFragment
  rw [htokenName, hidName, List.append_assoc "session_token".toList,
    List.append_assoc "session_id".toList]
  rfl

theorem mem_launchFragment {sessionId : List Char} (htoken : ∀ c ∈ token, isUnreserved c = true)
    (hid : ∀ c ∈ sessionId, isUnreserved c = true) (hc : c ∈ launchFragment token sessionId) :
    isUnreserved c = true ∨ c = '=' ∨ c = '&' := by
  have hnames : ("session_token".toList ++ "session_id".toList).all isUnreserved = true := by decide
  have hname := List.all_eq_true.mp hnames
  unfold launchFragment at hc
  rcases List.mem_append.mp hc with hc | hc
  · rcases List.mem_append.mp hc with hc | hc
    · exact .inl (hname c (List.mem_append_left _ hc))
    · rcases List.mem_cons.mp hc with rfl | hc
      · exact .inr (.inl rfl)
      · exact .inl (htoken c hc)
  · rcases List.mem_cons.mp hc with rfl | hc
    · exact .inr (.inr rfl)
    · rcases List.mem_append.mp hc with hc | hc
      · exact .inl (hname c (List.mem_append_right _ hc))
      · rcases List.mem_cons.mp hc with rfl | hc
        · exact .inr (.inl rfl)
        · exact .inl (hid c hc)

/-- The location of the page the launch redirects to. -/
theorem visit_launchFragment {front sessionId : List Char} (hfront : '#' ∉ front)
    (htoken : ∀ c ∈ token, isUnreserved c = true) (hid : ∀ c ∈ sessionId, isUnreserved c = true) :
    PageLocation.visit (front ++ '#' :: launchFragment token sessionId) =
      ⟨front, '#' :: launchFragment token sessionId⟩ := by
  have hall : ∀ c ∈ front, decide (c ≠ '#') = true := fun c hc =>
    decide_eq_true fun heq => hfront (heq ▸ hc)
  -- The browser escapes no character of the fragment.
  have hescape : ∀ text : List Char, (∀ c ∈ text, fragmentChar c = [c]) →
      text.flatMap fragmentChar = text := by
    intro text
    induction text with
    | nil => exact fun _ => rfl
    | cons c text ih =>
      intro h
      rw [List.flatMap_cons, h c List.mem_cons_self,
        ih fun c' hc' => h c' (List.mem_cons_of_mem c hc')]
      rfl
  have hfragment : (launchFragment token sessionId).flatMap fragmentChar =
      launchFragment token sessionId := by
    apply hescape
    intro c hc
    rcases mem_launchFragment htoken hid hc with hc | rfl | rfl
    · exact fragmentChar_of_isUnreserved hc
    · decide
    · decide
  have hcons : ∃ c rest, launchFragment token sessionId = c :: rest := ⟨_, _, rfl⟩
  obtain ⟨c, rest, hcons⟩ := hcons
  unfold PageLocation.visit
  rw [List.takeWhile_append_of_pos hall, List.dropWhile_append_of_pos hall,
    List.takeWhile_cons_of_neg (by decide), List.dropWhile_cons_of_neg (by decide),
    List.append_nil, List.drop_one, List.tail_cons]
  rw [hcons] at hfragment ⊢
  dsimp only
  rw [hfragment]

/-- Both parameters are read as they were written. -/
theorem consumeRedirectFragment_launchFragment {address sessionId : List Char}
    (htoken : ∀ c ∈ token, isUnreserved c = true) (hid : ∀ c ∈ sessionId, isUnreserved c = true)
    (htokenNe : token ≠ []) (hidNe : sessionId ≠ []) :
    consumeRedirectFragment ⟨address, '#' :: launchFragment token sessionId⟩ =
      .ok (⟨token, sessionId⟩, ⟨address, []⟩) := by
  -- Unreserved characters stand for themselves, so the form parser gives back what was joined.
  have hnames : ("session_token".toList.all isUnreserved && "session_id".toList.all isUnreserved) =
      true := by decide
  obtain ⟨htokenName, hidName⟩ := (Bool.and_eq_true _ _).mp hnames
  have hparams : searchParams (launchFragment token sessionId) =
      [("session_token".toList, token), ("session_id".toList, sessionId)] := by
    show UrlEncoded.parse (launchFragment token sessionId) = _
    unfold launchFragment
    rw [parse_append_cons, parse_segment (List.all_eq_true.mp htokenName) htoken,
      parse_segment (List.all_eq_true.mp hidName) hid]
    rfl
  have hlength : ¬ ('#' :: launchFragment token sessionId).length ≤ 1 := by
    show ¬ (launchFragment token sessionId).length + 1 ≤ 1
    have hpositive : 0 < (launchFragment token sessionId).length := Nat.succ_pos _
    omega
  have hdistinct : ("session_id".toList == "session_token".toList) = false := by decide
  have hfirst : nonemptyParam (searchParams (launchFragment token sessionId)) "session_token" =
      some token := by
    unfold nonemptyParam
    rw [hparams, List.lookup_cons_self]
    exact Option.filter_eq_some_iff.mpr ⟨rfl, decide_eq_true htokenNe⟩
  have hsecond : nonemptyParam (searchParams (launchFragment token sessionId)) "session_id" =
      some sessionId := by
    unfold nonemptyParam
    rw [hparams, List.lookup_cons, hdistinct, List.lookup_cons_self]
    exact Option.filter_eq_some_iff.mpr ⟨rfl, decide_eq_true hidNe⟩
  unfold consumeRedirectFragment
  rw [if_neg hlength]
  dsimp only
  rw [List.drop_one, List.tail_cons, hfirst, hsecond]

/-! ## 4. The handshake

The header offers one protocol, which is the prefix and the token. It reads the same to the gateway
and to the origin. -/

/-- The header the page opens its socket with, and the one offer in it. -/
theorem openingHeader_of_isUnreserved (h : ∀ c ∈ token, isUnreserved c = true) :
    ∃ header, openingHeader token = some header ∧
      header.chars = subprotocolPrefix ++ token ∧
        extractTokenFromSubprotocol (some header) = some token ∧ LeadsAlike header := by
  have hleading : ∀ c ∈ subprotocolPrefix, isUnreserved c = true :=
    List.all_eq_true.mp (by decide)
  have hmem : ∀ c ∈ subprotocolPrefix ++ token, isUnreserved c = true := by
    intro c hc
    exact (List.mem_append.mp hc).elim (hleading c) (h c)
  have htokenChars : (subprotocolPrefix ++ token).all isTokenChar = true :=
    List.all_eq_true.mpr fun c hc => isTokenChar_of_isUnreserved (hmem c hc)
  -- No comma and no space, so there is one offer and nothing to trim.
  have hcomma : ',' ∉ subprotocolPrefix ++ token := fun hc =>
    (ne_of_isUnreserved (hmem _ hc)).2.2.2.2.1 rfl
  have hsplit : (subprotocolPrefix ++ token).splitOn ',' = [subprotocolPrefix ++ token] :=
    List.splitOn_eq_singleton hcomma
  have hstrip : pyStrip (subprotocolPrefix ++ token) = subprotocolPrefix ++ token :=
    Trim.trim_of_forall_not fun c hc => isPythonSpace_of_isUnreserved (hmem c hc)
  refine ⟨_, dif_pos htokenChars, rfl, ?_, ?_⟩
  · have hoffers : matchingOffers (subprotocolPrefix ++ token) = [subprotocolPrefix ++ token] := by
      unfold matchingOffers
      rw [hsplit, List.map_singleton, hstrip]
      rfl
    unfold extractTokenFromSubprotocol
    dsimp only
    rw [if_neg (List.append_ne_nil_of_left_ne_nil (by decide) _), hoffers]
    dsimp only
    rw [List.drop_left]
  · intro segment hsegment _ c hc
    rw [hsplit, List.mem_singleton] at hsegment
    subst hsegment
    apply isPythonSpace_of_isUnreserved
    exact hmem c ((List.dropWhile_suffix _).subset (List.mem_of_mem_head? hc))

/-- **A launched page reaches its session.** Whatever the ids, the role and the secret, the page
    finds the token in the URL it was sent to and takes it off; the header it opens its socket with
    is routed by the gateway, in any environment, to the session of the launch; and the origin
    takes from it a token with the role and the session of the launch. -/
theorem launched_page_reaches_session (l : Launch) (encoder : JwtEncoder) (jwt : Jwt)
    (now : DateTime) (environment : Option String) {iat exp : Int} (hencoder : IsUrlSafe encoder)
    (hsurface : '#' ∉ (l.urls.of l.role).toList)
    (hdecode : jwt.decode now (String.ofList (l.token encoder)) = .ok (toDict l.payload))
    (hiat : jwt.timestamp (.num (unixSeconds l.issuedAt)) = some iat)
    (hexp : jwt.timestamp (.num (unixSeconds (l.issuedAt + l.settings.ttlSeconds * 1000000))) =
      some exp) :
    ∃ params location header claims,
      consumeRedirectFragment (.visit (l.redirectUrl encoder)) = .ok (params, location) ∧
        location.hash = [] ∧ openingHeader params.sessionToken = some header ∧
        route ⟨some header, none⟩ environment = .durableObject (utf16 (uuidStr l.examSessionId)) ∧
        extractTokenFromSubprotocol (some header) = some params.sessionToken ∧
        decodeSessionToken jwt now (String.ofList params.sessionToken) = .ok claims ∧
        claims.sessionId.toList = params.sessionId ∧ claims.role = l.role ∧
        parseUuid claims.sessionId = some l.examSessionId ∧
        parseUuid claims.subject = some l.participantId := by
  have htoken := isUnreserved_token (l := l) hencoder
  have hid := isUnreserved_uuidStr (u := l.examSessionId)
  obtain ⟨header, hheader, -, hextracted, hleads⟩ := openingHeader_of_isUnreserved htoken
  have hclaims : claimsFromPayload jwt (toDict l.payload) = some _ :=
    claimsFromPayload_sessionPayload hiat hexp
  have haccepted := decodeSessionToken_of_claims hdecode hclaims
  -- What the gateway routes is a connection the server accepts.
  let c : AcceptedConnection encoder jwt :=
    ⟨header, none, l.token encoder, now, _, l.settings, l.participantId, l.examSessionId, l.role,
      l.issuedAt, l.jti, encoder.signature l.settings.secret (encoder.signingInput l.payload),
      hextracted, rfl, hdecode, haccepted⟩
  have hroute := c.route_eq environment hleads
  have hpage : consumeRedirectFragment ⟨(l.urls.of l.role).toList, _⟩ = _ :=
    consumeRedirectFragment_launchFragment htoken hid (token_ne_nil (l := l)) uuidStr_ne_nil
  rw [← visit_launchFragment hsurface htoken hid, ← redirectUrl_eq] at hpage
  refine ⟨_, _, header, _, hpage, rfl, hheader, hroute, hextracted, haccepted, ?_⟩
  dsimp only
  exact ⟨rfl, rfl, parseUuid_uuidStr, parseUuid_uuidStr⟩

end

/-- The launch whose token the library of the tests knows. -/
def knownLaunch : Launch :=
  ⟨launchSettings, ⟨"https://exam", "https://admin"⟩, 1, 2, .learner, 0, 3⟩

theorem isUrlSafe_launchEncoder : IsUrlSafe launchEncoder := by
  have hsignature : ['s', 'i', 'g'].all isUnreserved = true := by decide
  exact ⟨by decide, fun _ _ => hsignature⟩

theorem launched_page_reaches_session_known :
    ∃ params location header claims,
      consumeRedirectFragment (.visit (knownLaunch.redirectUrl launchEncoder)) =
          .ok (params, location) ∧
        location.hash = [] ∧ openingHeader params.sessionToken = some header ∧
        route ⟨some header, none⟩ none = .durableObject (utf16 (uuidStr 2)) ∧
        extractTokenFromSubprotocol (some header) = some params.sessionToken ∧
        decodeSessionToken launchLibrary 0 (String.ofList params.sessionToken) = .ok claims ∧
        claims.sessionId.toList = params.sessionId ∧ claims.role = .learner ∧
        parseUuid claims.sessionId = some 2 ∧ parseUuid claims.subject = some 1 :=
  launched_page_reaches_session knownLaunch launchEncoder launchLibrary 0 none
    isUrlSafe_launchEncoder (by decide)
    (by simp [launchLibrary, launchToken, launchPayload, Jwt.issued, Launch.token, Launch.payload,
      knownLaunch])
    rfl rfl

end Gateway
end ProctorEngine
