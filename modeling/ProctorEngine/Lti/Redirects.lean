import ProctorEngine.Lib.UrlEncoded
import ProctorEngine.Lti.IssuedToken
import ProctorEngine.Lti.Routes

/-!
# The two redirects of a launch

`lti_login` puts the ten parameters of the authorization request behind a question mark and
redirects the browser to the platform's authorization endpoint, which is whatever the discovery
document says it is. The state and the nonce come back only if the platform finds them there.
An endpoint may have a query of its own. The question mark is put behind it all the same, and
**the platform then reads another request**: `scope` has become part of the endpoint's last
parameter.

`process_launch` redirects to the exam client or to the admin surface, with the session token and
the session id in the fragment.
-/

set_option autoImplicit false

namespace ProctorEngine
namespace Lti

/-! ## 1. The URLs -/

/-- `params` of `lti_login`, in the order of the literal. -/
def AuthorizationRequest.params (r : AuthorizationRequest) : List (List Char × List Char) :=
  [("scope", "openid"), ("response_type", "id_token"), ("response_mode", "form_post"),
    ("prompt", "none"), ("client_id", r.clientId), ("redirect_uri", r.redirectUri),
    ("login_hint", r.loginHint), ("state", r.state), ("nonce", r.nonce),
    ("lti_message_hint", r.ltiMessageHint)].map fun (name, value) => (name.toList, value.toList)

def AuthorizationRequest.url (r : AuthorizationRequest) : List Char :=
  r.authorizationEndpoint.toList ++ '?' :: UrlEncoded.urlencode r.params

/-- `exam_client_url` and `admin_surface_url` of the settings. -/
structure SurfaceUrls where
  examClientUrl : String
  adminSurfaceUrl : String

def SurfaceUrls.of (urls : SurfaceUrls) : AppRole → String
  | .learner => urls.examClientUrl
  | .instructor | .admin | .proctor => urls.adminSurfaceUrl

/-- Step 7 of `process_launch`. -/
def redirectUrl (urls : SurfaceUrls) (role : AppRole) (sessionToken : List Char)
    (examSessionId : UUID) : List Char :=
  (urls.of role).toList ++ '#' :: ("session_token=".toList ++ sessionToken ++
    '&' :: ("session_id=".toList ++ (uuidStr examSessionId).toList))

/-- The query of a URL: what stands behind the first question mark, up to the fragment. -/
def queryOf (url : List Char) : List Char :=
  ((url.takeWhile (· ≠ '#')).dropWhile (· ≠ '?')).drop 1

/-- A request with characters that have to be escaped. -/
def escapedRequest : AuthorizationRequest :=
  ⟨"https://lms/auth", "tool", "https://tool/lti/launch", "5&é", "s", "n", "a b"⟩

/-! ## 2. What the platform reads -/

section
variable {settings : LtiSettings} {request : LoginRequest} {endpoint state nonce : String}
  {registration : Registration} {r : AuthorizationRequest}

/-- The query of what is put behind an endpoint without a fragment. -/
theorem queryOf_append {front text : List Char} (hfront : '#' ∉ front) (htext : '#' ∉ text) :
    queryOf (front ++ '?' :: text) = ((front ++ '?' :: text).dropWhile (· ≠ '?')).drop 1 := by
  have hself : (front ++ '?' :: text).takeWhile (· ≠ '#') = front ++ '?' :: text := by
    apply List.takeWhile_eq_self_iff.mpr
    intro c hc
    apply decide_eq_true
    rintro rfl
    rcases List.mem_append.mp hc with hc | hc
    · exact hfront hc
    · rcases List.mem_cons.mp hc with hc | hc
      · exact absurd hc (by decide)
      · exact htext hc
  unfold queryOf
  rw [hself]

theorem dropWhile_question {front text : List Char} (hfront : '?' ∉ front) :
    ((front ++ '?' :: text).dropWhile (· ≠ '?')).drop 1 = text := by
  have hall : ∀ c ∈ front, decide (c ≠ '?') = true := fun c hc =>
    decide_eq_true fun h => hfront (h ▸ hc)
  rw [List.dropWhile_append_of_pos hall, List.dropWhile_cons_of_neg (by decide)]
  rfl

/-- An endpoint with a query of its own swallows the first parameter. -/
theorem parse_of_question {query : List Char} :
    UrlEncoded.parse (query ++ '?' :: UrlEncoded.urlencode r.params) ≠ r.params := by
  have hsurvives : UrlEncoded.Survives '?' := by decide
  -- the parameters, with the first one apart
  obtain ⟨second, rest, hparams⟩ : ∃ second rest,
      r.params = ("scope".toList, "openid".toList) :: second :: rest := ⟨_, _, rfl⟩
  have hnot : '?' ∉ "scope".toList ∧ '?' ∉ "openid".toList := by decide
  intro heq
  rw [hparams, UrlEncoded.urlencode_cons_cons, ← List.cons_append, ← List.append_assoc,
    UrlEncoded.parse_append_cons, UrlEncoded.parse_urlencode] at heq
  have hfirst : UrlEncoded.parse (query ++ '?' ::
      UrlEncoded.writePair ("scope".toList, "openid".toList)) =
        [("scope".toList, "openid".toList)] := List.append_cancel_right heq
  have hquestion : '?' ∈ query ++ '?' ::
      UrlEncoded.writePair ("scope".toList, "openid".toList) :=
    List.mem_append_right _ List.mem_cons_self
  obtain ⟨pair, hpair, hmem⟩ := UrlEncoded.exists_mem_parse hsurvives hquestion
  rw [hfirst, List.mem_singleton] at hpair
  subst hpair
  exact hmem.elim hnot.1 hnot.2

/-- **The platform reads the request that was registered, whatever characters are in it, exactly if
    its authorization endpoint has no query of its own.** The parameters are put behind a `?` of
    their own, so a query that is there already becomes part of the first value. -/
theorem authorizationRequest_read_iff
    (h : ltiLogin settings request (some endpoint) state nonce = .ok (registration, r))
    (hfragment : '#' ∉ endpoint.toList) :
    (UrlEncoded.parse (queryOf r.url) = r.params ↔ '?' ∉ endpoint.toList) ∧
      r.state = registration.state ∧ r.nonce = registration.nonce ∧
        r.redirectUri = registration.redirectUri := by
  unfold ltiLogin at h
  split at h
  · exact nomatch h
  · obtain ⟨rfl, rfl⟩ := Prod.mk.inj (Except.ok.inj h)
    refine ⟨?_, rfl, rfl, rfl⟩
    unfold AuthorizationRequest.url
    rw [queryOf_append hfragment (UrlEncoded.hash_not_mem_urlencode _)]
    constructor
    · intro hread hquestion
      obtain ⟨front, query, hendpoint, hfront⟩ := List.eq_append_cons_of_mem hquestion
      rw [hendpoint, List.append_assoc, List.cons_append, dropWhile_question hfront] at hread
      exact parse_of_question hread
    · intro hquestion
      rw [dropWhile_question hquestion, UrlEncoded.parse_urlencode]

theorem authorizationRequest_read_escaped :
    UrlEncoded.parse (queryOf escapedRequest.url) = escapedRequest.params := by
  have hlogin : ltiLogin ⟨"https://tool/lti/launch", "tool"⟩
      ⟨"https://lms", "5&é", "https://tool/lti/launch", "a b", none⟩ (some "https://lms/auth")
        "s" "n" = .ok (⟨"s", "n", "https://tool/lti/launch", "https://lms"⟩, escapedRequest) := rfl
  exact (authorizationRequest_read_iff hlogin (by decide)).1.mpr (by decide)

end

end Lti
end ProctorEngine
