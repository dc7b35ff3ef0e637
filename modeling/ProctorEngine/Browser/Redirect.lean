import ProctorEngine.Lib.UrlEncoded

/-!
# `consumeRedirectFragment`

The page finds the token and the session id of its launch in the fragment of its own URL, and
takes the fragment off the URL as soon as it has read both. **So a launch is read once**: the same
page loaded again finds no fragment and has to be launched again.
-/

set_option autoImplicit false

namespace ProctorEngine.Browser

/-- `window.location`: what stands before the fragment, and `hash`. -/
structure PageLocation where
  address : List Char
  hash : List Char
deriving DecidableEq

inductive RedirectError where
  | missingFragment
  | missingSessionToken
  | missingSessionId
deriving DecidableEq, Repr

def RedirectError.message : RedirectError → String
  | .missingFragment => "Missing URL fragment"
  | .missingSessionToken => "Missing session_token in fragment"
  | .missingSessionId => "Missing session_id in fragment"

structure LaunchParams where
  sessionToken : List Char
  sessionId : List Char
deriving DecidableEq

/-- A character of a fragment as the URL parser leaves it. -/
def fragmentChar (c : Char) : List Char :=
  if c.toNat ≤ 0x20 ∨ 0x7e < c.toNat ∨ c ∈ ['"', '<', '>', '\x60'] then
    (JsonText.utf8Char c).flatMap UrlEncoded.escapeByte
  else [c]

/-- The location of a page that has followed a redirect. An empty fragment is no `hash`. -/
def PageLocation.visit (url : List Char) : PageLocation where
  address := url.takeWhile (· ≠ '#')
  hash :=
    match (url.dropWhile (· ≠ '#')).drop 1 with
    | [] => []
    | fragment => '#' :: fragment.flatMap fragmentChar

/-- `new URLSearchParams(init)`, which takes one leading question mark away. -/
def searchParams (init : List Char) : List (List Char × List Char) :=
  UrlEncoded.parse (if init.head? = some '?' then init.drop 1 else init)

/-- `params.get(name)`, where an empty value is as good as none. -/
def nonemptyParam (params : List (List Char × List Char)) (name : String) : Option (List Char) :=
  (params.lookup name.toList).filter (· ≠ [])

/-- What the page reads, and its location after `replaceState`. Both parameters have to be there and
    not empty, and the first that is missing names the error. The hash is taken off only where both
    are. -/
def consumeRedirectFragment (location : PageLocation) :
    Except RedirectError (LaunchParams × PageLocation) :=
  if location.hash.length ≤ 1 then .error .missingFragment
  else
    let params := searchParams (location.hash.drop 1)
    match nonemptyParam params "session_token", nonemptyParam params "session_id" with
    | none, _ => .error .missingSessionToken
    | some _, none => .error .missingSessionId
    | some sessionToken, some sessionId =>
      .ok (⟨sessionToken, sessionId⟩, { location with hash := [] })

section
variable {location : PageLocation} {params : LaunchParams} {location' : PageLocation}

/-- **A launch is read once.** -/
theorem consumeRedirectFragment_again
    (h : consumeRedirectFragment location = .ok (params, location')) :
    consumeRedirectFragment location' = .error .missingFragment := by
  unfold consumeRedirectFragment at h
  split at h
  case isTrue => exact nomatch h
  case isFalse =>
    dsimp only at h
    split at h
    case h_1 => exact nomatch h
    case h_2 => exact nomatch h
    case h_3 =>
      obtain ⟨-, rfl⟩ := Prod.mk.inj (Except.ok.inj h)
      rfl

/-- Neither value is empty. -/
theorem consumeRedirectFragment_nonempty
    (h : consumeRedirectFragment location = .ok (params, location')) :
    params.sessionToken ≠ [] ∧ params.sessionId ≠ [] := by
  have hne : ∀ {name value}, nonemptyParam (searchParams (location.hash.drop 1)) name = some value →
      value ≠ [] := by
    intro name value hvalue
    simpa using (Option.filter_eq_some_iff.mp hvalue).2
  unfold consumeRedirectFragment at h
  split at h
  case isTrue => exact nomatch h
  case isFalse =>
    dsimp only at h
    split at h
    case h_1 => exact nomatch h
    case h_2 => exact nomatch h
    case h_3 sessionToken sessionId htoken hid =>
      obtain ⟨rfl, -⟩ := Prod.mk.inj (Except.ok.inj h)
      exact ⟨hne htoken, hne hid⟩

end

end ProctorEngine.Browser
