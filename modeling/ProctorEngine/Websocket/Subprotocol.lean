import ProctorEngine.Lib.Trim

/-!
# `_extract_token_from_subprotocol`

The origin's reading of the header `Sec-WebSocket-Protocol`: the offers between the commas,
stripped the way Python strips, and the token of the only one with the engine's prefix.
-/

set_option autoImplicit false

namespace ProctorEngine
namespace Websocket

/-- The value of a header: bytes, each read as one character. -/
structure HeaderValue where
  chars : List Char
  isByte : ∀ c ∈ chars, c.toNat < 256

/-- The characters `str.strip` takes. -/
def pythonSpaces : List Nat :=
  [0x09, 0x0a, 0x0b, 0x0c, 0x0d, 0x1c, 0x1d, 0x1e, 0x1f, 0x20, 0x85, 0xa0, 0x1680, 0x2000, 0x2001,
    0x2002, 0x2003, 0x2004, 0x2005, 0x2006, 0x2007, 0x2008, 0x2009, 0x200a, 0x2028, 0x2029, 0x202f,
    0x205f, 0x3000]

def isPythonSpace (c : Char) : Bool := c.toNat ∈ pythonSpaces

/-- `str.strip` -/
def pyStrip (cs : List Char) : List Char := Trim.trim isPythonSpace cs

/-- `_SUBPROTOCOL_PREFIX`, `proctoring-v1.` -/
def subprotocolPrefix : List Char :=
  ['p', 'r', 'o', 'c', 't', 'o', 'r', 'i', 'n', 'g', '-', 'v', '1', '.']

/-- The offered subprotocols with the engine's prefix. -/
def matchingOffers (raw : List Char) : List (List Char) :=
  (((raw.splitOn ',').map pyStrip).filter (· ≠ [])).filter subprotocolPrefix.isPrefixOf

def extractTokenFromSubprotocol (header : Option HeaderValue) : Option (List Char) :=
  match header with
  | none => none
  | some raw =>
    if raw.chars = [] then none
    else
      match matchingOffers raw.chars with
      | [offer] => some (offer.drop subprotocolPrefix.length)
      | _ => none

/-- The segments whose offers match. -/
theorem matchingOffers_eq_map (raw : List Char) :
    matchingOffers raw =
      ((raw.splitOn ',').filter fun segment =>
        subprotocolPrefix.isPrefixOf (pyStrip segment)).map pyStrip := by
  unfold matchingOffers
  rw [List.filter_filter, List.filter_map]
  congr 1
  apply List.filter_congr
  intro segment _
  simp only [Function.comp_apply]
  cases hstrip : pyStrip segment with
  | nil => rfl
  | cons c rest => simp

/-- The segment of the header that is the one offer with the engine's prefix. -/
theorem extractTokenFromSubprotocol_eq_some {raw : HeaderValue} {token : List Char}
    (h : extractTokenFromSubprotocol (some raw) = some token) :
    ∃ segment ∈ raw.chars.splitOn ',',
      pyStrip segment = subprotocolPrefix ++ token ∧
        ∀ other ∈ raw.chars.splitOn ',', subprotocolPrefix <+: pyStrip other → other = segment := by
  unfold extractTokenFromSubprotocol at h
  dsimp only at h
  split at h
  case isTrue => exact nomatch h
  case isFalse =>
    split at h
    case h_2 => exact nomatch h
    case h_1 offer hoffer =>
      rw [matchingOffers_eq_map, List.map_eq_singleton_iff] at hoffer
      obtain ⟨segment, hsegments, hstrip⟩ := hoffer
      have hmem : ∀ other, other ∈ [segment] ↔
          other ∈ raw.chars.splitOn ',' ∧ subprotocolPrefix <+: pyStrip other := by
        intro other
        rw [← hsegments, List.mem_filter, List.isPrefixOf_iff_prefix]
      obtain ⟨hsegment, rest, hrest⟩ := (hmem segment).mp List.mem_cons_self
      refine ⟨segment, hsegment, ?_, ?_⟩
      · rw [← Option.some.inj h, ← hstrip, ← hrest, List.drop_left]
      · intro other hother hprefix
        exact List.mem_singleton.mp ((hmem other).mpr ⟨hother, hprefix⟩)

end Websocket
end ProctorEngine
