import Mathlib.Order.Lattice
import ProctorEngine.Lti.SessionToken

/-!
# The roles of a launch

`map_roles` knows a fixed vocabulary of role URIs and refuses a launch with any other. Of the roles
it does know **the highest wins**, wherever it stands among the URIs and however often.

The source keeps the vocabulary twice: as the four sets a URI is looked up in, and as the table it
is mapped by. A URI in the sets and not in the table would be a `KeyError`, so the first thing to
know is that the table covers the sets (`exists_lookup_of_mem`). `mapRoles_eq_ok_iff` then says what
a role has been told by, with `IsHighest` in place of the fold that finds it.
-/

set_option autoImplicit false

namespace ProctorEngine.Lti

/-! ## 1. The vocabulary

The sets and the table as they stand in the source. -/

/-- `_LTI_SYSTEM_ROLES` -/
def ltiSystemRoles : List String :=
  ["http://purl.imsglobal.org/vocab/lis/v2/system/person#Administrator",
    "http://purl.imsglobal.org/vocab/lis/v2/system/person#SysAdmin",
    "http://purl.imsglobal.org/vocab/lis/v2/system/person#SysSupport",
    "http://purl.imsglobal.org/vocab/lis/v2/system/person#None"]

/-- `_LTI_INSTITUTION_ROLES` -/
def ltiInstitutionRoles : List String :=
  ["http://purl.imsglobal.org/vocab/lis/v2/institution/person#Faculty",
    "http://purl.imsglobal.org/vocab/lis/v2/institution/person#Instructor",
    "http://purl.imsglobal.org/vocab/lis/v2/institution/person#TeachingAssistant",
    "http://purl.imsglobal.org/vocab/lis/v2/institution/person#ContentDeveloper",
    "http://purl.imsglobal.org/vocab/lis/v2/institution/person#Member",
    "http://purl.imsglobal.org/vocab/lis/v2/institution/person#Learner",
    "http://purl.imsglobal.org/vocab/lis/v2/institution/person#Student",
    "http://purl.imsglobal.org/vocab/lis/v2/institution/person#Staff",
    "http://purl.imsglobal.org/vocab/lis/v2/institution/person#Alumni",
    "http://purl.imsglobal.org/vocab/lis/v2/institution/person#ProspectiveStudent",
    "http://purl.imsglobal.org/vocab/lis/v2/institution/person#Guest",
    "http://purl.imsglobal.org/vocab/lis/v2/institution/person#Other"]

/-- `_LTI_CONTEXT_ROLES` -/
def ltiContextRoles : List String :=
  ["http://purl.imsglobal.org/vocab/lis/v2/membership#Administrator",
    "http://purl.imsglobal.org/vocab/lis/v2/membership#Instructor",
    "http://purl.imsglobal.org/vocab/lis/v2/membership#TeachingAssistant",
    "http://purl.imsglobal.org/vocab/lis/v2/membership#ContentDeveloper",
    "http://purl.imsglobal.org/vocab/lis/v2/membership#Learner",
    "http://purl.imsglobal.org/vocab/lis/v2/membership#Member"]

/-- `_LTI_PROCTOR_ROLES` -/
def ltiProctorRoles : List String :=
  ["http://purl.imsglobal.org/vocab/lti/role/proctor#Proctor"]

/-- `_KNOWN_ROLES` -/
def knownRoles : List String :=
  ltiSystemRoles ++ ltiInstitutionRoles ++ ltiContextRoles ++ ltiProctorRoles

/-- `_ROLE_TO_APP` -/
def roleToApp : List (String × AppRole) :=
  [("http://purl.imsglobal.org/vocab/lis/v2/system/person#Administrator", .admin),
    ("http://purl.imsglobal.org/vocab/lis/v2/system/person#SysAdmin", .admin),
    ("http://purl.imsglobal.org/vocab/lis/v2/system/person#SysSupport", .admin),
    ("http://purl.imsglobal.org/vocab/lis/v2/membership#Administrator", .admin),
    ("http://purl.imsglobal.org/vocab/lti/role/proctor#Proctor", .proctor),
    ("http://purl.imsglobal.org/vocab/lis/v2/institution/person#Faculty", .instructor),
    ("http://purl.imsglobal.org/vocab/lis/v2/institution/person#Instructor", .instructor),
    ("http://purl.imsglobal.org/vocab/lis/v2/institution/person#TeachingAssistant", .instructor),
    ("http://purl.imsglobal.org/vocab/lis/v2/institution/person#ContentDeveloper", .instructor),
    ("http://purl.imsglobal.org/vocab/lis/v2/membership#Instructor", .instructor),
    ("http://purl.imsglobal.org/vocab/lis/v2/membership#TeachingAssistant", .instructor),
    ("http://purl.imsglobal.org/vocab/lis/v2/membership#ContentDeveloper", .instructor),
    ("http://purl.imsglobal.org/vocab/lis/v2/institution/person#Learner", .learner),
    ("http://purl.imsglobal.org/vocab/lis/v2/institution/person#Student", .learner),
    ("http://purl.imsglobal.org/vocab/lis/v2/membership#Learner", .learner),
    ("http://purl.imsglobal.org/vocab/lis/v2/membership#Member", .learner),
    ("http://purl.imsglobal.org/vocab/lis/v2/institution/person#Member", .learner),
    ("http://purl.imsglobal.org/vocab/lis/v2/institution/person#Staff", .learner),
    ("http://purl.imsglobal.org/vocab/lis/v2/institution/person#Alumni", .learner),
    ("http://purl.imsglobal.org/vocab/lis/v2/institution/person#ProspectiveStudent", .learner),
    ("http://purl.imsglobal.org/vocab/lis/v2/institution/person#Guest", .learner),
    ("http://purl.imsglobal.org/vocab/lis/v2/institution/person#Other", .learner),
    ("http://purl.imsglobal.org/vocab/lis/v2/system/person#None", .learner)]

/-- `_PRIVILEGE` -/
def AppRole.privilege : AppRole → Nat
  | .learner => 0
  | .instructor => 1
  | .proctor => 2
  | .admin => 3

/-! ## 2. The reduction

`max` with a key gives the first of the greatest. The privileges of two roles differ, so which one
is first makes no difference. -/

inductive RolesError where
  | empty
  | unrecognized (uris : List String)
  /-- The `KeyError` of `_ROLE_TO_APP[uri]`. -/
  | missing (uri : String)
deriving DecidableEq, Repr

/-- `max(mapped, key=…)` of a first element and the rest: the first of the greatest. -/
def maxRole (first : AppRole) (rest : List AppRole) : AppRole :=
  rest.foldl (fun best role => if best.privilege < role.privilege then role else best) first

/-- `[_ROLE_TO_APP[uri] for uri in uris]` -/
def mapUris : List String → Except RolesError (List AppRole)
  | [] => .ok []
  | uri :: uris =>
    match roleToApp.lookup uri with
    | none => .error (.missing uri)
    | some role => (mapUris uris).map (role :: ·)

/-- `sorted` sorts by code points. -/
def mapRoles (uris : List String) : Except RolesError AppRole :=
  if uris = [] then .error .empty
  else
    let unknown := uris.filter (· ∉ knownRoles)
    if unknown ≠ [] then .error (.unrecognized (unknown.mergeSort (· ≤ ·)))
    else
      match mapUris uris with
      | .error e => .error e
      | .ok [] => .error .empty
      | .ok (first :: rest) => .ok (maxRole first rest)

section
variable {uri : String} {uris uris' : List String} {role first : AppRole} {rest : List AppRole}

theorem privilege_injective {a b : AppRole} (h : a.privilege = b.privilege) : a = b := by
  cases a with
  | learner | instructor | proctor | admin =>
    cases b with
    | learner | instructor | proctor | admin => first | rfl | exact absurd h (by decide)

/-- The known URIs are those the table maps. -/
theorem exists_lookup_of_mem (h : uri ∈ knownRoles) : ∃ role, roleToApp.lookup uri = some role := by
  have hkeys : ∀ known ∈ knownRoles, known ∈ roleToApp.map Prod.fst := by
    simp [knownRoles, ltiSystemRoles, ltiInstitutionRoles, ltiContextRoles, ltiProctorRoles,
      roleToApp]
  have hsome : ∀ table : List (String × AppRole), uri ∈ table.map Prod.fst →
      ∃ role, table.lookup uri = some role := by
    intro table
    induction table with
    | nil => exact fun hmem => absurd hmem List.not_mem_nil
    | cons entry table ih =>
      intro hmem
      rw [List.lookup_cons]
      cases hsame : uri == entry.1 with
      | true => exact ⟨entry.2, rfl⟩
      | false =>
        rw [List.map_cons, List.mem_cons] at hmem
        exact ih (hmem.resolve_left fun heq => by simp [heq] at hsame)
  exact hsome roleToApp (hkeys uri h)

theorem mapUris_of_known (h : ∀ uri ∈ uris, uri ∈ knownRoles) :
    ∃ roles, mapUris uris = .ok roles ∧
      ∀ role, role ∈ roles ↔ ∃ uri ∈ uris, roleToApp.lookup uri = some role := by
  induction uris with
  | nil => exact ⟨[], rfl, by simp⟩
  | cons uri uris ih =>
    obtain ⟨role, hrole⟩ := exists_lookup_of_mem (h uri List.mem_cons_self)
    obtain ⟨roles, hroles, hmem⟩ := ih fun other hother => h other (List.mem_cons_of_mem uri hother)
    refine ⟨role :: roles, ?_, ?_⟩
    · unfold mapUris
      rw [hrole, hroles]
      rfl
    · intro other
      rw [List.mem_cons, hmem]
      constructor
      · rintro (rfl | ⟨found, hfound, hlookup⟩)
        · exact ⟨uri, List.mem_cons_self, hrole⟩
        · exact ⟨found, List.mem_cons_of_mem uri hfound, hlookup⟩
      · rintro ⟨found, hfound, hlookup⟩
        rcases List.mem_cons.mp hfound with rfl | hfound
        · exact .inl (Option.some.inj (hlookup.symm.trans hrole))
        · exact .inr ⟨found, hfound, hlookup⟩

theorem maxRole_spec : maxRole first rest ∈ first :: rest ∧
    ∀ role ∈ first :: rest, role.privilege ≤ (maxRole first rest).privilege := by
  induction rest generalizing first with
  | nil => exact ⟨List.mem_cons_self, fun role hrole => by rw [List.mem_singleton.mp hrole]; rfl⟩
  | cons second rest ih =>
    -- The first two compete, and the winner goes on against the rest.
    obtain ⟨hmem, hmax⟩ := @ih (if first.privilege < second.privilege then second else first)
    have hself := hmax _ List.mem_cons_self
    have hstep : maxRole first (second :: rest) =
        maxRole (if first.privilege < second.privilege then second else first) rest := rfl
    rw [hstep]
    split at hmem
    case isTrue hlt =>
      rw [if_pos hlt] at hmax hself ⊢
      refine ⟨List.mem_cons_of_mem first hmem, ?_⟩
      intro role hrole
      rcases List.mem_cons.mp hrole with rfl | hrole
      · exact hlt.le.trans hself
      · exact hmax role hrole
    case isFalse hle =>
      rw [if_neg hle] at hmax hself ⊢
      refine ⟨?_, ?_⟩
      · rcases List.mem_cons.mp hmem with heq | hmem
        · rw [heq]
          exact List.mem_cons_self
        · exact List.mem_cons_of_mem first (List.mem_cons_of_mem second hmem)
      · intro role hrole
        rcases List.mem_cons.mp hrole with rfl | hrole
        · exact hself
        · rcases List.mem_cons.mp hrole with rfl | hrole
          · exact (Nat.le_of_not_lt hle).trans hself
          · exact hmax role (List.mem_cons_of_mem first hrole)

/-- The role of one of the URIs, and no other has a higher one. -/
def IsHighest (uris : List String) (role : AppRole) : Prop :=
  (∃ uri ∈ uris, roleToApp.lookup uri = some role) ∧
    ∀ uri ∈ uris, ∀ other, roleToApp.lookup uri = some other → other.privilege ≤ role.privilege

theorem IsHighest.unique {other : AppRole} (h : IsHighest uris role) (h' : IsHighest uris other) :
    role = other := by
  obtain ⟨uri, huri, hrole⟩ := h.1
  obtain ⟨uri', huri', hother⟩ := h'.1
  exact privilege_injective
    (Nat.le_antisymm (h'.2 uri huri role hrole) (h.2 uri' huri' other hother))

/-- **The highest role wins**, and a launch is refused exactly for an unknown URI or for having
    none. -/
theorem mapRoles_eq_ok_iff :
    mapRoles uris = .ok role ↔
      uris ≠ [] ∧ (∀ uri ∈ uris, uri ∈ knownRoles) ∧ IsHighest uris role := by
  unfold mapRoles
  by_cases hempty : uris = []
  · rw [if_pos hempty]
    exact ⟨nofun, fun h => absurd hempty h.1⟩
  · rw [if_neg hempty]
    dsimp only
    by_cases hknown : ∀ uri ∈ uris, uri ∈ knownRoles
    · have hunknown : ¬ uris.filter (· ∉ knownRoles) ≠ [] := by
        simpa [List.filter_eq_nil_iff] using hknown
      rw [if_neg hunknown]
      obtain ⟨roles, hroles, hmem⟩ := mapUris_of_known hknown
      rw [hroles]
      cases roles with
      -- Every URI is known and there is one, so some role was found.
      | nil =>
        obtain ⟨uri, huri⟩ := List.exists_mem_of_ne_nil uris hempty
        obtain ⟨found, hfound⟩ := exists_lookup_of_mem (hknown uri huri)
        exact absurd ((hmem found).mpr ⟨uri, huri, hfound⟩) List.not_mem_nil
      | cons first rest =>
        have hhighest : IsHighest uris (maxRole first rest) := by
          obtain ⟨hfound, hmax⟩ := @maxRole_spec first rest
          exact ⟨(hmem _).mp hfound, fun uri huri other hother =>
            hmax other ((hmem other).mpr ⟨uri, huri, hother⟩)⟩
        dsimp only
        constructor
        · intro h
          cases h
          exact ⟨hempty, hknown, hhighest⟩
        · rintro ⟨-, -, h⟩
          rw [hhighest.unique h]
    -- one unknown URI refuses them all
    · have hunknown : uris.filter (· ∉ knownRoles) ≠ [] := by
        intro hnil
        apply hknown
        simpa [List.filter_eq_nil_iff] using hnil
      rw [if_pos hunknown]
      exact ⟨nofun, fun h => absurd h.2.1 hknown⟩

/-- `_ROLE_TO_APP[uri]` never raises. -/
theorem mapRoles_ne_missing : mapRoles uris ≠ .error (.missing uri) := by
  intro h
  unfold mapRoles at h
  split at h
  case isTrue => exact nomatch h
  case isFalse hempty =>
    dsimp only at h
    split at h
    case isTrue => exact nomatch h
    case isFalse hunknown =>
      have hknown : ∀ uri ∈ uris, uri ∈ knownRoles := by
        simpa [List.filter_eq_nil_iff] using hunknown
      obtain ⟨roles, hroles, -⟩ := mapUris_of_known hknown
      rw [hroles] at h
      cases roles with
      | nil => exact nomatch h
      | cons first rest => exact nomatch h

/-- Only which URIs there are decides the role. -/
theorem mapRoles_congr (hmem : ∀ uri, uri ∈ uris ↔ uri ∈ uris') :
    mapRoles uris = .ok role ↔ mapRoles uris' = .ok role := by
  have hempty : uris = [] ↔ uris' = [] := by
    simp only [List.eq_nil_iff_forall_not_mem, hmem]
  simp only [mapRoles_eq_ok_iff, IsHighest, hmem, ne_eq, hempty]

end

end ProctorEngine.Lti
