import Naco.Admins

/-!
# Who is calling

A caller is an API token or the session of an administrator. The caller is found in a transaction of
its own, before that of the route; requests that change something must also carry the session's CSRF
token and come from the same origin.
-/

namespace Naco

open Py

/-- What the API reads of a request besides its body. -/
structure Headers where
  safeMethod : Bool := false
  authorization : String := ""
  cookie : Option String := none
  csrfToken : String := ""
  origin : Option String := none
  ownOrigin : String := ""
  secFetchSite : Option String := none
  contentType : String := ""
  ip : String := ""
  deriving DecidableEq, Repr

inductive PrincipalKind where
  | session
  | token
  deriving DecidableEq, Repr

/-- What is left of the setup of an account. -/
inductive Restriction where
  | password
  | totp
  deriving DecidableEq, Repr

structure Principal where
  kind : PrincipalKind
  username : String
  role : AdminRole
  adminId : Option Nat := none
  sessionId : Option Nat := none
  tokenId : Option Nat := none
  csrfToken : String := ""
  restricted : Option Restriction := none
  ip : String := ""
  deriving DecidableEq, Repr

def restriction (security : SecurityConfig) (admin : AdminUser) : Option Restriction :=
  if admin.mustChangePassword then some .password
  else if security.requireTotp && admin.secret.isNone then some .totp
  else none

def checkSameOrigin (headers : Headers) : Except RouteError Unit :=
  if headers.origin.any (· ≠ headers.ownOrigin) then apiError 403 "cross-origin request refused"
  else if headers.secFetchSite.any (· ∉ ["same-origin", "none"]) then
    apiError 403 "cross-site request refused"
  else .ok ()

/-! ### Sessions -/

/-- `sessions.resolve`, with the tables it leaves: a session that has run out is deleted. -/
def resolveSession (platform : AdminPlatform) (t : AdminTables) (now : Int) (raw : Option String) :
    Option (AdminSession × AdminUser) × AdminTables :=
  match raw.filter fun raw => raw ≠ "" && decide (raw.toList.length ≤ 128) with
  | none => (none, t)
  | some raw =>
      match t.sessions.find? (·.tokenHash = platform.sha256 raw) with
      | none => (none, t)
      | some session =>
          match t.admin? session.adminId with
          | none => (none, t)
          | some admin =>
              let idle := platform.security.sessionIdleMinutes * 60000000
              if session.expiresAt ≤ now ∨ session.lastSeenAt + idle ≤ now ∨ !admin.enabled then
                (none, { t with sessions := deleteRow t.sessions (·.id) session.id })
              else if 60000000 ≤ now - session.lastSeenAt then
                let session := { session with lastSeenAt := now }
                (some (session, admin), { t with sessions := replaceRow t.sessions (·.id) session })
              else
                (some (session, admin), t)

/-- The part of `current_principal` after `sessions.resolve`. -/
def sessionPrincipal (platform : AdminPlatform) (headers : Headers) (session : AdminSession)
    (admin : AdminUser) : Except RouteError Principal := do
  if !headers.safeMethod then
    if headers.csrfToken = "" ∨ headers.csrfToken ≠ session.csrfToken then
      apiError 403 "missing or invalid CSRF token"
    checkSameOrigin headers
  return { kind := .session, username := admin.username, role := admin.role, adminId := admin.id,
           sessionId := session.id, csrfToken := session.csrfToken,
           restricted := restriction platform.security admin, ip := headers.ip }

/-! ### Tokens -/

/-- `_token_principal`, with the tables it leaves. -/
def tokenPrincipal (platform : AdminPlatform) (t : AdminTables) (now : Int) (raw ip : String) :
    Except RouteError (Principal × AdminTables) :=
  if !"naco_".toList.isPrefixOf raw.toList ∨ 128 < raw.toList.length then
    apiError 401 "invalid API token"
  else
    match t.tokens.find? (·.tokenHash = platform.sha256 raw) with
    | none => apiError 401 "invalid API token"
    | some token =>
        if token.revokedAt.isSome ∨ token.expiresAt.any (· ≤ now) then
          apiError 401 "invalid API token"
        else
          let t := if token.lastUsedAt.all (60000000 < now - ·) then
            { t with tokens := replaceRow t.tokens (·.id) { token with lastUsedAt := some now } } else t
          .ok ({ kind := .token, username := s!"token:{token.name}", role := token.role,
                 tokenId := token.id, ip }, t)

/-! ### The dependency -/

/-- The answer of `current_principal`, with the tables it commits. A refusal after the session was
found rolls back. -/
def findPrincipal (platform : AdminPlatform) (headers : Headers) (t : AdminTables) (now : Int) :
    Except RouteError Principal × AdminTables :=
  let (scheme, credential) := partition ' ' headers.authorization
  if lower scheme = "bearer" ∧ credential.any (· ≠ "") then
    match tokenPrincipal platform t now (strip (credential.getD "")) headers.ip with
    | .ok (principal, t) => (.ok principal, t)
    | .error error => (.error error, t)
  else
    match resolveSession platform t now headers.cookie with
    | (none, t) => (apiError 401 "not signed in", t)
    | (some (session, admin), touched) =>
        match sessionPrincipal platform headers session admin with
        | .ok principal => (.ok principal, touched)
        | .error error => (.error error, t)

/-- `current_principal`. -/
def currentPrincipal (platform : AdminPlatform) (headers : Headers) :
    Coroutine AdminWorld (Except RouteError Principal) :=
  Coroutine.atomic fun world =>
    let (answer, t) := findPrincipal platform headers world.db.val world.now.utc
    match t.commit with
    | .ok db => (answer, { world with db })
    | .error error => (.error (.raised error), world)

/-- The check of `require`. -/
def checkPrincipal (required : AdminRole) (setupAllowed : Bool) (principal : Principal) :
    Except RouteError Principal := do
  match principal.restricted with
  | some left =>
      if !setupAllowed then
        let what := match left with
          | .password => "change your password"
          | .totp => "enroll two-factor authentication"
        apiError 403 s!"finish account setup first: {what}"
  | none => pure ()
  require principal.role required
  return principal

/-- `require(role)` of a route. -/
def requireRole (platform : AdminPlatform) (required : AdminRole) (headers : Headers)
    (setupAllowed : Bool := false) : Coroutine AdminWorld (Except RouteError Principal) := do
  let found ← currentPrincipal platform headers
  return found.bind (checkPrincipal required setupAllowed)

/-- `require(AdminRole.VIEWER, setup_allowed=True)`. -/
def signedIn (platform : AdminPlatform) (headers : Headers) :
    Coroutine AdminWorld (Except RouteError Principal) :=
  requireRole platform .viewer headers true

def superuser (platform : AdminPlatform) (headers : Headers) :
    Coroutine AdminWorld (Except RouteError Principal) :=
  requireRole platform .superuser headers

end Naco
