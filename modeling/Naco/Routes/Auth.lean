import Naco.Deps

/-!
# Sign-in and account setup

Each route reads the account in one transaction, checks the password without holding it, and reads the
account again in the transaction that it commits. What a request draws at random goes with it: the
value of a cookie, a secret, the digest that bcrypt gives for a password.
-/

namespace Naco

open Py

/-! ### The answers -/

structure Me where
  username : String
  role : AdminRole
  restricted : Option Restriction
  totpEnabled : Bool
  csrfToken : String
  deriving DecidableEq, Repr

/-- `_me`. -/
def meOf (security : SecurityConfig) (admin : AdminUser) (csrf : String) : Me where
  username := admin.username
  role := admin.role
  restricted := restriction security admin
  totpEnabled := admin.secret.isSome
  csrfToken := csrf

/-- What a request used up as second factor. -/
inductive Factor where
  | step (adminId : Nat) (secret : String) (step : Int)
  | recoveryCode (adminId : Nat) (hashed : String)
  deriving DecidableEq, Repr

/-- The account a sign-in is for, and the factor it used up, which the answer does not show. -/
structure SignIn where
  me : Me
  adminId : Nat
  factor : Option Factor := none
  deriving DecidableEq, Repr

/-! ### Sign-in -/

structure LoginIn where
  username : String
  password : String
  totpCode : String := ""
  deriving DecidableEq, Repr

namespace LoginIn

/-- `Field(max_length=…)`. -/
def InLimits (body : LoginIn) : Prop :=
  body.username.toList.length ≤ 64 ∧ body.password.toList.length ≤ 256 ∧
    body.totpCode.toList.length ≤ 16

def name (body : LoginIn) : String :=
  lower (strip body.username)

end LoginIn

/-- `secrets.token_urlsafe(32)`, for the cookie and for the CSRF token. -/
structure SessionDraw where
  raw : String
  csrf : String
  deriving DecidableEq, Repr

/-- `sessions.create`. -/
def newAdminSession (platform : AdminPlatform) (t : AdminTables) (now : Int) (adminId : Nat)
    (draw : SessionDraw) : AdminSession where
  id := nextId (t.sessions.map (·.id))
  tokenHash := platform.sha256 draw.raw
  adminId
  csrfToken := draw.csrf
  createdAt := now
  lastSeenAt := now
  expiresAt := now + platform.security.sessionMaxHours * 3600000000

/-- The checks before the first query, which also count the attempt. -/
def loginGate (headers : Headers) (body : LoginIn) (world : AdminWorld) :
    Except RouteError Unit × AdminWorld :=
  if !"application/json".toList.isPrefixOf headers.contentType.toList then
    (apiError 415 "send JSON", world)
  else match checkSameOrigin headers with
    | .error error => (.error error, world)
    | .ok () =>
        let (within, perIp) := world.perIp.hit headers.ip world.monotonic
        let world := { world with perIp }
        if !within then
          (apiError 429 "too many sign-in attempts — try again later", world)
        else
          let (wait, guesses) := world.guesses.delayFor body.name headers.ip world.monotonic
          let world := { world with guesses }
          if 0 < wait then
            let seconds := wait.ceil
            (apiError 429 s!"too many failed attempts — wait {seconds} s", world)
          else (.ok (), world)

def loginRefusal : ApiError :=
  ⟨401, "invalid username, password or code"⟩

/-- A sign-in that fails is counted. -/
def failLogin {α : Type} (name ip : String) (world : AdminWorld) : Except RouteError α × AdminWorld :=
  let (counted, guesses) := world.guesses.failure name ip world.monotonic
  let world := { world with guesses }
  match counted with
  | .ok () => (.error (.refused loginRefusal), world)
  | .error error => (.error (.raised error), world)

/-- The end of a sign-in that succeeds: the session, in the transaction that used up the factor. -/
def grantLogin (platform : AdminPlatform) (name ip : String) (draw : SessionDraw) (admin : AdminUser)
    (factor : Option Factor) (world : AdminWorld) : Except RouteError SignIn × AdminWorld :=
  let world := { world with guesses := world.guesses.success name ip }
  let t := world.db.val.withAdmin admin
  let session := newAdminSession platform t world.now.utc admin.id draw
  match { t with sessions := t.sessions ++ [session] }.commit with
  | .error error => (.error (.raised error), world)
  | .ok db =>
      (.ok { me := meOf platform.security admin session.csrfToken, adminId := admin.id, factor },
        { world with db })

/-- What the first transaction of `_second_factor` ends in: an answer, or the hashes of the recovery
codes to check the code against. -/
inductive SecondFactor where
  | answered (answer : Except RouteError SignIn)
  | candidates (hashes : List String)

/-- `_second_factor` up to the checks of recovery codes, and the end of the sign-in where it ends
there. -/
def checkSecondFactor (platform : AdminPlatform) (ip : String) (body : LoginIn) (draw : SessionDraw)
    (id : Nat) (world : AdminWorld) : SecondFactor × AdminWorld :=
  let answered := Prod.map SecondFactor.answered fun world : AdminWorld => world
  match refresh world.db.val id with
  | .error error => (.answered (.error error), world)
  | .ok admin =>
      if !admin.enabled then
        answered (failLogin body.name ip world)
      else match admin.secret with
        | none => answered (grantLogin platform body.name ip draw admin none world)
        | some secret =>
            match Totp.matchCode platform.otp secret body.totpCode admin.totpLastStep world.now with
            | .error error => (.answered (.error (.raised error)), world)
            | .ok (some step) =>
                answered (grantLogin platform body.name ip draw { admin with totpLastStep := some step }
                  (some (.step admin.id secret step)) world)
            | .ok none =>
                if Totp.looksLikeRecoveryCode body.totpCode then
                  (.candidates admin.recoveryCodes, world)
                else answered (failLogin body.name ip world)

/-- The last transaction of `_second_factor`: a concurrent sign-in may have spent the code. -/
def spendRecoveryCode (platform : AdminPlatform) (ip : String) (body : LoginIn) (draw : SessionDraw)
    (id : Nat) (used : String) (world : AdminWorld) : Except RouteError SignIn × AdminWorld :=
  match refresh world.db.val id with
  | .error error => (.error error, world)
  | .ok admin =>
      if used ∈ admin.recoveryCodes then
        grantLogin platform body.name ip draw
          { admin with recoveryCodes := admin.recoveryCodes.filter (· ≠ used) }
          (some (.recoveryCode admin.id used)) world
      else failLogin body.name ip world

/-- The sign-in after a correct password. -/
def signInWithFactor (platform : AdminPlatform) (ip : String) (body : LoginIn) (draw : SessionDraw)
    (id : Nat) : Coroutine AdminWorld (Except RouteError SignIn) := do
  match ← Coroutine.atomic (checkSecondFactor platform ip body draw id) with
  | .answered answer => return answer
  | .candidates hashes =>
      let code := lower (strip body.totpCode)
      match hashes.find? fun hashed => verifyPassword platform.bcrypt code (some hashed) with
      | some used => Coroutine.atomic (spendRecoveryCode platform ip body draw id used)
      | none => Coroutine.atomic (failLogin body.name ip)

/-- The sign-in after its first checks. -/
def signIn (platform : AdminPlatform) (ip : String) (body : LoginIn) (draw : SessionDraw) :
    Coroutine AdminWorld (Except RouteError SignIn) := do
  let admin ← Coroutine.read fun world => world.admins.find? (·.username = body.name)
  match admin with
  | some admin =>
      if verifyPassword platform.bcrypt body.password (some admin.passwordHash) && admin.enabled then
        signInWithFactor platform ip body draw admin.id
      else Coroutine.atomic (failLogin body.name ip)
  | none => Coroutine.atomic (failLogin body.name ip)

/-- `login`. -/
def login (platform : AdminPlatform) (headers : Headers) (body : LoginIn) (draw : SessionDraw) :
    Coroutine AdminWorld (Except RouteError SignIn) :=
  (Coroutine.atomic (loginGate headers body)).andThen fun () =>
    signIn platform headers.ip body draw

/-! ### One's own account -/

/-- `_admin`. -/
def ownAdmin (t : AdminTables) (principal : Principal) : Except RouteError AdminUser :=
  match principal.kind, principal.adminId with
  | .session, some id =>
      match t.admin? id with
      | some admin => .ok admin
      | none => apiError 401 "not signed in"
  | _, _ => apiError 403 "not available to API tokens"

/-- The first transaction of a route on one's own account. -/
def readOwnAdmin (principal : Principal) (check : AdminUser → Except RouteError Unit) :
    Coroutine AdminWorld (Except RouteError AdminUser) :=
  Coroutine.read fun world => do
    let admin ← ownAdmin world.db.val principal
    check admin
    return admin

structure PasswordIn where
  currentPassword : String
  newPassword : String
  deriving DecidableEq, Repr

/-- What `change_password` checks between its transactions. -/
def checkPasswordChange (bcrypt : Bcrypt) (body : PasswordIn) (hash : String) :
    Except RouteError Unit :=
  if !verifyPassword bcrypt body.currentPassword (some hash) then
    apiError 403 "current password is wrong"
  else match validateAdminPassword body.newPassword with
    | .error message => apiError 422 message
    | .ok () =>
        if body.newPassword = body.currentPassword then
          apiError 422 "choose a password you have not used just now"
        else .ok ()

/-- The second transaction of `change_password`. -/
def storePassword (principal : Principal) (id : Nat) (digest : String) :
    Coroutine AdminWorld (Except RouteError Unit) :=
  adminTransaction fun world => do
    let admin ← refresh world.db.val id
    let changed := { admin with passwordHash := digest, mustChangePassword := false }
    return ((), (world.db.val.withAdmin changed).revokeAll id principal.sessionId)

/-- `change_password`. -/
def changePassword (platform : AdminPlatform) (headers : Headers) (body : PasswordIn)
    (digest : String) : Coroutine AdminWorld (Except RouteError Unit) :=
  (signedIn platform headers).andThen fun principal =>
    (readOwnAdmin principal fun _ => .ok ()).andThen fun admin =>
      match checkPasswordChange platform.bcrypt body admin.passwordHash with
      | .error error => return .error error
      | .ok () => storePassword principal admin.id digest

/-! ### Two-factor authentication -/

/-- The second transaction of `totp_setup`. -/
def storePendingSecret (id : Nat) (secret : String) : Coroutine AdminWorld (Except RouteError Unit) :=
  adminTransaction fun world => do
    let admin ← refresh world.db.val id
    if admin.secret.isSome then apiError 409 "two-factor authentication is already enabled"
    else return ((), world.db.val.withAdmin { admin with totpPendingSecret := some secret })

/-- `totp_setup`. -/
def totpSetup (platform : AdminPlatform) (headers : Headers) (password secret : String) :
    Coroutine AdminWorld (Except RouteError Unit) :=
  let unlocked (admin : AdminUser) : Except RouteError Unit :=
    if admin.mustChangePassword then apiError 403 "change your password first" else .ok ()
  (signedIn platform headers).andThen fun principal =>
    (readOwnAdmin principal unlocked).andThen fun admin =>
      if verifyPassword platform.bcrypt password (some admin.passwordHash) then
        storePendingSecret admin.id secret
      else return apiError 403 "password is wrong"

/-- The first transaction of `totp_confirm`: the account, the pending secret and the matching step. -/
def matchPendingSecret (platform : AdminPlatform) (principal : Principal) (code : String) :
    Coroutine AdminWorld (Except RouteError (Nat × String × Int)) :=
  Coroutine.read fun world => do
    let admin ← ownAdmin world.db.val principal
    match admin.pendingSecret with
    | none => apiError 409 "start the setup first"
    | some pending =>
        match Totp.matchCode platform.otp pending code none world.now with
        | .error error => .error (.raised error)
        | .ok none => apiError 422 "that code is not valid — check the time on your device"
        | .ok (some step) => return (admin.id, pending, step)

/-- The second transaction of `totp_confirm`. -/
def enableTotp (principal : Principal) (id : Nat) (pending : String) (step : Int)
    (hashes : List String) : Coroutine AdminWorld (Except RouteError Factor) :=
  adminTransaction fun world => do
    let admin ← refresh world.db.val id
    if admin.totpPendingSecret ≠ some pending then
      apiError 409 "the setup changed meanwhile — start again"
    else
      let enabled := { admin with
        totpSecret := some pending, totpPendingSecret := none, totpLastStep := some step,
        recoveryCodes := hashes }
      return (.step id pending step, (world.db.val.withAdmin enabled).revokeAll id principal.sessionId)

/-- `totp_confirm`; the hashes are those of the new recovery codes. -/
def totpConfirm (platform : AdminPlatform) (headers : Headers) (code : String) (hashes : List String) :
    Coroutine AdminWorld (Except RouteError Factor) :=
  (signedIn platform headers).andThen fun principal =>
    (matchPendingSecret platform principal code).andThen fun (id, pending, step) =>
      enableTotp principal id pending step hashes

/-- An administrator without a second factor. -/
def AdminUser.withoutTotp (admin : AdminUser) : AdminUser :=
  { admin with totpSecret := none, totpLastStep := none, recoveryCodes := [] }

/-- The second transaction of `totp_disable`. -/
def disableTotp (platform : AdminPlatform) (principal : Principal) (id : Nat) (passwordOk : Bool)
    (code : String) : Coroutine AdminWorld (Except RouteError Factor) :=
  adminTransaction fun world => do
    let admin ← refresh world.db.val id
    match admin.secret with
    | none => apiError 403 "password or code is wrong"
    | some secret =>
        match Totp.matchCode platform.otp secret code admin.totpLastStep world.now with
        | .error error => .error (.raised error)
        | .ok none => apiError 403 "password or code is wrong"
        | .ok (some step) =>
            if passwordOk then
              return (.step id secret step,
                (world.db.val.withAdmin admin.withoutTotp).revokeAll id principal.sessionId)
            else apiError 403 "password or code is wrong"

/-- `totp_disable`. -/
def totpDisable (platform : AdminPlatform) (headers : Headers) (password code : String) :
    Coroutine AdminWorld (Except RouteError Factor) :=
  let enrolled (admin : AdminUser) : Except RouteError Unit :=
    if admin.secret.isNone then apiError 409 "two-factor authentication is not enabled" else .ok ()
  (signedIn platform headers).andThen fun principal =>
    (readOwnAdmin principal enrolled).andThen fun admin =>
      disableTotp platform principal admin.id
        (verifyPassword platform.bcrypt password (some admin.passwordHash)) code

end Naco
