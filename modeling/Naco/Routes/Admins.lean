import Naco.Routes.Auth

/-!
# Administrators and their management

SUPERUSERs manage the other administrators; nobody manages their own account here. The last enabled
SUPERUSER can be neither demoted, disabled nor deleted. `nacoctl` works on the same tables.
-/

namespace Naco

open Py

/-! ### The checks -/

/-- `_other_superusers`. -/
def otherSuperusers (t : AdminTables) (id : Nat) : Nat :=
  t.admins.countP fun admin => admin.role = .superuser && admin.enabled && admin.id ≠ id

/-- `_not_self`. -/
def notSelf (principal : Principal) (admin : AdminUser) : Except RouteError Unit :=
  if principal.adminId = some admin.id then
    apiError 409 "ask another SUPERUSER to change your own account"
  else .ok ()

def lastSuperuser : ApiError :=
  ⟨409, "this is the last enabled SUPERUSER"⟩

/-- The administrator that a request is about. -/
def targetAdmin (t : AdminTables) (principal : Principal) (id : Nat) : Except RouteError AdminUser := do
  let admin ← getOr404 t.admins (·.id) id "administrator"
  notSelf principal admin
  return admin

/-! ### The routes -/

structure AdminCreate where
  username : String
  role : AdminRole
  deriving DecidableEq, Repr

structure AdminUpdate where
  role : Option AdminRole := none
  enabled : Option Bool := none
  deriving DecidableEq, Repr

/-- `create_admin`; the digest is that of the temporary password. -/
def createAdmin (platform : AdminPlatform) (headers : Headers) (body : AdminCreate) (digest : String) :
    Coroutine AdminWorld (Except RouteError Unit) :=
  (superuser platform headers).andThen fun _ =>
    adminTransaction fun world => do
      let t := world.db.val
      let new : AdminUser :=
        { id := nextId (t.admins.map (·.id)), username := body.username, passwordHash := digest,
          role := body.role }
      if t.admins.any (·.username = body.username) then
        apiError 409 s!"administrator {body.username} already exists"
      else return ((), { t with admins := t.admins ++ [new] })

def AdminUpdate.apply (body : AdminUpdate) (admin : AdminUser) : AdminUser :=
  { admin with role := body.role.getD admin.role, enabled := body.enabled.getD admin.enabled }

/-- `update_admin`. -/
def updateAdmin (platform : AdminPlatform) (headers : Headers) (id : Nat) (body : AdminUpdate) :
    Coroutine AdminWorld (Except RouteError Unit) :=
  (superuser platform headers).andThen fun principal =>
    adminTransaction fun world => do
      let t := world.db.val
      let admin ← targetAdmin t principal id
      let changed := body.apply admin
      let losesSuperuser := admin.role = .superuser ∧ (changed.role ≠ .superuser ∨ !changed.enabled)
      if losesSuperuser ∧ otherSuperusers t id = 0 then
        .error (.refused lastSuperuser)
      else
        let t := t.withAdmin changed
        return ((), if changed = admin then t else t.revokeAll id)

/-- `reset_admin_password`; the digest is that of the temporary password. -/
def resetAdminPassword (platform : AdminPlatform) (headers : Headers) (id : Nat) (digest : String) :
    Coroutine AdminWorld (Except RouteError Unit) :=
  (superuser platform headers).andThen fun principal =>
    adminTransaction fun world => do
      let t := world.db.val
      let admin ← targetAdmin t principal id
      return ((), (t.withAdmin { admin with passwordHash := digest, mustChangePassword := true }).revokeAll
        id)

/-- `reset_admin_totp`. -/
def resetAdminTotp (platform : AdminPlatform) (headers : Headers) (id : Nat) :
    Coroutine AdminWorld (Except RouteError Unit) :=
  (superuser platform headers).andThen fun principal =>
    adminTransaction fun world => do
      let t := world.db.val
      let admin ← targetAdmin t principal id
      return ((), (t.withAdmin { admin.withoutTotp with totpPendingSecret := none }).revokeAll id)

/-- `delete_admin`; the sessions go with the row. -/
def deleteAdmin (platform : AdminPlatform) (headers : Headers) (id : Nat) :
    Coroutine AdminWorld (Except RouteError Unit) :=
  (superuser platform headers).andThen fun principal =>
    adminTransaction fun world => do
      let t := world.db.val
      let admin ← targetAdmin t principal id
      if admin.role = .superuser ∧ admin.enabled ∧ otherSuperusers t id = 0 then
        .error (.refused lastSuperuser)
      else return ((), { t with admins := deleteRow t.admins (·.id) id }.revokeAll id)

/-! ### `nacoctl` -/

/-- The refusal of a command on a name that no administrator has. -/
def namedAdmin (t : AdminTables) (username : String) : Except RouteError AdminUser :=
  match t.admins.find? (·.username = lower username) with
  | some admin => .ok admin
  | none => .error (.raised (.lookupError s!"no administrator named {username}"))

/-- `nacoctl reset-password`, which also enables the account. -/
def ctlResetPassword (username digest : String) : Coroutine AdminWorld (Except RouteError Unit) :=
  adminTransaction fun world => do
    let t := world.db.val
    let admin ← namedAdmin t username
    return ((), (t.withAdmin { admin with
      passwordHash := digest, mustChangePassword := true, enabled := true }).revokeAll admin.id)

/-- `nacoctl reset-totp`. -/
def ctlResetTotp (username : String) : Coroutine AdminWorld (Except RouteError Unit) :=
  adminTransaction fun world => do
    let t := world.db.val
    let admin ← namedAdmin t username
    return ((), (t.withAdmin { admin.withoutTotp with totpPendingSecret := none }).revokeAll admin.id)

/-! ### First start -/

/-- The row that `ensure_admin` creates. -/
def firstAdmin (digest : String) : AdminUser where
  id := 1
  username := "admin"
  passwordHash := digest
  role := .superuser

/-- `ensure_admin`: nothing is done once there is an administrator. -/
def ensureAdmin (digest : String) : Coroutine AdminWorld (Except RouteError Unit) := do
  let known ← Coroutine.read fun world => !world.admins.isEmpty
  if known then return .ok ()
  else
    adminTransaction fun world =>
      let t := world.db.val
      .ok ((), { t with
        admins := t.admins ++ [{ firstAdmin digest with id := nextId (t.admins.map (·.id)) }] })

/-! ### All requests -/

/-- A request on administrators, with what it draws at random. -/
inductive AdminRequest where
  | login (headers : Headers) (body : LoginIn) (draw : SessionDraw)
  | changePassword (headers : Headers) (body : PasswordIn) (digest : String)
  | totpSetup (headers : Headers) (password secret : String)
  | totpConfirm (headers : Headers) (code : String) (hashes : List String)
  | totpDisable (headers : Headers) (password code : String)
  | createAdmin (headers : Headers) (body : AdminCreate) (digest : String)
  | updateAdmin (headers : Headers) (id : Nat) (body : AdminUpdate)
  | resetAdminPassword (headers : Headers) (id : Nat) (digest : String)
  | resetAdminTotp (headers : Headers) (id : Nat)
  | deleteAdmin (headers : Headers) (id : Nat)
  | ctlResetPassword (username digest : String)
  | ctlResetTotp (username : String)

/-- What a request ends in: for which account a sign-in was, and the factor that was used up. -/
structure AdminAnswer where
  signIn : Option SignIn := none
  factor : Option Factor := none
  deriving DecidableEq, Repr

namespace AdminRequest

def answering {α : Type} (c : Coroutine AdminWorld (Except RouteError α)) (f : α → AdminAnswer) :
    Coroutine AdminWorld (Except RouteError AdminAnswer) := do
  let result ← c
  return result.map f

def body (platform : AdminPlatform) :
    AdminRequest → Coroutine AdminWorld (Except RouteError AdminAnswer)
  | .login headers body draw =>
      answering (Naco.login platform headers body draw) fun signIn =>
        { signIn := some signIn, factor := signIn.factor }
  | .changePassword headers body digest =>
      answering (Naco.changePassword platform headers body digest) fun _ => {}
  | .totpSetup headers password secret =>
      answering (Naco.totpSetup platform headers password secret) fun _ => {}
  | .totpConfirm headers code hashes =>
      answering (Naco.totpConfirm platform headers code hashes) fun factor => { factor := some factor }
  | .totpDisable headers password code =>
      answering (Naco.totpDisable platform headers password code) fun factor => { factor := some factor }
  | .createAdmin headers body digest =>
      answering (Naco.createAdmin platform headers body digest) fun _ => {}
  | .updateAdmin headers id body => answering (Naco.updateAdmin platform headers id body) fun _ => {}
  | .resetAdminPassword headers id digest =>
      answering (Naco.resetAdminPassword platform headers id digest) fun _ => {}
  | .resetAdminTotp headers id => answering (Naco.resetAdminTotp platform headers id) fun _ => {}
  | .deleteAdmin headers id => answering (Naco.deleteAdmin platform headers id) fun _ => {}
  | .ctlResetPassword username digest => answering (Naco.ctlResetPassword username digest) fun _ => {}
  | .ctlResetTotp username => answering (Naco.ctlResetTotp username) fun _ => {}

end AdminRequest

/-- What happens besides: time passes, sessions end or are seen, tokens come and go. -/
inductive AdminEvent where
  | clock (now : ClockReading) (monotonic : ℚ)
  | commit (sessions : List AdminSession) (tokens : List ApiToken)
  | throttle (guesses : GuessGuard) (perIp : SlidingWindow)

def AdminEvent.react : AdminEvent → AdminWorld → AdminWorld
  | .clock now monotonic, world => { world with now, monotonic }
  | .commit sessions tokens, world =>
      match { world.db.val with sessions, tokens }.commit with
      | .ok db => { world with db }
      | .error _ => world
  | .throttle guesses perIp, world => { world with guesses, perIp }

end Naco
