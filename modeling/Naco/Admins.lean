import Naco.Api
import Naco.Lib.Coroutine
import Naco.Passwords
import Naco.RateLimit
import Naco.Totp

/-!
# Administrators

The tables that the management API decides access on: administrators, their sessions, and API tokens.
Every request reads and writes them in transactions of its own, with bcrypt in between.
-/

namespace Naco

open Py

structure AdminUser where
  id : Nat
  username : String
  passwordHash : String
  role : AdminRole := .viewer
  enabled : Bool := true
  mustChangePassword : Bool := true
  totpSecret : Option String := none
  totpPendingSecret : Option String := none
  totpLastStep : Option Int := none
  /-- bcrypt hashes of unused one-time recovery codes. -/
  recoveryCodes : List String := []
  deriving DecidableEq, Repr

namespace AdminUser

/-- The secret of an administrator with two factors; an empty one counts as none. -/
def secret (admin : AdminUser) : Option String :=
  admin.totpSecret.filter (· ≠ "")

def pendingSecret (admin : AdminUser) : Option String :=
  admin.totpPendingSecret.filter (· ≠ "")

end AdminUser

structure AdminSession where
  id : Nat
  /-- SHA-256 of the cookie value. -/
  tokenHash : String
  adminId : Nat
  csrfToken : String
  createdAt : Int
  lastSeenAt : Int
  expiresAt : Int
  deriving DecidableEq, Repr

structure ApiToken where
  id : Nat
  name : String
  tokenHash : String
  role : AdminRole
  expiresAt : Option Int := none
  lastUsedAt : Option Int := none
  revokedAt : Option Int := none
  deriving DecidableEq, Repr

structure AdminTables where
  admins : List AdminUser := []
  sessions : List AdminSession := []
  tokens : List ApiToken := []
  deriving DecidableEq, Repr

/-- The constraints of the schema. -/
@[mk_iff]
structure AdminTables.Consistent (t : AdminTables) : Prop where
  adminIds : (t.admins.map (·.id)).Nodup
  usernames : (t.admins.map (·.username)).Nodup
  sessionIds : (t.sessions.map (·.id)).Nodup
  sessionHashes : (t.sessions.map (·.tokenHash)).Nodup
  sessionAdmins : ∀ session ∈ t.sessions, ∃ admin ∈ t.admins, admin.id = session.adminId
  tokenIds : (t.tokens.map (·.id)).Nodup
  tokenNames : (t.tokens.map (·.name)).Nodup
  tokenHashes : (t.tokens.map (·.tokenHash)).Nodup

instance (t : AdminTables) : Decidable t.Consistent :=
  decidable_of_iff _ (AdminTables.consistent_iff t).symm

theorem AdminTables.consistent_empty : AdminTables.Consistent {} := by
  decide

abbrev AdminDb := { t : AdminTables // t.Consistent }

namespace AdminTables

/-- `commit()`. -/
def commit (t : AdminTables) : Except Error AdminDb :=
  if h : t.Consistent then .ok ⟨t, h⟩ else .error (.integrityError "constraint failed")

/-- `db.get(AdminUser, id)` and `db.refresh(admin)`. -/
def admin? (t : AdminTables) (id : Nat) : Option AdminUser :=
  t.admins.find? (·.id = id)

def withAdmin (t : AdminTables) (admin : AdminUser) : AdminTables :=
  { t with admins := replaceRow t.admins (·.id) admin }

/-- `revoke_all`. -/
def revokeAll (t : AdminTables) (adminId : Nat) (keep : Option Nat := none) : AdminTables :=
  { t with sessions := t.sessions.filter fun row => row.adminId ≠ adminId || keep = some row.id }

end AdminTables

/-! ### What the API works on -/

/-- `security` of the configuration. -/
structure SecurityConfig where
  requireTotp : Bool := true
  sessionIdleMinutes : Nat := 30
  sessionMaxHours : Nat := 12

/-- What the API takes from packages: bcrypt, SHA-256 and pyotp. -/
structure AdminPlatform where
  bcrypt : Bcrypt
  sha256 : String → String
  otp : Totp.GenerateOtp
  security : SecurityConfig := {}

/-- The committed state, the clocks, and the throttles of the sign-in. -/
structure AdminWorld where
  db : AdminDb
  now : ClockReading
  monotonic : ℚ
  guesses : GuessGuard
  perIp : SlidingWindow

namespace AdminWorld

def admins (world : AdminWorld) : List AdminUser :=
  world.db.val.admins

end AdminWorld

/-- A transaction that ends in an answer and a commit, or is rolled back. -/
def adminTransaction {α : Type} (route : AdminWorld → Except RouteError (α × AdminTables)) :
    Coroutine AdminWorld (Except RouteError α) :=
  Coroutine.atomic fun world =>
    match route world with
    | .error error => (.error error, world)
    | .ok (answer, t) =>
        match t.commit with
        | .error error => (.error (.raised error), world)
        | .ok db => (.ok answer, { world with db })

/-- `db.refresh(admin)`, which raises if the row is gone. -/
def refresh (t : AdminTables) (id : Nat) : Except RouteError AdminUser :=
  match t.admin? id with
  | some admin => .ok admin
  | none => .error (.raised (.lookupError "Could not refresh instance"))

end Naco
