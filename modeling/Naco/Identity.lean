import Naco.Lib.Coroutine
import Naco.Models
import Naco.Passwords

/-!
# Network users

The canonical form of a user name, what a decision reads of a user (the row with its group), and the
check of a user's password. No transaction is held while bcrypt or the directory works, so that check
is a coroutine with one step for each transaction.
-/

namespace Naco

open Py

def maxUsername : Nat := 64

structure UserInfo where
  id : Nat
  username : String
  source : UserSource
  enabled : Bool
  groupId : Option Nat
  groupName : Option String
  deviceAdminPrivilege : Option Nat
  commandSetId : Option Nat
  deviceAdminAttributes : List String := []
  deriving DecidableEq, Repr

/-- `canonical_username`: trimmed, without a leading `DOMAIN\`, lower-case; empty when unusable. -/
def canonicalUsername (raw : Option String) : String :=
  let name := strip (raw.getD "")
  let name := if '\\' ∈ name.toList then afterLast '\\' name else name
  let name := lower name
  if name = "" ∨ maxUsername < name.toList.length ∨ name.toList.any (·.toNat < 0x20) then ""
  else name

/-- `outerjoin(Group, User.group_id == Group.id)`. -/
def groupOf (t : Tables) (user : User) : Option Group :=
  user.groupId.bind fun id => t.groups.find? (·.id = id)

def UserInfo.ofRow (user : User) (group : Option Group) : UserInfo where
  id := user.id
  username := user.username
  source := user.source
  enabled := user.enabled
  groupId := user.groupId
  groupName := group.map (·.name)
  deviceAdminPrivilege := group.bind (·.deviceAdminPrivilege)
  commandSetId := group.bind (·.commandSetId)
  deviceAdminAttributes := (group.map (·.deviceAdminAttributes)).getD []

/-- `load_user`: the user with the stored password hash. -/
def loadUser (t : Tables) (username : String) : Option (UserInfo × Option String) :=
  (t.users.find? (·.username = username)).map fun user =>
    (UserInfo.ofRow user (groupOf t user), user.passwordHash)

/-! ### The directory -/

structure LdapGroupMapping where
  ldapGroup : String
  group : String
  deriving DecidableEq, Repr

structure LdapConfig where
  enabled : Bool := false
  groupMap : List LdapGroupMapping := []
  deriving DecidableEq, Repr

structure LdapUser where
  email : String
  fullName : String
  groupDns : List String
  deriving DecidableEq, Repr

/-- `ldap_authenticate` as it answers at some time: an `LdapError`, or the entry if the name and the
password are valid. -/
abbrev Directory := String → String → Except String (Option LdapUser)

/-- `map_group`. -/
def mapGroup (cfg : LdapConfig) (groupDns : List String) : Option String :=
  (cfg.groupMap.find? fun mapping => lower mapping.ldapGroup ∈ groupDns.map lower).map (·.group)

/-- The id of the group that an entry is mapped to, if there is such a group. -/
def mappedGroupId (cfg : LdapConfig) (t : Tables) (entry : LdapUser) : Option Nat :=
  (mapGroup cfg entry.groupDns).bind fun name =>
    (t.groups.find? (·.name = name)).map (·.id)

/-- The rows that `_provision` writes; none when the name belongs to a local account. -/
def provisionedTables (cfg : LdapConfig) (t : Tables) (username : String) (entry : LdapUser) :
    Option Tables :=
  match t.users.find? (·.username = username) with
  | none =>
      let user : User :=
        { id := nextId (t.users.map (·.id)), username, source := .ldap, passwordHash := none,
          email := truncate 128 entry.email, fullName := truncate 128 entry.fullName,
          groupId := mappedGroupId cfg t entry }
      some { t with users := t.users ++ [user] }
  | some found =>
      if found.source ≠ .ldap then none
      else
        let user := { found with
          email := orElse (truncate 128 entry.email) found.email
          fullName := orElse (truncate 128 entry.fullName) found.fullName
          groupId := if cfg.groupMap = [] then found.groupId else mappedGroupId cfg t entry }
        some { t with users := t.users.map fun row => if row.id = found.id then user else row }

/-- `load_user` in the session of `_provision`: a row that the session has written and still keeps
(`expire_on_commit=False`) is not read again, only joined with the group it has now. -/
def loadKept (kept : Option User) (t : Tables) (username : String) : Option UserInfo :=
  (t.users.find? (·.username = username)).map fun row =>
    UserInfo.ofRow ((kept.filter (·.id = row.id)).getD row) (groupOf t row)

/-- The write of `_provision`: none when the name belongs to a local account, else the row that the
session keeps. A commit that fails is rolled back, and the session forgets what it wrote. -/
def writeProvisioned (cfg : LdapConfig) (username : String) (entry : LdapUser) (db : Database) :
    Option (Option User) × Database :=
  match provisionedTables cfg db.val username entry with
  | none => (none, db)
  | some t =>
      match commit t with
      | .ok db => (some (t.users.find? (·.username = username)), db)
      | .error _ => (some none, db)

/-- `_provision`: the write, and in a new transaction the user. -/
def provision (cfg : LdapConfig) (username : String) (entry : LdapUser) :
    Coroutine Database (Option UserInfo) := do
  match ← Coroutine.atomic (writeProvisioned cfg username entry) with
  | none => return none
  | some kept => Coroutine.read fun db => loadKept kept db.val username

/-! ### Credentials -/

structure IdentityResult where
  ok : Bool
  reason : String
  username : String
  user : Option UserInfo := none
  deriving DecidableEq, Repr

/-- What checks a password. -/
structure Credentials where
  bcrypt : Bcrypt
  ldap : LdapConfig

/-- The part of `authenticate_user` that asks the directory. -/
def authenticateLdap (cfg : LdapConfig) (directory : Directory) (name password : String)
    (info : Option UserInfo) : Coroutine Database IdentityResult :=
  match directory name password with
  | .error _ => return ⟨false, "directory unavailable", name, info⟩
  | .ok none =>
      return ⟨false, if info.isNone then "unknown user" else "wrong password", name, info⟩
  | .ok (some entry) => do
      let provisioned ← provision cfg name entry
      if provisioned.any (·.enabled) then
        return ⟨true, "ok", name, provisioned⟩
      else
        return ⟨false, "user disabled", name, provisioned⟩

/-- The part of `authenticate_user` after the first transaction, which found the user. -/
def authenticateFound (creds : Credentials) (directory : Directory) (name password : String)
    (found : Option (UserInfo × Option String)) : Coroutine Database IdentityResult :=
  let info := found.map (·.1)
  if info.any (!·.enabled) then
    return ⟨false, "user disabled", name, info⟩
  else if info.any (·.source = .local) then
    if verifyPassword creds.bcrypt password (found.bind (·.2)) then do
      -- `_record_login`, which writes a column that nothing reads
      Coroutine.read fun _ => ()
      return ⟨true, "ok", name, info⟩
    else
      return ⟨false, "wrong password", name, info⟩
  else if !creds.ldap.enabled then
    return ⟨false, if info.isNone then "unknown user" else "directory disabled", name, info⟩
  else
    authenticateLdap creds.ldap directory name password info

/-- `authenticate_user`. The calls of bcrypt that only take time are left out. -/
def authenticateUser (creds : Credentials) (directory : Directory) (username password : String) :
    Coroutine Database IdentityResult := do
  let name := canonicalUsername (some username)
  if name = "" ∨ password = "" then
    return ⟨false, "missing or invalid credentials", orElse name (truncate maxUsername username), none⟩
  else
    let found ← Coroutine.read fun db => loadUser db.val name
    authenticateFound creds directory name password found

/-- `lookup_user`, in its own transaction. -/
def lookupUser (username : String) : Coroutine Database (Option UserInfo) :=
  let name := canonicalUsername (some username)
  if name = "" then return none
  else Coroutine.read fun db => (loadUser db.val name).map (·.1)

end Naco
