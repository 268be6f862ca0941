import Naco.Api
import Naco.Identity
import Naco.Passwords
import Naco.Tacacs.Authz

/-!
# Network users and their groups

Users in a group with a device-admin profile are managed by a SUPERUSER only. A group that a policy
names can be neither renamed nor deleted. Password digests come from bcrypt, before the first query.
-/

namespace Naco

open Py

/-- `_password`. -/
def checkPassword (password : String) : Except RouteError Unit :=
  match validateUserPassword password with
  | .ok () => .ok ()
  | .error message => apiError 422 message

/-- `_group`. -/
def groupById (t : Tables) : Option Nat → Except RouteError (Option Group)
  | none => .ok none
  | some id =>
      match t.groups.find? (·.id = id) with
      | some group => .ok (some group)
      | none => apiError 422 "group does not exist"

/-- `_guard_device_admin`. -/
def guardDeviceAdmin (role : AdminRole) (groups : List (Option Group)) : Except RouteError Unit :=
  if role.allows .superuser then .ok ()
  else if groups.any fun group => group.any fun group => group.deviceAdminPrivilege.isSome then
    apiError 403 "users of device-admin groups are managed by a SUPERUSER"
  else .ok ()

/-! ### Users -/

structure UserCreate where
  username : String
  password : String
  email : String := ""
  fullName : String := ""
  groupId : Option Nat := none
  enabled : Bool := true
  deriving DecidableEq, Repr

/-- `UserUpdate`; a null stands for a field that is left out, but for `group_id`. -/
structure UserUpdate where
  email : Option String := none
  fullName : Option String := none
  groupId : Option (Option Nat) := none
  enabled : Option Bool := none
  password : Option String := none
  deriving DecidableEq, Repr

/-- The row of a new user. -/
def UserCreate.row (body : UserCreate) (id : Nat) (digest : String) : User where
  id
  username := body.username
  source := .local
  passwordHash := some digest
  email := body.email
  fullName := body.fullName
  groupId := body.groupId
  enabled := body.enabled

def createUser (role : AdminRole) (digest : String) (body : UserCreate) (db : Database) :
    Except RouteError Outcome := do
  require role .operator
  checkPassword body.password
  let t := db.val
  let group ← groupById t body.groupId
  guardDeviceAdmin role [group]
  commitOrConflict s!"user {body.username} already exists"
    { t with users := t.users ++ [body.row (nextId (t.users.map (·.id))) digest] }

/-- The row of a user after an update. -/
def UserUpdate.apply (body : UserUpdate) (user : User) (digest : String) : User :=
  { user with
    email := body.email.getD user.email
    fullName := body.fullName.getD user.fullName
    enabled := body.enabled.getD user.enabled
    groupId := body.groupId.getD user.groupId
    passwordHash := if body.password.isSome then some digest else user.passwordHash }

/-- The check of a new password, if there is one. -/
def checkNewPassword (password : Option String) : Except RouteError Unit :=
  match password with
  | some password => checkPassword password
  | none => .ok ()

/-- The group a user is to be in. -/
def targetGroup (t : Tables) (body : UserUpdate) (current : Option Group) :
    Except RouteError (Option Group) :=
  match body.groupId with
  | some groupId => groupById t groupId
  | none => .ok current

def updateUser (role : AdminRole) (digest : String) (id : Nat) (body : UserUpdate) (db : Database) :
    Except RouteError Outcome := do
  require role .operator
  checkNewPassword body.password
  let t := db.val
  let user ← getOr404 t.users (·.id) id "user"
  let current ← groupById t user.groupId
  let target ← targetGroup t body current
  guardDeviceAdmin role [current, target]
  if body.password.isSome ∧ user.source ≠ .local then
    apiError 422 "LDAP users sign in with their directory password"
  else
    let changed := body.apply user digest
    commitOrRaise { t with users := replaceRow t.users (·.id) changed }
      (if changed.enabled ≠ user.enabled ∨ changed.groupId ≠ user.groupId then
        [s!"user {user.username} changed"] else [])

def deleteUser (role : AdminRole) (id : Nat) (db : Database) : Except RouteError Outcome := do
  require role .operator
  let t := db.val
  let user ← getOr404 t.users (·.id) id "user"
  let group ← groupById t user.groupId
  guardDeviceAdmin role [group]
  commitOrRaise { t with users := deleteRow t.users (·.id) id } [s!"user {user.username} deleted"]

/-! ### Groups -/

/-- `_service_attributes`: the lines that are not blank, checked and written one way. It validates
`device_admin_attributes`, so the bodies below hold what it returns. -/
def serviceAttributeLines (lines : List String) : Except Error (List String) := do
  let checked ← (lines.filter fun line => strip line ≠ "").mapM Tacacs.parseServiceAttribute
  return checked.map fun (service, pair) => s!"{service}: {pair}"

structure GroupIn where
  name : String
  description : String := ""
  deviceAdminPrivilege : Option Nat := none
  commandSetId : Option Nat := none
  deviceAdminAttributes : List String := []
  deriving DecidableEq, Repr

/-- `GroupUpdate`: a field is left out, null, or given. -/
structure GroupUpdate where
  name : Option (Option String) := none
  description : Option (Option String) := none
  deviceAdminPrivilege : Option (Option Nat) := none
  commandSetId : Option (Option Nat) := none
  deviceAdminAttributes : Option (Option (List String)) := none
  deriving DecidableEq, Repr

/-- `str(v)` of the values that are no strings. -/
abbrev StrOf := Json → String

/-- `{str(v).casefold() for v in value}`, where `value` is what `cond.get("value", [])` gave. -/
def foldedValues (str : StrOf) : Option Json → Except Error (List String)
  | none => .ok []
  | some (.arr items) => .ok (items.map fun
      | .str s => casefold s
      | value => casefold (str value))
  | some (.str s) => .ok (s.toList.map fun c => casefold (String.singleton c))
  | some (.obj members) => .ok (members.map fun entry => casefold entry.1)
  | some _ => .error (.typeError "object is not iterable")

/-- The condition is on the group of that name. -/
def namesGroup (str : StrOf) (name : String) : Json → Except Error Bool
  | .obj members =>
      match Json.member members "type" with
      | some (.str "group") => do
          return casefold name ∈ (← foldedValues str (Json.member members "value"))
      | _ => .ok false
  | _ => .error (.lookupError "object has no attribute 'get'")

/-- `policy.conditions or []`, as the list that the loop goes through. -/
def storedConditions (conditions : Json) : Except Error (List Json) :=
  if conditions.isFalsy then .ok []
  else match conditions with
    | .arr items => .ok items
    | .str s => .ok (s.toList.map fun c => .str (String.singleton c))
    | .obj members => .ok (members.map fun entry => .str entry.1)
    | _ => .error (.typeError "object is not iterable")

/-- Whether one of the conditions is on the group; the loop stops at the first. -/
def anyNamesGroup (str : StrOf) (name : String) : List Json → Except Error Bool
  | [] => .ok false
  | cond :: conds => do
      if ← namesGroup str name cond then return true else anyNamesGroup str name conds

/-- `_referencing_policies`. -/
def referencingPolicies (str : StrOf) (name : String) : List Policy → Except Error (List String)
  | [] => .ok []
  | policy :: policies => do
      let conditions ← storedConditions policy.conditions
      let hit ← anyNamesGroup str name conditions
      let hits ← referencingPolicies str name policies
      return if hit then policy.name :: hits else hits

/-- The refusal of a change to a group that policies name. -/
def checkUnreferenced (str : StrOf) (t : Tables) (name : String) : Except RouteError Unit :=
  match referencingPolicies str name t.policies with
  | .error error => .error (.raised error)
  | .ok [] => .ok ()
  | .ok refs =>
      let shown := join ", " refs
      apiError 409 s!"group is used by policies: {shown} — update them first"

/-- `_check_command_set`. -/
def checkCommandSet (t : Tables) (id : Option Nat) : Except RouteError Unit :=
  if id.all fun id => t.commandSets.any (·.id = id) then .ok ()
  else apiError 422 "command set does not exist"

def createGroup (role : AdminRole) (body : GroupIn) (db : Database) : Except RouteError Outcome := do
  require role .superuser
  let t := db.val
  checkCommandSet t body.commandSetId
  let group : Group :=
    { id := nextId (t.groups.map (·.id)), name := body.name, description := body.description,
      deviceAdminPrivilege := body.deviceAdminPrivilege, commandSetId := body.commandSetId,
      deviceAdminAttributes := body.deviceAdminAttributes }
  commitOrConflict s!"group {body.name} already exists" { t with groups := t.groups ++ [group] }

/-- The row of a group after an update. -/
def GroupUpdate.apply (body : GroupUpdate) (group : Group) : Group :=
  { group with
    name := (body.name.getD none).getD group.name
    description := (body.description.getD none).getD group.description
    deviceAdminPrivilege := body.deviceAdminPrivilege.getD group.deviceAdminPrivilege
    commandSetId := body.commandSetId.getD group.commandSetId
    deviceAdminAttributes := (body.deviceAdminAttributes.getD none).getD group.deviceAdminAttributes }

/-- The check before another name is given. A null counts as another name here, and is skipped when
the fields are set. -/
def checkRename (str : StrOf) (t : Tables) (body : GroupUpdate) (group : Group) :
    Except RouteError Unit :=
  if body.name.any (· ≠ some group.name) then checkUnreferenced str t group.name else .ok ()

def updateGroup (str : StrOf) (role : AdminRole) (id : Nat) (body : GroupUpdate) (db : Database) :
    Except RouteError Outcome := do
  require role .superuser
  let t := db.val
  let group ← getOr404 t.groups (·.id) id "group"
  checkRename str t body group
  checkCommandSet t (body.commandSetId.getD none)
  if body.description = some none then
    -- the column is NOT NULL
    apiError 409 "a group with that name already exists"
  else
    commitOrConflict "a group with that name already exists"
      { t with groups := replaceRow t.groups (·.id) (body.apply group) }

/-- `ON DELETE SET NULL`. -/
def User.leaveGroup (user : User) (id : Nat) : User :=
  if user.groupId = some id then { user with groupId := none } else user

def deleteGroup (str : StrOf) (role : AdminRole) (id : Nat) (db : Database) :
    Except RouteError Outcome := do
  require role .superuser
  let t := db.val
  let group ← getOr404 t.groups (·.id) id "group"
  checkUnreferenced str t group.name
  commitOrRaise
    { t with
      groups := deleteRow t.groups (·.id) id
      users := t.users.map (·.leaveGroup id) }
    [s!"group {group.name} deleted"]

end Naco
