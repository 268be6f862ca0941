import Naco.Lib.Datetime
import Mathlib.Data.List.Nodup
import Mathlib.Tactic.MkIffOfInductiveProp

/-!
# The database

The tables that decisions read and that the routes write. A committed state satisfies the
constraints SQLite enforces: primary keys and unique columns, foreign keys, and the `CHECK`s. They
are the fields of `Tables.Consistent`, and a `Database` cannot be built without them; `commit` is the
only way to one.

Columns that no modelled function reads are left out. A command set carries its rules, in the order
of their positions.
-/

namespace Naco

open Py

inductive UserSource where
  | local
  | ldap
  deriving DecidableEq, Repr

inductive DeviceStatus where
  | pending
  | approved
  | blocked
  deriving DecidableEq, Repr

inductive PolicyAction where
  | permit
  | deny
  deriving DecidableEq, Repr

inductive CommandAction where
  | permit
  | deny
  deriving DecidableEq, Repr

inductive AuthResult where
  | accept
  | reject
  deriving DecidableEq, Repr

structure CommandSet where
  id : Nat
  name : String
  description : String := ""
  defaultAction : CommandAction := .deny
  rules : List (CommandAction × String) := []
  deriving DecidableEq, Repr

structure Group where
  id : Nat
  name : String
  description : String := ""
  deviceAdminPrivilege : Option Nat := none
  commandSetId : Option Nat := none
  deviceAdminAttributes : List String := []
  deriving DecidableEq, Repr

structure User where
  id : Nat
  username : String
  source : UserSource := .local
  passwordHash : Option String := none
  email : String := ""
  fullName : String := ""
  groupId : Option Nat := none
  enabled : Bool := true
  deriving DecidableEq, Repr

structure Device where
  id : Nat
  macAddress : String
  status : DeviceStatus := .pending
  deviceType : String := ""
  vendor : String := ""
  description : String := ""
  notes : String := ""
  lastSeen : Int := 0
  lastNasIp : String := ""
  lastUsername : String := ""
  deriving DecidableEq, Repr

structure GuestRegistration where
  id : Nat
  macAddress : String
  createdAt : Int
  expiresAt : Int
  revokedAt : Option Int := none
  deriving DecidableEq, Repr

structure Policy where
  id : Nat
  name : String
  description : String := ""
  priority : Int := 100
  enabled : Bool := true
  conditions : Json := .arr []
  action : PolicyAction
  vlan : Option Nat := none
  replyAttributes : Json := .obj []

structure NasClient where
  id : Nat
  name : String
  ipAddress : String
  secret : String
  coaPort : Nat := 3799
  vendor : String := "standard"
  requireMessageAuthenticator : Bool := true
  description : String := ""
  enabled : Bool := true
  deriving DecidableEq, Repr

structure RadiusSession where
  id : Nat
  nasIp : String
  acctSessionId : String
  username : String := ""
  acctUsername : String := ""
  callingStationId : String := ""
  nasIpAddress : String := ""
  nasIdentifier : String := ""
  auditSessionId : String := ""
  macAddress : String := ""
  framedIp : String := ""
  ssid : String := ""
  authMethod : String := ""
  policyName : String := ""
  vlan : Option Nat := none
  decisionDigest : String := ""
  startedAt : Int := 0
  updatedAt : Int := 0
  inputOctets : Int := 0
  outputOctets : Int := 0
  sessionTime : Int := 0
  deriving DecidableEq, Repr

structure AuthLog where
  id : Nat
  timestamp : Int
  username : String
  macAddress : String
  nasIp : String
  nasName : String
  ssid : String
  authMethod : String
  result : AuthResult
  reason : String
  policyName : String
  vlan : Option Nat
  decisionDigest : String
  deriving DecidableEq, Repr

structure Tables where
  commandSets : List CommandSet := []
  groups : List Group := []
  users : List User := []
  devices : List Device := []
  guests : List GuestRegistration := []
  policies : List Policy := []
  nasClients : List NasClient := []
  sessions : List RadiusSession := []
  authLogs : List AuthLog := []

/-- The constraints of the schema. -/
@[mk_iff]
structure Tables.Consistent (t : Tables) : Prop where
  commandSetIds : (t.commandSets.map (·.id)).Nodup
  commandSetNames : (t.commandSets.map (·.name)).Nodup
  groupIds : (t.groups.map (·.id)).Nodup
  groupNames : (t.groups.map (·.name)).Nodup
  groupPrivileges : ∀ group ∈ t.groups, ∀ level ∈ group.deviceAdminPrivilege, 1 ≤ level ∧ level ≤ 15
  groupCommandSets : ∀ group ∈ t.groups, ∀ id ∈ group.commandSetId, ∃ set ∈ t.commandSets, set.id = id
  userIds : (t.users.map (·.id)).Nodup
  usernames : (t.users.map (·.username)).Nodup
  userGroups : ∀ user ∈ t.users, ∀ id ∈ user.groupId, ∃ group ∈ t.groups, group.id = id
  deviceIds : (t.devices.map (·.id)).Nodup
  deviceMacs : (t.devices.map (·.macAddress)).Nodup
  guestIds : (t.guests.map (·.id)).Nodup
  policyIds : (t.policies.map (·.id)).Nodup
  policyNames : (t.policies.map (·.name)).Nodup
  policyVlans : ∀ policy ∈ t.policies, ∀ vlan ∈ policy.vlan, 1 ≤ vlan ∧ vlan ≤ 4094
  nasIds : (t.nasClients.map (·.id)).Nodup
  nasNames : (t.nasClients.map (·.name)).Nodup
  nasAddresses : (t.nasClients.map (·.ipAddress)).Nodup
  nasPorts : ∀ nas ∈ t.nasClients, 1 ≤ nas.coaPort ∧ nas.coaPort ≤ 65535
  sessionIds : (t.sessions.map (·.id)).Nodup
  sessionKeys : (t.sessions.map fun s => (s.nasIp, s.acctSessionId)).Nodup
  authLogIds : (t.authLogs.map (·.id)).Nodup

instance (t : Tables) : Decidable t.Consistent :=
  decidable_of_iff _ (Tables.consistent_iff t).symm

theorem Tables.consistent_empty : Tables.Consistent {} := by
  decide

/-- A committed state. -/
abbrev Database := { t : Tables // t.Consistent }

/-- `commit()`: SQLite refuses a state that breaks a constraint. -/
def commit (t : Tables) : Except Error Database :=
  if h : t.Consistent then .ok ⟨t, h⟩ else .error (.integrityError "constraint failed")

theorem commit_of_consistent {t : Tables} (h : t.Consistent) : commit t = .ok ⟨t, h⟩ :=
  dif_pos h

theorem commit_eq_ok {t : Tables} {db : Database} (h : commit t = .ok db) : db.val = t := by
  unfold commit at h
  split at h
  · cases h
    rfl
  · cases h

/-- The id SQLite gives to the next row. -/
def nextId (ids : List Nat) : Nat :=
  ids.foldr max 0 + 1

theorem lt_nextId_of_mem {ids : List Nat} {id : Nat} (h : id ∈ ids) : id < nextId ids := by
  induction ids with
  | nil => cases h
  | cons head ids ih =>
      simp only [nextId, List.foldr_cons] at ih ⊢
      rcases List.mem_cons.mp h with rfl | hmem
      · omega
      · have := ih hmem
        omega

theorem nodup_concat_nextId {ids : List Nat} (h : ids.Nodup) : (ids ++ [nextId ids]).Nodup := by
  refine List.Nodup.append h (List.nodup_singleton _) ?_
  intro id hmem hnew
  rw [List.mem_singleton] at hnew
  exact Nat.lt_irrefl _ (hnew ▸ lt_nextId_of_mem hmem)

end Naco
