import Naco.Models

/-!
# What the engine decides on, and what it decides

An `AuthContext` is everything a policy condition can ask about. A `Decision` is what the NAS is
told, with the policy it comes from; its digest is the fingerprint that a session keeps and that
re-evaluation compares.
-/

namespace Naco

open Py

/-- `AUTH_METHODS`. -/
inductive AuthMethod where
  | eapTls
  | eapTtls
  | peap
  | pap
  | mab
  deriving DecidableEq, Repr

namespace AuthMethod

def all : List AuthMethod :=
  [.eapTls, .eapTtls, .peap, .pap, .mab]

def name : AuthMethod → String
  | .eapTls => "EAP-TLS"
  | .eapTtls => "EAP-TTLS"
  | .peap => "PEAP"
  | .pap => "PAP"
  | .mab => "MAB"

/-- The known method of this name. -/
def ofName (s : String) : Option AuthMethod :=
  all.find? (·.name = s)

theorem name_injective : Function.Injective name := by
  intro a b h
  cases a <;> cases b <;> first | rfl | exact absurd h (by decide)

theorem ofName_eq_some {s : String} {method : AuthMethod} :
    ofName s = some method ↔ method.name = s := by
  constructor
  · intro h
    have := List.find?_some h
    simpa using this
  · rintro rfl
    cases method <;> decide

end AuthMethod

/-- `DEVICE_STATES`. A blocked device never reaches a policy. -/
inductive DeviceState where
  | approved
  | pending
  | guest
  deriving DecidableEq, Repr

namespace DeviceState

def all : List DeviceState :=
  [.approved, .pending, .guest]

def name : DeviceState → String
  | .approved => "approved"
  | .pending => "pending"
  | .guest => "guest"

end DeviceState

structure AuthContext where
  authMethod : AuthMethod
  username : String := ""
  group : Option String := none
  mac : Option String := none
  deviceStatus : Option DeviceState := none
  deviceType : String := ""
  vendor : String := ""
  nasName : String := ""
  nasIp : String := ""
  ssid : Option String := none
  now : Datetime
  deriving DecidableEq, Repr

/-! ### Decisions -/

/-- One value of a RADIUS reply attribute. -/
inductive ReplyValue where
  | int (value : Nat)
  | text (value : String)
  deriving DecidableEq, Repr

/-- What a policy gives for one attribute name. -/
inductive ReplyEntry where
  | one (value : ReplyValue)
  | many (values : List ReplyValue)
  deriving DecidableEq, Repr

/-- Reply attributes, in the order of the dictionary that holds them. -/
abbrev ReplyAttributes := List (String × ReplyEntry)

structure Decision where
  action : PolicyAction
  policyId : Option Nat
  policyName : String
  reason : String
  vlan : Option Nat := none
  replyAttributes : ReplyAttributes := []
  deriving DecidableEq, Repr

namespace Decision

def accepted (decision : Decision) : Bool :=
  decision.action = .permit

end Decision

def deny (reason : String) (policyId : Option Nat := none) (policyName : String := "") : Decision :=
  { action := .deny, policyId, policyName, reason }

@[simp]
theorem accepted_deny (reason : String) (policyId : Option Nat) (policyName : String) :
    (deny reason policyId policyName).accepted = false :=
  rfl

def PolicyAction.value : PolicyAction → String
  | .permit => "PERMIT"
  | .deny => "DENY"

def ReplyValue.dump : ReplyValue → String
  | .int value => toString value
  | .text value => dumpString value

def ReplyEntry.dump : ReplyEntry → String
  | .one value => value.dump
  | .many values => dumpArray (values.map ReplyValue.dump)

/-- What the NAS is told, written as canonical JSON. -/
def Decision.document (decision : Decision) : String :=
  dumpObject [
    ("action", dumpString decision.action.value),
    ("vlan", (decision.vlan.map toString).getD "null"),
    ("attrs", dumpObject (decision.replyAttributes.map fun entry => (entry.1, entry.2.dump)))]

/-- What the code takes from its installation: the configured time zone, the IEEE registry of vendor
prefixes, and SHA-256 as a hex digest. -/
structure Platform where
  timezone : Zone
  oui : String → Option String
  sha256 : String → String

/-- `Decision.digest`: CoA compares these. -/
def Decision.digest (platform : Platform) (decision : Decision) : String :=
  platform.sha256 decision.document

/-- What the NAS is told: the action, the VLAN and the attributes. -/
structure Answer where
  action : PolicyAction
  vlan : Option Nat
  replyAttributes : ReplyAttributes
  deriving DecidableEq, Repr

def Decision.answer (decision : Decision) : Answer :=
  ⟨decision.action, decision.vlan, decision.replyAttributes⟩

end Naco
