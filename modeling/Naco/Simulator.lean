import Naco.Api
import Naco.Service

/-!
# The simulator

`simulate` answers what would happen if a request arrived now, without recording anything: it finds
the rows itself, applies the hard rules and the policies, and shows every condition it tried.
-/

namespace Naco

open Py

/-- `SimulateIn`. -/
structure SimulateIn where
  authMethod : AuthMethod
  username : String := ""
  mac : String := ""
  nas : String := ""
  ssid : String := ""
  /-- `at`, an aware instant. -/
  atTime : Option Datetime := none

structure SimulateOut where
  accepted : Bool
  reason : String
  policy : String
  vlan : Option Nat
  replyAttributes : ReplyAttributes
  context : Option AuthContext
  trace : List PolicyTrace

/-- `guest_active` at any aware instant. -/
def simulatedGuest (t : Tables) (mac : Option String) (now : Datetime) : Bool :=
  mac.any fun mac => guestActive t mac now.utc

/-- The subject the simulator makes of a request. -/
def simulatedSubject (t : Tables) (body : SimulateIn) (mac : Option String) (now : Datetime) :
    Subject :=
  let username := if body.authMethod ≠ .mab then canonicalUsername (some body.username) else ""
  let nas := if body.nas = "" then none else t.nasClients.find? (·.name = body.nas)
  { method := body.authMethod
    username
    user := if username = "" then none else (loadUser t username).map (·.1)
    mac
    device := mac.bind fun mac => t.devices.find? (·.macAddress = mac)
    isGuest := simulatedGuest t mac now
    nasName := (nas.map (·.name)).getD body.nas
    nasIp := (nas.map (·.ipAddress)).getD ""
    ssid := orNone body.ssid
    now }

/-- What the simulator shows for a decision. -/
def SimulateOut.ofDecision (decision : Decision) (context : Option AuthContext)
    (trace : List PolicyTrace) : SimulateOut where
  accepted := decision.accepted
  reason := decision.reason
  policy := decision.policyName
  vlan := decision.vlan
  replyAttributes := decision.replyAttributes
  context
  trace

/-- The answer for a subject: every condition is tried for the trace, and then the decision is made. -/
def simulateSubject (platform : Platform) (policies : List CompiledPolicy) :
    Except Decision AuthContext → Except RouteError SimulateOut
  | .error decision => .ok (.ofDecision decision none [])
  | .ok ctx =>
      match explain policies ctx platform.timezone, Naco.decide policies ctx platform.timezone with
      | .error error, _ => .error (.raised error)
      | .ok _, .error error => .error (.raised error)
      | .ok traces, .ok decision => .ok (.ofDecision decision (some ctx) traces)

/-- `simulate`. -/
def simulate (platform : Platform) (t : Tables) (utcnow : ClockReading) (body : SimulateIn) :
    Except RouteError SimulateOut :=
  let now := body.atTime.getD utcnow.toDatetime
  let mac := if body.mac = "" then none else normalizeMac (some body.mac)
  if body.mac ≠ "" ∧ mac = none then .error (.refused ⟨422, "not a MAC address"⟩)
  else
    let subject := subjectContext (simulatedSubject t body mac now)
    match loadPolicies t with
    | .error error => .error (.policyLoad error)
    | .ok policies => simulateSubject platform policies subject

end Naco
