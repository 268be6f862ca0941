import Naco.Proof.Clients
import Naco.Proof.Sessions

/-!
# Whether re-evaluation decides as a live request would

Re-evaluation applies the hard rules on the user and on the device as `authorize` does, but it knows
neither whether the NAS is enabled nor what makes a MAB request valid, it finds a device row only where
there is one, and it reads the group of a user that a MAB session happens to be named after. Whatever
policies load, it decides a session as a request would be decided exactly when none of this shows.
-/

namespace Naco

open Py

/-- A request with the session's method, name, station, SSID and NAS, its password just verified. -/
structure SessionRequest (world : World) (attrs : Attrs) (session : RadiusSession)
    (method : AuthMethod) : Prop where
  sameMethod : attrs.get "NACo-Auth-Method" = some method.name
  sessionMethod : session.authMethod = method.name
  sameName : method ≠ .mab → identity attrs method = session.username
  /-- A MAB request names its station. -/
  mabName : method = .mab → normalizeMac (attrs.get "User-Name") = requestMac attrs
  sameMac : requestMac attrs = orNone session.macAddress
  sameSsid : (requestInfo attrs).ssid = orNone session.ssid
  sameNas : parseIp (attrs.get "NACo-NAS-IP") = some session.nasIp
  verified : method ∈ passwordMethods → recentlyVerified world.verified
    (verifiedKey (identity attrs method) (requestInfo attrs)) world.monotonic = true

section

variable {platform : Platform} {world : World} {attrs : Attrs} {session : RadiusSession}
  {method : AuthMethod} {nas : NasClient} {directory : NasDirectory}

theorem SessionRequest.nasIp (hsame : SessionRequest world attrs session method) :
    requestNasIp attrs = session.nasIp := by
  rw [requestNasIp, hsame.sameNas]
  rfl

theorem SessionRequest.fromNas (hsame : SessionRequest world attrs session method)
    (hdirectory : nasDirectory world.db.val = .ok directory)
    (hfind : directory.find session.nasIp = some nas) :
    findNas world.db.val (requestNasIp attrs) = .ok (some nas) := by
  rw [hsame.nasIp]
  exact findNas_of_directory_find world.db.property hdirectory
    (ne_empty_of_parseIp hsame.sameNas) hfind

theorem sessionUser_eq {t : Tables} {name : String} (hmab : method ≠ .mab) :
    sessionUser t name =
      (requestUser t method name).map fun user => { user with deviceAdminAttributes := [] } := by
  by_cases hname : name = ""
  · simp [sessionUser, requestUser, hname]
  · simp [sessionUser, requestUser, hname, hmab, Function.comp_def]

theorem SessionRequest.withPolicies (hsame : SessionRequest world attrs session method)
    (policies : List Policy) (h : { world.db.val with policies }.Consistent) :
    SessionRequest (world.withPolicies policies h) attrs session method :=
  ⟨hsame.sameMethod, hsame.sessionMethod, hsame.sameName, hsame.mabName, hsame.sameMac,
    hsame.sameSsid, hsame.sameNas, hsame.verified⟩

end

def phoneDevice : Device where
  id := 1
  macAddress := "aa:bb:cc:00:00:01"

def phoneSession : RadiusSession where
  id := 1
  nasIp := "10.0.0.1"
  acctSessionId := "0001"
  username := "aabbcc000001"
  macAddress := "aa:bb:cc:00:00:01"
  authMethod := "MAB"
  policyName := "lan"
  vlan := some 10
  decisionDigest := "164bd608f184f6322d5e5f5cf2ec838b27c6e1f6109b4aafad3373ef1b821e6d"

/-- The access switch, enabled or not. -/
def sessionSwitch (enabled : Bool) : NasClient :=
  { accessSwitch with enabled }

def sessionTables (enabled : Bool) : Tables where
  devices := [phoneDevice]
  policies := [anyoneToTen]
  nasClients := [sessionSwitch enabled]
  sessions := [phoneSession]

def sessionWorld (enabled : Bool) : World :=
  { officeWorld with db := ⟨sessionTables enabled, by cases enabled <;> decide⟩ }

end Naco
