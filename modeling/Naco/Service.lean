import Naco.Clients
import Naco.Engine
import Naco.Lib.EventLoop
import Naco.Netutils
import Naco.RateLimit
import Naco.Subject

/-!
# AAA decisions for FreeRADIUS

`authorize` answers one request: it resolves the NAS, picks the identity that the method speaks for,
records the device, applies the hard rules and the recent-verification rule, and evaluates the
policies. The whole of it runs in one transaction, and every answer writes one `auth_logs` row.
`authenticate` checks a password before that. It waits for the user's row, for bcrypt or the directory,
and for the log, and other calls run meanwhile.
-/

namespace Naco

open Py

/-! ### Request attributes -/

/-- The attributes of a request. Names are compared in lower case; a name given twice counts once,
with the values given last. -/
structure Attrs where
  values : List (String × List String)
  deriving DecidableEq, Repr

namespace Attrs

def all (attrs : Attrs) (name : String) : List String :=
  ((attrs.values.reverse.find? fun entry => lower entry.1 = lower name).map (·.2)).getD []

def get (attrs : Attrs) (name : String) : Option String :=
  (attrs.all name).head?

end Attrs

structure RequestInfo where
  method : Option AuthMethod
  nasIp : String
  mac : Option String
  ssid : Option String
  callingStation : String
  deriving DecidableEq, Repr

/-- `_SSID_ATTRIBUTES`: where controllers that do not put the SSID in Called-Station-Id send it. -/
def ssidAttributes : List String := [
  "Called-Station-SSID", "Aruba-Essid-Name", "Ruckus-SSID", "Fortinet-SSID", "Trapeze-SSID",
  "TP-CAPWAP-SSID"]

/-- The SSID of a `cisco-wlan-ssid=…` pair. -/
def ciscoSsid (pair : String) : Option String :=
  let (key, value) := partition '=' pair
  let value := strip (value.getD "")
  if lower (strip key) = "cisco-wlan-ssid" ∧ value ≠ "" then some (truncate 64 value) else none

/-- `_ssid`. -/
def ssidOf (attrs : Attrs) : Option String :=
  match (parseCalledStation (attrs.get "Called-Station-Id")).2 with
  | some ssid => some ssid
  | none =>
      let vendorSsid := ssidAttributes.findSome? fun name =>
        (orNone (strip ((attrs.get name).getD ""))).map (truncate 64)
      match vendorSsid with
      | some ssid => some ssid
      | none => (attrs.all "Cisco-AVPair").findSome? ciscoSsid

/-- `_request_info`. -/
def requestInfo (attrs : Attrs) : RequestInfo :=
  let calling := (attrs.get "Calling-Station-Id").getD ""
  { method := (attrs.get "NACo-Auth-Method").bind AuthMethod.ofName
    nasIp := (parseIp (attrs.get "NACo-NAS-IP")).getD ""
    mac := normalizeMac (some calling)
    ssid := ssidOf attrs
    callingStation := truncate 64 calling }

/-- `_identity`: the name from the attribute the method speaks for. -/
def identity (attrs : Attrs) (method : AuthMethod) : String :=
  canonicalUsername (attrs.get (match method with
    | .eapTls => "TLS-Client-Cert-Common-Name"
    | .eapTtls | .peap => "NACo-Inner-Identity"
    | .pap | .mab => "User-Name"))

/-! ### Recent verifications -/

/-- A user name, a NAS address and a station. -/
abbrev VerifiedKey := String × String × String

def verifiedSeconds : ℚ := 120
def maxVerified : Nat := 50000

def verifiedKey (username : String) (req : RequestInfo) : VerifiedKey :=
  (username, req.nasIp, req.mac.getD req.callingStation)

/-- `while len(_verified) > _MAX_VERIFIED: _verified.popitem(last=False)`. -/
def evict (verified : Dict VerifiedKey ℚ) : Dict VerifiedKey ℚ :=
  (Nat.repeat Dict.popFirst (verified.size - maxVerified) verified)

/-- `_remember_verified`. -/
def rememberVerified (verified : Dict VerifiedKey ℚ) (key : VerifiedKey) (monotonic : ℚ) :
    Dict VerifiedKey ℚ :=
  evict ((verified.set key monotonic).moveToEnd key)

/-- `_recently_verified`. -/
def recentlyVerified (verified : Dict VerifiedKey ℚ) (key : VerifiedKey) (monotonic : ℚ) : Bool :=
  match verified.get? key with
  | none => false
  | some at_ => decide (monotonic - at_ ≤ verifiedSeconds)

/-- `PASSWORD_METHODS`. -/
def passwordMethods : List AuthMethod :=
  [.pap, .eapTtls, .peap]

/-! ### Authorization -/

/-- What the service works on: the committed database, the clocks, and its memory. -/
structure World where
  db : Database
  now : ClockReading
  monotonic : ℚ
  verified : Dict VerifiedKey ℚ
  guesses : GuessGuard

/-- The world of a service that has just started. -/
def World.start (db : Database) (now : ClockReading) (monotonic : ℚ) : World where
  db
  now
  monotonic
  verified := Dict.empty
  guesses := .new

/-- `guest_active`. -/
def guestActive (t : Tables) (mac : String) (now : Int) : Bool :=
  t.guests.any fun guest =>
    guest.macAddress = mac && guest.revokedAt.isNone && decide (now < guest.expiresAt)

/-- `_see_device`: the device row of a MAC address, which is created or brought up to date. -/
def seeDevice (platform : Platform) (t : Tables) (mac nasIp username : String) (now : Int) :
    Device × Tables :=
  match t.devices.find? (·.macAddress = mac) with
  | none =>
      let device : Device :=
        { id := nextId (t.devices.map (·.id)), macAddress := mac,
          vendor := vendorFor platform.oui mac, lastSeen := now, lastNasIp := nasIp,
          lastUsername := truncate 64 username }
      (device, { t with devices := t.devices ++ [device] })
  | some found =>
      let device := { found with
        lastSeen := now, lastNasIp := nasIp
        lastUsername := if username = "" then found.lastUsername else truncate 64 username }
      (device, { t with devices := t.devices.map fun row => if row.id = found.id then device else row })

/-- The device of a request, if it names a station with a MAC address. -/
def seeStation (platform : Platform) (t : Tables) (req : RequestInfo) (username : String)
    (now : Int) : Option Device × Tables :=
  match req.mac with
  | none => (none, t)
  | some mac =>
      let (device, t) := seeDevice platform t mac req.nasIp username now
      (some device, t)

/-- `_log_decision`. -/
def logDecision (platform : Platform) (t : Tables) (req : RequestInfo) (method username nasName : String)
    (result : AuthResult) (reason : String) (decision : Option Decision) (now : Int) : Tables :=
  let accepted := decision.filter (·.accepted)
  let row : AuthLog :=
    { id := nextId (t.authLogs.map (·.id)), timestamp := now, username := truncate 64 username,
      macAddress := req.mac.getD "", nasIp := req.nasIp, nasName := truncate 64 nasName,
      ssid := truncate 64 (req.ssid.getD ""), authMethod := truncate 16 method, result,
      reason := truncate 255 reason,
      policyName := truncate 128 ((decision.map (·.policyName)).getD ""),
      vlan := accepted.bind (·.vlan)
      decisionDigest := (accepted.map (Decision.digest platform)).getD "" }
  { t with authLogs := t.authLogs ++ [row] }

/-- The user a request speaks for. -/
def requestUser (t : Tables) (method : AuthMethod) (username : String) : Option UserInfo :=
  if method ≠ .mab ∧ username ≠ "" then (loadUser t username).map (·.1) else none

/-- The refusals with which `_decide` starts; past them the method and the NAS are known. -/
def requestGate (attrs : Attrs) (req : RequestInfo) (nas : Option NasClient) :
    Except Decision (AuthMethod × NasClient) :=
  match req.method with
  | none => .error (deny "unknown authentication method")
  | some method =>
      match nas.filter (·.enabled) with
      | none => .error (deny "unknown or disabled NAS")
      | some nas =>
          if method = .mab ∧ (req.mac = none ∨ normalizeMac (attrs.get "User-Name") ≠ req.mac) then
            .error (deny "not a valid MAB request")
          else .ok (method, nas)

/-- The rest of `_decide`, on the rows it finds. -/
def decideSubject (platform : Platform) (world : World) (req : RequestInfo) (username : String)
    (subject : Subject) : Except Error Decision :=
  match subjectContext subject with
  | .error decision => .ok decision
  | .ok ctx =>
      if subject.method ∈ passwordMethods ∧
          !recentlyVerified world.verified (verifiedKey username req) world.monotonic then
        .ok (deny "password was not verified by NACo")
      else
        evaluate platform world.db.val ctx

/-- The arguments of `subject_context` for a request, with the device row it sees. -/
def requestSubject (world : World) (req : RequestInfo) (username : String) (method : AuthMethod)
    (nas : NasClient) (device : Option Device) : Subject where
  method
  username
  user := requestUser world.db.val method username
  mac := req.mac
  device
  isGuest := req.mac.any fun mac => guestActive world.db.val mac world.now.utc
  nasName := nas.name
  nasIp := req.nasIp
  ssid := req.ssid
  now := world.now.toDatetime

/-- `_decide`, with the tables it leaves. -/
def decideRequest (platform : Platform) (world : World) (attrs : Attrs) (req : RequestInfo)
    (nas : Option NasClient) (username : String) : Except Error (Decision × Tables) :=
  match requestGate attrs req nas with
  | .error decision => .ok (decision, world.db.val)
  | .ok (method, nas) =>
      let seen := seeStation platform world.db.val req username world.now.utc
      let subject := requestSubject world req username method nas seen.1
      (decideSubject platform world req username subject).map (·, seen.2)

/-- The name `authorize` decides on: none for MAB or an unknown method. -/
def authorizedName (attrs : Attrs) (req : RequestInfo) : String :=
  match req.method with
  | none | some .mab => ""
  | some method => identity attrs method

/-- `authorize`. An exception rolls the transaction back. -/
def authorize (platform : Platform) (world : World) (attrs : Attrs) :
    Except Error (Decision × World) := do
  let req := requestInfo attrs
  let nas ← findNas world.db.val req.nasIp
  let username := authorizedName attrs req
  let (decision, t) ← decideRequest platform world attrs req nas username
  let logged := logDecision platform t req ((req.method.map AuthMethod.name).getD "") username
    ((nas.map (·.name)).getD "") (if decision.accepted then .accept else .reject) decision.reason
    decision world.now.utc
  let db ← commit logged
  return (decision, { world with db })

/-! ### Authentication -/

/-- What `authenticate` does with accepted credentials. -/
def acceptCredentials (world : World) (req : RequestInfo) (rawName key source : String) : World :=
  let name := canonicalUsername (some rawName)
  { world with
    guesses := world.guesses.success key source
    verified :=
      if name = "" then world.verified
      else rememberVerified world.verified (verifiedKey name req) world.monotonic }

/-- The database with the log row of refused credentials. -/
def logRejection (platform : Platform) (db : Database) (req : RequestInfo)
    (method username reason : String) (now : Int) : Except Error Database := do
  let nas ← findNas db.val req.nasIp
  commit (logDecision platform db.val req method username ((nas.map (·.name)).getD "") .reject reason
    none now)

/-- What `authenticate` does with refused credentials, in a transaction of its own. -/
def rejectCredentials (platform : Platform) (req : RequestInfo) (method username reason : String) :
    Coroutine World (Except Error Bool) :=
  Coroutine.atomic fun world =>
    match logRejection platform world.db req method username reason world.now.utc with
    | .ok db => (.ok false, { world with db })
    | .error error => (.error error, world)

/-- A call of the guess guard, which reads the clock. -/
def withGuesses {α : Type} (f : GuessGuard → ℚ → α × GuessGuard) : Coroutine World α :=
  Coroutine.atomic fun world =>
    ((f world.guesses world.monotonic).1,
      { world with guesses := (f world.guesses world.monotonic).2 })

/-- What `authenticate` reads of a request: the source slowed down, and the name as it is sent and as
the guess guard knows it. -/
structure LoginInfo where
  req : RequestInfo
  method : String
  rawName : String
  key : String
  source : String

def loginInfo (attrs : Attrs) : LoginInfo :=
  let req := requestInfo attrs
  let rawName := (attrs.get "User-Name").getD ""
  { req
    method := (req.method.map AuthMethod.name).getD "PAP"
    rawName
    key := orElse (canonicalUsername (some rawName)) (truncate 64 rawName)
    source := orElse (req.mac.getD req.callingStation) req.nasIp }

/-- The rest of `authenticate` after `authenticate_user`. -/
def settleCredentials (platform : Platform) (login : LoginInfo) (result : IdentityResult) :
    Coroutine World (Except Error Bool) :=
  if result.ok then
    Coroutine.atomic fun world =>
      (.ok true, acceptCredentials world login.req login.rawName login.key login.source)
  else do
    match ← withGuesses fun guesses now => guesses.failure login.key login.source now with
    | .error error => return .error error
    | .ok () => rejectCredentials platform login.req login.method result.username result.reason

def authenticate (platform : Platform) (creds : Credentials) (directory : Directory) (attrs : Attrs) :
    Coroutine World (Except Error Bool) := do
  let login := loginInfo attrs
  let wait ← withGuesses fun guesses now => guesses.delayFor login.key login.source now
  if 0 < wait then
    rejectCredentials platform login.req login.method login.key
      "too many failed attempts — slowed down"
  else
    let password := (attrs.get "User-Password").getD ""
    let result ← (authenticateUser creds directory login.rawName password).zoom World.db
      fun world db => { world with db }
    settleCredentials platform login result

/-! ### The service -/

inductive AaaRequest where
  /-- Each call meets the directory as it answers then. -/
  | authenticate (directory : Directory) (attrs : Attrs)
  | authorize (attrs : Attrs)

inductive AaaAnswer where
  | authenticated (result : Except Error Bool)
  | authorized (result : Except Error Decision)

/-- `authenticate` returned `True`. -/
def AaaAnswer.verifies : AaaAnswer → Bool
  | .authenticated (.ok true) => true
  | _ => false

/-- `authorize` returned an accept. -/
def AaaAnswer.accepts : AaaAnswer → Bool
  | .authorized (.ok decision) => decision.accepted
  | _ => false

/-- `authorize` as a step: besides the transaction it reads the recent verifications once, with the
clock, so all of it can be taken to happen then. -/
def authorizeStep (platform : Platform) (attrs : Attrs) (world : World) :
    Except Error Decision × World :=
  match authorize platform world attrs with
  | .ok (decision, world) => (.ok decision, world)
  | .error error => (.error error, world)

def AaaRequest.body (platform : Platform) (creds : Credentials) :
    AaaRequest → Coroutine World AaaAnswer
  | .authenticate directory attrs => do
      let result ← Naco.authenticate platform creds directory attrs
      return .authenticated result
  | .authorize attrs => do
      let result ← Coroutine.atomic (authorizeStep platform attrs)
      return .authorized result

/-- What happens outside the service: time passes, and the rest of NACo writes to the database. -/
inductive AaaEvent where
  | clock (now : ClockReading) (elapsed : ℚ≥0)
  | commit (db : Database)

def AaaEvent.react : AaaEvent → World → World
  | .clock now elapsed, world => { world with now, monotonic := world.monotonic + elapsed }
  | .commit db, world => { world with db }

end Naco
