import Naco.Api
import Naco.Netutils
import Naco.Context

/-!
# Devices and guests

The approval of devices, and the registration of guests by an operator or by the portal. The portal
finds the device from the RADIUS session of the browser's address, never from what the browser sends.
-/

namespace Naco

open Py

def DeviceStatus.value : DeviceStatus → String
  | .pending => "PENDING"
  | .approved => "APPROVED"
  | .blocked => "BLOCKED"

/-- `DeviceCreate`, with the MAC address in normal form. -/
structure DeviceCreate where
  macAddress : String
  status : DeviceStatus := .approved
  deviceType : String := ""
  description : String := ""
  notes : String := ""
  deriving DecidableEq, Repr

/-- `DeviceUpdate`; a null stands for a field that is left out. -/
structure DeviceUpdate where
  status : Option DeviceStatus := none
  deviceType : Option String := none
  description : Option String := none
  notes : Option String := none
  deriving DecidableEq, Repr

/-- The row of a new device; `now` is the default of `last_seen`. -/
def DeviceCreate.row (body : DeviceCreate) (platform : Platform) (id : Nat) (now : Int) : Device where
  id
  macAddress := body.macAddress
  status := body.status
  deviceType := body.deviceType
  vendor := vendorFor platform.oui body.macAddress
  description := body.description
  notes := body.notes
  lastSeen := now

def createDevice (platform : Platform) (now : Int) (role : AdminRole) (body : DeviceCreate)
    (db : Database) : Except RouteError Outcome := do
  require role .operator
  let t := db.val
  let device := body.row platform (nextId (t.devices.map (·.id))) now
  commitOrConflict s!"device {body.macAddress} already exists"
    { t with devices := t.devices ++ [device] } [s!"device {body.macAddress} added"]

def DeviceUpdate.apply (body : DeviceUpdate) (device : Device) : Device :=
  { device with
    status := body.status.getD device.status
    deviceType := body.deviceType.getD device.deviceType
    description := body.description.getD device.description
    notes := body.notes.getD device.notes }

def updateDevice (role : AdminRole) (id : Nat) (body : DeviceUpdate) (db : Database) :
    Except RouteError Outcome := do
  require role .operator
  let t := db.val
  let device ← getOr404 t.devices (·.id) id "device"
  let changed := body.apply device
  commitOrRaise { t with devices := replaceRow t.devices (·.id) changed }
    (if changed.status ≠ device.status ∨ changed.deviceType ≠ device.deviceType then
      [s!"device {device.macAddress} changed"] else [])

def bulkStatus (role : AdminRole) (ids : List Nat) (status : DeviceStatus) (db : Database) :
    Except RouteError Outcome := do
  require role .operator
  let t := db.val
  let devices := t.devices.filter (·.id ∈ ids)
  let shown := status.value
  if devices.length ≠ ids.eraseDups.length then
    apiError 404 "some devices do not exist"
  else
    commitOrRaise
      { t with
        devices := t.devices.map fun device => if device.id ∈ ids then { device with status } else device }
      [s!"{devices.length} devices set to {shown}"]

def deleteDevice (role : AdminRole) (id : Nat) (db : Database) : Except RouteError Outcome := do
  require role .operator
  let t := db.val
  let device ← getOr404 t.devices (·.id) id "device"
  commitOrRaise { t with devices := deleteRow t.devices (·.id) id }
    [s!"device {device.macAddress} deleted"]

/-! ### Guests -/

def microsPerHour : Int := 3600000000
def microsPerMinute : Int := 60000000

/-- `GuestIn`, with the MAC address in normal form. -/
structure GuestIn where
  macAddress : String
  hours : Nat := 8
  deriving DecidableEq, Repr

/-- The row of a new registration, for so many hours. -/
def guestRow (id : Nat) (mac : String) (now : Int) (hours : Nat) : GuestRegistration where
  id
  macAddress := mac
  createdAt := now
  expiresAt := now + hours * microsPerHour

def addGuest (now : Int) (role : AdminRole) (body : GuestIn) (db : Database) :
    Except RouteError Outcome := do
  require role .operator
  let t := db.val
  let guest := guestRow (nextId (t.guests.map (·.id))) body.macAddress now body.hours
  if Representable guest.expiresAt then
    commitOrRaise { t with guests := t.guests ++ [guest] } [s!"guest {body.macAddress} registered"]
  else
    .error (.raised (.overflowError "date value out of range"))

def revokeGuest (now : Int) (role : AdminRole) (id : Nat) (db : Database) :
    Except RouteError Outcome := do
  require role .operator
  let t := db.val
  let guest ← getOr404 t.guests (·.id) id "guest registration"
  if guest.revokedAt.isNone then
    commitOrRaise { t with guests := replaceRow t.guests (·.id) { guest with revokedAt := some now } }
      [s!"guest {guest.macAddress} revoked"]
  else
    return { db }

/-! ### The portal -/

structure PortalConfig where
  enabled : Bool := false
  accessCode : String := ""
  sessionHours : Nat := 8
  matchWindowMinutes : Nat := 15

/-- What `identify` finds behind an address. -/
structure PortalGuest where
  mac : String
  nasIp : String
  blocked : Bool

/-- `identify`: by the latest session with that address in the window. -/
def identify (t : Tables) (clientIp : String) (config : PortalConfig) (now : Int) :
    Option PortalGuest :=
  if clientIp = "" then none
  else
    let since := now - config.matchWindowMinutes * microsPerMinute
    let found := t.sessions.filter fun session =>
      session.framedIp = clientIp && session.macAddress ≠ "" && since ≤ session.updatedAt
    let latest := found.insertionSort fun a b => b.updatedAt ≤ a.updatedAt
    latest.head?.map fun session =>
      { mac := session.macAddress, nasIp := session.nasIp,
        blocked := (t.devices.find? (·.macAddress = session.macAddress)).any (·.status = .blocked) }

/-- The form that the browser sends, with the request it comes in. -/
structure PortalForm where
  clientIp : String
  cookie : String
  csrf : String
  origin : Option String := none
  ownOrigin : String
  accept : String := ""
  code : String := ""
  fullName : String := ""
  email : String := ""

/-- `max_length` of the two fields that a guest fills in. -/
def PortalForm.fits (form : PortalForm) : Bool :=
  form.fullName.length ≤ 128 && form.email.length ≤ 128

/-- `register`. The rate limit is the answer of `_attempts.hit`; a refusal shows the title or the error
of the page that is rendered. -/
def portalRegister (platform : Platform) (config : PortalConfig) (now : Int) (withinLimit : Bool)
    (form : PortalForm) (db : Database) : Except RouteError Outcome := do
  if ¬ config.enabled then
    apiError 404 "not found"
  else if ¬ form.fits then
    apiError 422 "String should have at most 128 characters"
  else if form.cookie = "" ∨ form.cookie ≠ form.csrf ∨ form.origin.any (· ≠ form.ownOrigin) then
    apiError 403 "Please try again"
  else if ¬ withinLimit then
    apiError 429 "Too many attempts"
  else
    let t := db.val
    match identify t form.clientIp config now with
    | none => return { db } -- the waiting page
    | some guest =>
        if guest.blocked then
          apiError 403 "refused"
        else if form.accept ≠ "yes" then
          apiError 422 "Please accept the terms to continue."
        else if config.accessCode ≠ "" ∧ strip form.code ≠ config.accessCode then
          apiError 422 "That access code is not right."
        else
          let row := guestRow (nextId (t.guests.map (·.id))) guest.mac now config.sessionHours
          let known := t.devices.any (·.macAddress = guest.mac)
          let device : Device :=
            { id := nextId (t.devices.map (·.id)), macAddress := guest.mac,
              vendor := vendorFor platform.oui guest.mac, lastSeen := now, lastNasIp := guest.nasIp }
          if Representable row.expiresAt then
            commitOrRaise
              { t with
                devices := if known then t.devices else t.devices ++ [device]
                guests := t.guests ++ [row] }
              [s!"portal registration {guest.mac}"]
          else
            .error (.raised (.overflowError "date value out of range"))

end Naco
