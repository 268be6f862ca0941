import Naco.Service
import Mathlib.Data.List.MinMax

/-!
# Accounting

Start and Interim-Update write the row of a session, Stop deletes it, and Accounting-On or -Off deletes
all rows of the NAS. A session is known by the address its packets come from and the first 64 characters
of its Acct-Session-Id. What the NAS reports is kept as it was reported; the identity and the decision
come from the latest ACCEPT of the log.
-/

namespace Naco

open Py

inductive AcctStatus where
  | start
  | stop
  | interimUpdate
  | accountingOn
  | accountingOff
  deriving DecidableEq, Repr

/-- `_STATUS`. -/
def acctStatusNames : List (String × AcctStatus) := [
  ("1", .start), ("2", .stop), ("3", .interimUpdate), ("7", .accountingOn), ("8", .accountingOff),
  ("start", .start), ("stop", .stop), ("interim-update", .interimUpdate), ("alive", .interimUpdate),
  ("accounting-on", .accountingOn), ("accounting-off", .accountingOff)]

def acctStatus (attrs : Attrs) : Option AcctStatus :=
  acctStatusNames.lookup (lower ((attrs.get "Acct-Status-Type").getD ""))

namespace Attrs

/-- `attrs.get(name) or ""`. -/
def text (attrs : Attrs) (name : String) : String :=
  (attrs.get name).getD ""

/-- `attrs.int(name)`. -/
def int (attrs : Attrs) (name : String) : Option Int :=
  (attrs.get name).bind intOfString

end Attrs

/-- `_octets`. -/
def octets (attrs : Attrs) (base giga : String) : Option Int :=
  (attrs.int base).map fun low => (attrs.int giga).getD 0 * 2 ^ 32 + low

/-- The value of an `audit-session-id=…` pair. -/
def auditPair (pair : String) : Option String :=
  let (key, value) := partition '=' pair
  if lower (strip key) = "audit-session-id" then some (truncate 64 (strip (value.getD ""))) else none

/-- `_audit_session_id`. -/
def auditSessionId (attrs : Attrs) : String :=
  ((attrs.all "Cisco-AVPair").findSome? auditPair).getD ""

/-- The name a session is known by to its NAS. -/
def sessionId (attrs : Attrs) : String :=
  truncate 64 (attrs.text "Acct-Session-Id")

def acctUser (attrs : Attrs) : String :=
  truncate 64 (attrs.text "User-Name")

/-! ### The latest ACCEPT -/

/-- The log row was written for a request from this NAS; the access points of one network client share
theirs. -/
def sameNas (nasIp : String) (nas : Option NasClient) (row : AuthLog) : Bool :=
  row.nasIp = nasIp || nas.any fun nas => nas.isNetwork && row.nasName = nas.name

/-- The row is an ACCEPT of the last 24 hours. -/
def recentAccept (now : ClockReading) (row : AuthLog) : Bool :=
  row.result = .accept && decide (now.utc - microsPerDay < row.timestamp)

/-- The row is about this station, or about this user when the station has no MAC address. -/
def sameSubject (mac : Option String) (username : String) (row : AuthLog) : Bool :=
  match mac with
  | some mac => row.macAddress = mac
  | none => username ≠ "" && row.username = username

/-- `_latest_accept`. -/
def latestAccept (t : Tables) (nasIp : String) (mac : Option String) (username : String)
    (now : ClockReading) : Except Error (Option AuthLog) := do
  let nas ← findNas t nasIp
  let rows := t.authLogs.filter fun row =>
    sameNas nasIp nas row && recentAccept now row && sameSubject mac username row
  return rows.argmax (·.id)

/-! ### One session -/

/-- The columns that the NAS reports; what a packet leaves out keeps its value. -/
def reportSession (attrs : Attrs) (session : RadiusSession) : RadiusSession :=
  let req := requestInfo attrs
  let framed := orElse ((parseIp (attrs.get "Framed-IP-Address")).getD "")
    ((parseIp (attrs.get "Framed-IPv6-Address")).getD "")
  { session with
    acctUsername := orElse (acctUser attrs) session.acctUsername
    callingStationId := orElse req.callingStation session.callingStationId
    nasIpAddress := orElse ((parseIp (attrs.get "NAS-IP-Address")).getD "") session.nasIpAddress
    nasIdentifier := orElse (truncate 64 (attrs.text "NAS-Identifier")) session.nasIdentifier
    auditSessionId := orElse (auditSessionId attrs) session.auditSessionId
    macAddress := orElse (req.mac.getD "") session.macAddress
    framedIp := orElse framed session.framedIp
    ssid := orElse (req.ssid.getD "") session.ssid }

/-- The identity and the decision, from the log row if there is one. -/
def contextSession (attrs : Attrs) (context : Option AuthLog) (session : RadiusSession) :
    RadiusSession :=
  match context with
  | some context =>
      { session with
        username := orElse context.username session.username
        authMethod := context.authMethod
        policyName := context.policyName
        vlan := context.vlan
        decisionDigest := context.decisionDigest
        ssid := orElse session.ssid context.ssid }
  | none =>
      { session with
        username := orElse session.username
          (orElse (canonicalUsername (some (acctUser attrs))) (acctUser attrs)) }

/-- The counters and the time. -/
def countSession (attrs : Attrs) (now : ClockReading) (session : RadiusSession) : RadiusSession :=
  { session with
    inputOctets := (octets attrs "Acct-Input-Octets" "Acct-Input-Gigawords").getD session.inputOctets
    outputOctets := (octets attrs "Acct-Output-Octets" "Acct-Output-Gigawords").getD session.outputOctets
    sessionTime := (attrs.int "Acct-Session-Time").getD session.sessionTime
    updatedAt := now.utc }

/-- `timedelta(seconds=seconds)`, in microseconds. -/
def secondsDelta (seconds : Int) : Except Error Int :=
  let days := seconds / 86400
  if days < -2 ^ 31 ∨ 2 ^ 31 ≤ days then
    .error (.overflowError "Python int too large to convert to C int")
  else if days < -999999999 ∨ 999999999 < days then
    .error (.overflowError s!"days={days}; must have magnitude <= 999999999")
  else .ok (seconds * 1000000)

/-- `now - timedelta(seconds=session_time) if session_time else now`. -/
def startedAt (attrs : Attrs) (now : ClockReading) : Except Error Int := do
  let started := now.utc - (← secondsDelta ((attrs.int "Acct-Session-Time").getD 0))
  if Representable started then .ok started else .error (.overflowError "date value out of range")

/-- The row of a session that is not there yet. -/
def newSession (t : Tables) (attrs : Attrs) (now : ClockReading) : Except Error RadiusSession := do
  let started ← startedAt attrs now
  return { id := nextId (t.sessions.map (·.id)), nasIp := (requestInfo attrs).nasIp,
           acctSessionId := sessionId attrs, startedAt := started }

/-- SQLite's integers. -/
def isStorable (value : Int) : Bool :=
  -2 ^ 63 ≤ value && value < 2 ^ 63

/-- The row as a Start or an Interim-Update leaves it; `later` is when the log is looked up. -/
def updateSession (t : Tables) (attrs : Attrs) (now later : ClockReading) (session : RadiusSession) :
    Except Error RadiusSession := do
  let session := reportSession attrs session
  let context ← latestAccept t session.nasIp (orNone session.macAddress)
    (canonicalUsername (some (acctUser attrs))) later
  let session := countSession attrs now (contextSession attrs context session)
  if isStorable session.inputOctets && isStorable session.outputOctets && isStorable session.sessionTime then
    return session
  else
    .error (.overflowError "Python int too large to convert to SQLite INTEGER")

/-! ### The table -/

/-- The row is that of the session. -/
def RadiusSession.isOf (session : RadiusSession) (nasIp sid : String) : Bool :=
  session.nasIp = nasIp && session.acctSessionId = sid

/-- What a Start or an Interim-Update does. -/
def saveSession (db : Database) (attrs : Attrs) (now later : ClockReading) : Except Error Database := do
  let t := db.val
  match t.sessions.find? fun row => row.isOf (requestInfo attrs).nasIp (sessionId attrs) with
  | some found =>
      let session ← updateSession t attrs now later found
      commit { t with sessions := t.sessions.map fun row => if row.id = found.id then session else row }
  | none =>
      let new ← newSession t attrs now
      let session ← updateSession t attrs now later new
      commit { t with sessions := t.sessions ++ [session] }

/-- `accounting`. -/
def accounting (db : Database) (attrs : Attrs) (now later : ClockReading) : Except Error Database :=
  let t := db.val
  let nasIp := (requestInfo attrs).nasIp
  match acctStatus attrs with
  | none => .ok db
  | some status =>
      if nasIp = "" then
        .ok db
      else if status = .accountingOn ∨ status = .accountingOff then
        commit { t with sessions := t.sessions.filter fun row => row.nasIp ≠ nasIp }
      else if sessionId attrs = "" then
        .ok db
      else if status = .stop then
        commit { t with sessions := t.sessions.filter fun row => !row.isOf nasIp (sessionId attrs) }
      else
        saveSession db attrs now later

end Naco
