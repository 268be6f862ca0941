import Naco.Deps
import Naco.Lib.Calendar
import Naco.Lib.Grouping
import Naco.Routes.Devices

/-!
# The dashboard

How many of everything there is, the decisions of the last 24 hours by the hour, the latest of them, and
what is left to set up.
-/

namespace Naco

open Py

def AuthResult.value : AuthResult → String
  | .accept => "ACCEPT"
  | .reject => "REJECT"

/-- An instant as `%Y-%m-%d %H:00:00`, with the year as it is written. -/
def hourText (year : Nat → String) (instant : Int) : String :=
  let hours := (instant / microsPerHour).toNat
  let date := Date.ofDays (hours / 24)
  year date.year ++ "-" ++ zeroPad 2 date.month ++ "-" ++ zeroPad 2 date.day ++ " " ++
    zeroPad 2 (hours % 24) ++ ":00:00"

/-- `h.strftime` does not pad the year. -/
def strftimeHour : Int → String :=
  hourText toString

structure Counts where
  users : Nat
  devices : Nat
  pendingDevices : Nat
  blockedDevices : Nat
  sessions : Nat
  guests : Nat
  deriving DecidableEq, Repr

structure HourBucket where
  hour : Int
  accept : Nat
  reject : Nat
  deriving DecidableEq, Repr

structure ChecklistItem where
  key : String
  label : String
  done : Bool
  deriving DecidableEq, Repr

structure Dashboard where
  counts : Counts
  last24h : List HourBucket
  recent : List AuthLog
  checklist : List ChecklistItem
  deriving DecidableEq, Repr

/-- The hour 23 hours ago, `replace(minute=0, second=0, microsecond=0)`. -/
def dashboardStart (now : ClockReading) : Int :=
  (now.utc - 23 * microsPerHour) / microsPerHour * microsPerHour

def countsOf (now : ClockReading) (t : Tables) : Counts where
  users := t.users.length
  devices := t.devices.length
  pendingDevices := t.devices.countP fun device => device.status = .pending
  blockedDevices := t.devices.countP fun device => device.status = .blocked
  sessions := t.sessions.length
  guests := t.guests.countP fun guest => guest.revokedAt = none && guest.expiresAt > now.utc

/-- The logs since `start` by hour and result; `strftime` is the function of the database. -/
def byHour (strftime : Int → String) (start : Int) (logs : List AuthLog) :
    Dict String (Dict String Nat) :=
  (Grouping.counts (fun row => (strftime row.timestamp, row.result))
    (logs.filter fun row => row.timestamp ≥ start)).foldl
      (fun d group => Grouping.setNested d group.1.1 group.1.2.value group.2) Dict.empty

def hourBucket (grouped : Dict String (Dict String Nat)) (hour : Int) : HourBucket where
  hour := hour
  accept := (Grouping.getNested grouped (strftimeHour hour) AuthResult.accept.value).getD 0
  reject := (Grouping.getNested grouped (strftimeHour hour) AuthResult.reject.value).getD 0

def hourSeries (strftime : Int → String) (start : Int) (logs : List AuthLog) : List HourBucket :=
  (List.range 24).map fun i : Nat => hourBucket (byHour strftime start logs) (start + i * microsPerHour)

/-- `ORDER BY id DESC LIMIT 15`. -/
def recentLogs (logs : List AuthLog) : List AuthLog :=
  (logs.insertionSort fun a b => a.id ≥ b.id).take 15

/-- `dashboard`, for the account of the signed-in administrator if it is one. -/
def dashboard (strftime : Int → String) (now : ClockReading) (aaaLastRequest : Option Int)
    (admins : List AdminUser) (principal : Principal) (t : Tables) : Dashboard where
  counts := countsOf now t
  last24h := hourSeries strftime (dashboardStart now) t.authLogs
  recent := recentLogs t.authLogs
  checklist :=
    [{ key := "nas", label := "Add a switch or access point (NAS)", done := t.nasClients.length > 0 },
      { key := "policy", label := "Create a policy that permits access",
        done := t.policies.any fun policy => policy.enabled && policy.action = .permit },
      { key := "radius", label := "Receive a first RADIUS request",
        done := aaaLastRequest.isSome || t.authLogs.length > 0 },
      { key := "totp", label := "Protect your account with two-factor authentication",
        done := match principal.adminId with
          | none => true
          | some id => (admins.find? (·.id = id)).any (·.secret.isSome) }]

end Naco
