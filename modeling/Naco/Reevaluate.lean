import Naco.Service

/-!
# Re-evaluation of live sessions

Each session remembers the digest of the decision its NAS received. After a change the sessions are
decided again from tables that are loaded in bulk, and a session whose decision is no longer an accept
with that digest is put on the list to disconnect. `reevaluate` reads in two transactions: the
sessions and the policies in the first, what the decisions are made on in the second.
-/

namespace Naco

open Py

/-- `_changed`. -/
def changed (platform : Platform) (decision : Decision) (digest : String) : Bool :=
  !decision.accepted || decision.digest platform ≠ digest

/-- What `_load_world` returns. -/
structure LoadedWorld where
  nas : NasDirectory
  users : Dict String UserInfo
  devices : Dict String Device
  guests : List String

/-- `_load_world`. -/
def loadWorld (t : Tables) (sessions : List RadiusSession) (now : Int) : Except Error LoadedWorld := do
  let usernames := (sessions.map (·.username)).filter (· ≠ "")
  let macs := (sessions.map (·.macAddress)).filter (· ≠ "")
  let nas ← nasDirectory t
  let users := Dict.ofRows (·.username)
    (fun user => { UserInfo.ofRow user (groupOf t user) with deviceAdminAttributes := [] })
    (t.users.filter (·.username ∈ usernames))
  let devices := Dict.ofRows (·.macAddress) id (t.devices.filter (·.macAddress ∈ macs))
  let guests := (t.guests.filter fun guest =>
    guest.macAddress ∈ macs && guest.revokedAt.isNone && decide (now < guest.expiresAt)).map
      (·.macAddress)
  return { nas, users, devices, guests }

/-- The subject that re-evaluation makes of a session. -/
def sessionSubject (loaded : LoadedWorld) (session : RadiusSession) (method : AuthMethod)
    (nas : NasClient) (now : ClockReading) : Subject :=
  let mac := orNone session.macAddress
  { method
    username := session.username
    user := loaded.users.get? session.username
    mac
    device := mac.bind loaded.devices.get?
    isGuest := mac.any (· ∈ loaded.guests)
    nasName := nas.name
    nasIp := session.nasIp
    ssid := orNone session.ssid
    now := now.toDatetime }

/-- The decision for one session and the NAS to tell; none for a session that is skipped because its
method or its NAS is unknown. -/
def sessionDecision (platform : Platform) (policies : List CompiledPolicy) (loaded : LoadedWorld)
    (now : ClockReading) (session : RadiusSession) : Except Error (Option (Decision × NasClient)) :=
  match AuthMethod.ofName session.authMethod, loaded.nas.find session.nasIp with
  | some method, some nas =>
      match subjectContext (sessionSubject loaded session method nas now) with
      | .error decision => .ok (some (decision, nas))
      | .ok ctx => do
          return some (← Naco.decide policies ctx platform.timezone, nas)
  | _, _ => .ok none

structure ReevalSummary where
  checked : Nat := 0
  changed : Nat := 0
  /-- The sessions to disconnect, each with its NAS. -/
  targets : List (RadiusSession × NasClient) := []

/-- One round of the loop over the sessions. -/
def reevaluateSession (platform : Platform) (policies : List CompiledPolicy) (loaded : LoadedWorld)
    (now : ClockReading) (summary : ReevalSummary) (session : RadiusSession) :
    Except Error ReevalSummary := do
  match ← sessionDecision platform policies loaded now session with
  | none => return summary
  | some (decision, nas) =>
      if changed platform decision session.decisionDigest then
        return { checked := summary.checked + 1, changed := summary.changed + 1,
                 targets := summary.targets ++ [(session, nas)] }
      else
        return { summary with checked := summary.checked + 1 }

/-- The sessions that have a digest. -/
def digestSessions (t : Tables) : List RadiusSession :=
  t.sessions.filter (·.decisionDigest ≠ "")

/-- `reevaluate` up to the sending of disconnect requests. The first tables and the first clock
reading are those of its two reads, the second reading is the one it decides at. -/
def reevaluate (platform : Platform) (t t' : Tables) (loadedAt now : ClockReading) :
    Except Error ReevalSummary :=
  match loadPolicies t with
  | .error _ => .ok {}
  | .ok policies =>
      let sessions := digestSessions t
      if sessions = [] then .ok {}
      else do
        let loaded ← loadWorld t' sessions loadedAt.utc
        sessions.foldlM (reevaluateSession platform policies loaded now) {}

/-! ### The task that re-evaluates -/

/-- `Reevaluator`: whether the event is set, and the reasons that are pending. -/
structure Reevaluator where
  wake : Bool := false
  reasons : List String := []

def Reevaluator.schedule (self : Reevaluator) (reason : String) : Reevaluator :=
  { wake := true, reasons := self.reasons ++ [reason] }

/-- The `await` that `run_forever` is at. -/
inductive Awaiting where
  | start
  | event
  | sleep
  | reevaluate
  deriving DecidableEq, Repr

/-- The task, with the reasons of each call of `reevaluate` that it started. -/
structure Worker where
  self : Reevaluator := {}
  awaiting : Awaiting := .start
  calls : List (List String) := []

/-- The top of the loop: to wait for an event that is set is no pause. -/
def Worker.loop (worker : Worker) : Worker :=
  { worker with awaiting := if worker.self.wake then .sleep else .event }

/-- `run_forever` from one `await` to the next; the result is that of the call of `reevaluate` that
ended, when one did. -/
def Worker.resume (worker : Worker) (result : Except Error ReevalSummary) : Worker :=
  match worker.awaiting with
  | .start => worker.loop
  | .event => if worker.self.wake then { worker with awaiting := .sleep } else worker
  | .sleep =>
      { self := { wake := false, reasons := [] }, awaiting := .reevaluate,
        calls := worker.calls ++ [worker.self.reasons] }
  | .reevaluate =>
      match result with
      | .ok _ => worker.loop
      -- the exception is logged
      | .error _ => worker.loop

inductive WorkerMove where
  | schedule (reason : String)
  | resume (result : Except Error ReevalSummary)

def Worker.move (worker : Worker) : WorkerMove → Worker
  | .schedule reason => { worker with self := worker.self.schedule reason }
  | .resume result => worker.resume result

def Worker.run (worker : Worker) (moves : List WorkerMove) : Worker :=
  moves.foldl Worker.move worker

end Naco
