import Naco.Admins
import Naco.Routes.Devices

/-!
# Housekeeping

`run_maintenance` and the re-evaluator are two tasks of one process. A pass prunes the logs in small
transactions, sweeps the sessions and counts the guests that expired since the last pass in one more,
and at its end tells the re-evaluator. The instant up to which guests were counted, and the calls that
the re-evaluator has not taken up, are kept in memory: a failed pass leaves them, a stop loses them.
-/

namespace Naco

open Py

/-! ### What is swept -/

/-- A row of `tacacs_logs` or `audit_logs`, of which only the age is read. -/
structure LogRow where
  id : Nat
  timestamp : Int
  deriving DecidableEq, Repr

structure RetentionConfig where
  authLogDays : Nat := 90
  tacacsLogDays : Nat := 90
  auditLogDays : Nat := 365

structure HouseConfig where
  platform : Platform
  portal : PortalConfig := {}
  retention : RetentionConfig := {}
  sessionIdleMinutes : Nat := 30
  staleSessionHours : Nat := 24

structure HouseTables where
  db : Database
  admins : AdminDb
  tacacsLogs : List LogRow := []
  auditLogs : List LogRow := []

namespace HouseTables

def guests (tables : HouseTables) : List GuestRegistration :=
  tables.db.val.guests

/-- The table of guests in another state of the other tables. -/
def withGuests (tables others : HouseTables) : HouseTables :=
  { others with
    db := ⟨{ others.db.val with guests := tables.guests },
      { others.db.property with guestIds := tables.db.property.guestIds }⟩ }

end HouseTables

/-! ### One pass -/

/-- `_CHUNK`. -/
def pruneChunk : Nat := 5000

/-- One transaction of `_prune`: the rows that stay, and how many were removed. -/
def pruneRows {ρ : Type} (id : ρ → Nat) (timestamp : ρ → Int) (cutoff : Int) (rows : List ρ) :
    List ρ × Nat :=
  let ids := ((rows.filter fun row => timestamp row < cutoff).take pruneChunk).map id
  let kept := rows.filter fun row => id row ∉ ids
  (kept, rows.length - kept.length)

inductive LogTable where
  | auth
  | tacacs
  | audit
  deriving DecidableEq, Repr

/-- The next transaction of a pass; after the sweep, only the report is left. -/
inductive PassPhase where
  | prune (table : LogTable)
  | sweep
  | report
  deriving DecidableEq, Repr

def PassPhase.afterPrune : LogTable → PassPhase
  | .auth => .prune .tacacs
  | .tacacs => .prune .audit
  | .audit => .sweep

/-- A `maintenance_pass` under way, with its `PassResult`. -/
structure Pass where
  now : Int
  phase : PassPhase := .prune .auth
  pruned : Nat := 0
  guestsExpired : Nat := 0
  deriving DecidableEq, Repr

namespace HouseTables

variable (tables : HouseTables)

/-- The tables after auth logs were deleted. -/
def keepAuthLogs (kept : List AuthLog) (h : kept.Sublist tables.db.val.authLogs) : HouseTables :=
  { tables with
    db := ⟨{ tables.db.val with authLogs := kept },
      { tables.db.property with
        authLogIds := tables.db.property.authLogIds.sublist (h.map _) }⟩ }

/-- One transaction of `_prune` on a table. -/
def prune (config : HouseConfig) (now : Int) : LogTable → HouseTables × Nat
  | .auth =>
      let pruned := pruneRows AuthLog.id AuthLog.timestamp
        (now - config.retention.authLogDays * microsPerDay) tables.db.val.authLogs
      (tables.keepAuthLogs pruned.1 List.filter_sublist, pruned.2)
  | .tacacs =>
      let pruned := pruneRows LogRow.id LogRow.timestamp
        (now - config.retention.tacacsLogDays * microsPerDay) tables.tacacsLogs
      ({ tables with tacacsLogs := pruned.1 }, pruned.2)
  | .audit =>
      let pruned := pruneRows LogRow.id LogRow.timestamp
        (now - config.retention.auditLogDays * microsPerDay) tables.auditLogs
      ({ tables with auditLogs := pruned.1 }, pruned.2)

/-- The deletions of the last transaction: expired and idle admin sessions, stale RADIUS sessions. -/
def sweep (config : HouseConfig) (now : Int) : HouseTables :=
  { tables with
    admins := ⟨{ tables.admins.val with
        sessions := tables.admins.val.sessions.filter fun session =>
          ¬ (session.expiresAt < now ∨
            session.lastSeenAt < now - config.sessionIdleMinutes * microsPerMinute) },
      { tables.admins.property with
        sessionIds := tables.admins.property.sessionIds.sublist (List.filter_sublist.map _)
        sessionHashes := tables.admins.property.sessionHashes.sublist (List.filter_sublist.map _)
        sessionAdmins := fun session h =>
          tables.admins.property.sessionAdmins session (List.mem_of_mem_filter h) }⟩
    db := ⟨{ tables.db.val with
        sessions := tables.db.val.sessions.filter fun session =>
          ¬ session.updatedAt < now - config.staleSessionHours * microsPerHour },
      { tables.db.property with
        sessionIds := tables.db.property.sessionIds.sublist (List.filter_sublist.map _)
        sessionKeys := tables.db.property.sessionKeys.sublist (List.filter_sublist.map _) }⟩ }

/-- The count of the guests that expired. -/
def countExpired (since now : Int) : Nat :=
  (tables.guests.filter fun guest =>
    guest.revokedAt.isNone && decide (since < guest.expiresAt) && decide (guest.expiresAt ≤ now)).length

end HouseTables

/-! ### The process -/

/-- A call of `reevaluator.schedule`, with the instant at which it was made. -/
structure ScheduleCall where
  time : Int
  reason : String
  deriving DecidableEq, Repr

/-- What a running process keeps in memory. -/
structure HouseProcess where
  /-- `since` of `run_maintenance`. -/
  since : Int
  pass : Option Pass := none
  /-- The calls that re-evaluation has not taken up. -/
  pending : List ScheduleCall := []

/-- The machine: the clock, the database, and the process while it runs. The last `since` and the calls
that re-evaluation took up are a record which nothing reads. -/
structure Machine where
  clock : Int
  tables : HouseTables
  process : Option HouseProcess := none
  stoppedAt : Option Int := none
  heard : List ScheduleCall := []

/-- A request that writes the table of guests. -/
inductive GuestRequest where
  | add (role : AdminRole) (body : GuestIn)
  | revoke (role : AdminRole) (id : Nat)
  | register (withinLimit : Bool) (form : PortalForm)

def GuestRequest.run (config : HouseConfig) (now : Int) :
    GuestRequest → Database → Except RouteError Outcome
  | .add role body => addGuest now role body
  | .revoke role id => revokeGuest now role id
  | .register withinLimit form => portalRegister config.platform config.portal now withinLimit form

inductive HouseEvent where
  | tick (micros : Nat)
  | start
  | stop
  /-- The sleep of `run_maintenance` is over. -/
  | wake
  /-- The next transaction of the pass, or its report. -/
  | advance
  /-- The pass raises. -/
  | fail
  /-- Re-evaluation takes up the calls. -/
  | reevaluate
  | request (request : GuestRequest)
  /-- A request that does not write the table of guests. -/
  | other (tables : HouseTables) (scheduled : List String)

def guestsExpiredReason : String :=
  "guest registrations expired"

def HouseProcess.schedule (process : HouseProcess) (clock : Int) (reasons : List String) :
    HouseProcess :=
  { process with pending := process.pending ++ reasons.map fun reason => ⟨clock, reason⟩ }

/-- The next transaction of a pass. -/
def advancePass (config : HouseConfig) (tables : HouseTables) (clock : Int) (process : HouseProcess)
    (pass : Pass) : HouseTables × HouseProcess :=
  match pass.phase with
  | .prune table =>
      let (kept, removed) := tables.prune config pass.now table
      let phase := if removed < pruneChunk then .afterPrune table else .prune table
      (kept, { process with pass := some { pass with phase, pruned := pass.pruned + removed } })
  | .sweep =>
      let swept := tables.sweep config pass.now
      let guestsExpired := swept.countExpired process.since pass.now
      (swept, { process with pass := some { pass with phase := .report, guestsExpired } })
  | .report =>
      let reasons := if pass.guestsExpired ≠ 0 then [guestsExpiredReason] else []
      (tables, { process.schedule clock reasons with since := pass.now, pass := none })

namespace Machine

/-- What happens while the process runs. -/
def runningStep (config : HouseConfig) (machine : Machine) (process : HouseProcess) :
    HouseEvent → Machine
  | .tick micros => { machine with clock := machine.clock + micros }
  | .start => machine
  | .stop => { machine with process := none, stoppedAt := some process.since }
  | .wake =>
      match process.pass with
      | none => { machine with process := some { process with pass := some { now := machine.clock } } }
      | some _ => machine
  | .advance =>
      match process.pass with
      | none => machine
      | some pass =>
          let (tables, process) := advancePass config machine.tables machine.clock process pass
          { machine with tables, process := some process }
  | .fail => { machine with process := some { process with pass := none } }
  | .reevaluate =>
      { machine with
        process := some { process with pending := [] }
        heard := machine.heard ++ process.pending }
  | .request request =>
      match request.run config machine.clock machine.tables.db with
      | .error _ => machine
      | .ok outcome =>
          { machine with
            tables := { machine.tables with db := outcome.db }
            process := some (process.schedule machine.clock outcome.scheduled) }
  | .other tables scheduled =>
      { machine with
        tables := machine.tables.withGuests tables
        process := some (process.schedule machine.clock scheduled) }

/-- One event. While the process does not run, only time passes or it is started, which starts
`run_maintenance` with the instant of the start. -/
def step (config : HouseConfig) (machine : Machine) (event : HouseEvent) : Machine :=
  match machine.process with
  | some process => machine.runningStep config process event
  | none =>
      match event with
      | .tick micros => { machine with clock := machine.clock + micros }
      | .start => { machine with process := some { since := machine.clock } }
      | _ => machine

def run (config : HouseConfig) (machine : Machine) (events : List HouseEvent) : Machine :=
  events.foldl (step config) machine

end Machine

end Naco
