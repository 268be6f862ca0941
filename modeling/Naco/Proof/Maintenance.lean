import Naco.Maintenance
import Naco.Proof.Routes

/-!
# Guests that expire

A pass that completes has counted every guest that expired since the last one, so as long as one process
runs no expiry is missed, whatever passes fail. A new process counts from its own start: what expired
while none was running, and what a stopped process had not passed on, is never told to the re-evaluator.
-/

namespace Naco

open Py

/-- The registration was not revoked, and had expired by an instant. -/
structure Expired (guest : GuestRegistration) (instant : Int) : Prop where
  unrevoked : guest.revokedAt = none
  created : guest.createdAt < guest.expiresAt
  expired : guest.expiresAt ≤ instant

/-- The re-evaluator was told of expired guests, at the expiry of this one or later. -/
def Told (calls : List ScheduleCall) (guest : GuestRegistration) : Prop :=
  ∃ call ∈ calls, call.reason = guestsExpiredReason ∧ guest.expiresAt ≤ call.time

theorem Told.append {calls : List ScheduleCall} {guest : GuestRegistration} (h : Told calls guest)
    (more : List ScheduleCall) : Told (calls ++ more) guest := by
  obtain ⟨call, hmem, hcall⟩ := h
  exact ⟨call, List.mem_append_left more hmem, hcall⟩

/-! ### What happens to the guests -/

/-- A registration of the new table was one of the old, or is made now. -/
def GuestsFrom (now : Int) (old new : List GuestRegistration) : Prop :=
  ∀ guest ∈ new, guest.revokedAt = none → guest ∈ old ∨ guest.createdAt = now

theorem guestsFrom_refl (now : Int) (guests : List GuestRegistration) : GuestsFrom now guests guests :=
  fun _ hmem _ => .inl hmem

theorem guestsFrom_concat (now : Int) (guests : List GuestRegistration) (id : Nat) (mac : String)
    (hours : Nat) : GuestsFrom now guests (guests ++ [guestRow id mac now hours]) := by
  intro guest hmem _
  rcases List.mem_append.mp hmem with hold | hnew
  · exact .inl hold
  · rw [List.mem_singleton.mp hnew]
    exact .inr rfl

theorem guestsFrom_add {now : Int} {role : AdminRole} {body : GuestIn} {db : Database}
    {outcome : Outcome} (h : addGuest now role body db = .ok outcome) :
    GuestsFrom now db.val.guests outcome.db.val.guests := by
  unfold addGuest at h
  obtain ⟨_, -, h⟩ := bind_eq_ok_iff.mp h
  dsimp only at h
  split at h
  · obtain ⟨_, rfl⟩ := commitOrRaise_eq_ok_iff.mp h
    exact guestsFrom_concat now _ _ _ _
  · cases h

theorem guestsFrom_revoke {now : Int} {role : AdminRole} {id : Nat} {db : Database} {outcome : Outcome}
    (h : revokeGuest now role id db = .ok outcome) :
    GuestsFrom now db.val.guests outcome.db.val.guests := by
  unfold revokeGuest at h
  obtain ⟨_, -, h⟩ := bind_eq_ok_iff.mp h
  obtain ⟨guest, -, h⟩ := bind_eq_ok_iff.mp h
  split at h
  · obtain ⟨_, rfl⟩ := commitOrRaise_eq_ok_iff.mp h
    intro row hrow hunrevoked
    rcases mem_replaceRow hrow with rfl | hold
    · cases hunrevoked
    · exact .inl hold
  · cases h
    exact guestsFrom_refl now _

theorem guestsFrom_register {platform : Platform} {config : PortalConfig} {now : Int}
    {withinLimit : Bool} {form : PortalForm} {db : Database} {outcome : Outcome}
    (h : portalRegister platform config now withinLimit form db = .ok outcome) :
    GuestsFrom now db.val.guests outcome.db.val.guests := by
  unfold portalRegister at h
  split at h
  · cases h
  split at h
  · cases h
  split at h
  · cases h
  split at h
  · cases h
  dsimp only at h
  split at h
  · cases h
    exact guestsFrom_refl now _
  split at h
  · cases h
  split at h
  · cases h
  split at h
  · cases h
  split at h
  · obtain ⟨_, rfl⟩ := commitOrRaise_eq_ok_iff.mp h
    exact guestsFrom_concat now _ _ _ _
  · cases h

theorem guestsFrom_request {config : HouseConfig} {now : Int} {request : GuestRequest} {db : Database}
    {outcome : Outcome} (h : request.run config now db = .ok outcome) :
    GuestsFrom now db.val.guests outcome.db.val.guests := by
  cases request with
  | add role body => exact guestsFrom_add h
  | revoke role id => exact guestsFrom_revoke h
  | register withinLimit form => exact guestsFrom_register h

theorem guests_prune (config : HouseConfig) (tables : HouseTables) (now : Int) (table : LogTable) :
    (tables.prune config now table).1.guests = tables.guests := by
  cases table <;> rfl

theorem countExpired_eq_zero_iff {tables : HouseTables} {since now : Int} :
    tables.countExpired since now = 0 ↔ ∀ guest ∈ tables.guests, guest.revokedAt = none →
      guest.expiresAt ≤ now → guest.expiresAt ≤ since := by
  rw [HouseTables.countExpired, List.length_eq_zero_iff, List.filter_eq_nil_iff]
  refine forall₂_congr fun guest _ => ?_
  simp only [Bool.and_eq_true, Option.isNone_iff_eq_none, decide_eq_true_eq, not_and, not_le]
  constructor
  · intro h hunrevoked hnow
    by_contra hsince
    exact absurd (h ⟨hunrevoked, by omega⟩) (by omega)
  · rintro h ⟨hunrevoked, hsince⟩
    by_contra hnow
    exact absurd (h hunrevoked (by omega)) (by omega)

/-! ### What a machine keeps -/

/-- What a pass has found out: if the count is made and is zero, nobody expired since the last pass. -/
structure PassInv (clock : Int) (guests : List GuestRegistration) (process : HouseProcess)
    (pass : Pass) : Prop where
  before : pass.now ≤ clock
  counted : pass.phase = .report → pass.guestsExpired = 0 →
    ∀ guest ∈ guests, Expired guest pass.now → guest.expiresAt ≤ process.since

structure RunningInv (clock : Int) (guests : List GuestRegistration) (heard : List ScheduleCall)
    (process : HouseProcess) : Prop where
  before : process.since ≤ clock
  told : ∀ guest ∈ guests, Expired guest process.since → Told (heard ++ process.pending) guest
  pass : ∀ pass, process.pass = some pass → PassInv clock guests process pass

/-- While the process runs, every expiry until `since` was told; when it has stopped, every expiry until
its `since` was told and heard. -/
structure MachineInv (machine : Machine) : Prop where
  running : ∀ process, machine.process = some process →
    RunningInv machine.clock machine.tables.guests machine.heard process
  stopped : machine.process = none → ∀ since, machine.stoppedAt = some since →
    ∀ guest ∈ machine.tables.guests, Expired guest since → Told machine.heard guest

/-- Nothing is lost by the event: no call about expired guests waits when the process stops, and when it
starts no guest has expired since the last pass that completed. -/
def Careful (machine : Machine) : HouseEvent → Prop
  | .stop => ∀ process, machine.process = some process →
      ∀ call ∈ process.pending, call.reason ≠ guestsExpiredReason
  | .start => machine.process = none → ∀ guest ∈ machine.tables.guests,
      Expired guest machine.clock → ∃ since, machine.stoppedAt = some since ∧ guest.expiresAt ≤ since
  | _ => True

section

variable {clock : Int} {guests : List GuestRegistration} {heard : List ScheduleCall}
  {process : HouseProcess}

theorem told_of_not_pending {guest : GuestRegistration} (h : Told (heard ++ process.pending) guest)
    (hpending : ∀ call ∈ process.pending, call.reason ≠ guestsExpiredReason) : Told heard guest := by
  obtain ⟨call, hmem, hreason, htime⟩ := h
  rcases List.mem_append.mp hmem with hheard | hwaits
  · exact ⟨call, hheard, hreason, htime⟩
  · exact absurd hreason (hpending call hwaits)

/-- Guests that are registered now have not expired at an earlier instant. -/
theorem expired_of_guestsFrom {old new : List GuestRegistration} {instant : Int}
    (hfrom : GuestsFrom clock old new) (hinstant : instant ≤ clock) {guest : GuestRegistration}
    (hmem : guest ∈ new) (hexpired : Expired guest instant) : guest ∈ old := by
  rcases hfrom guest hmem hexpired.unrevoked with hold | hnew
  · exact hold
  · have hcreated := hexpired.created
    have hby := hexpired.expired
    omega

/-- Time passes, requests come in and calls are made: what was told stays told. -/
theorem runningInv_of_guestsFrom (h : RunningInv clock guests heard process) {later : Int}
    {guests' : List GuestRegistration} (hlater : clock ≤ later) (hfrom : GuestsFrom clock guests guests')
    (calls : List ScheduleCall) :
    RunningInv later guests' heard { process with pending := process.pending ++ calls } where
  before := h.before.trans hlater
  told guest hmem hexpired := by
    have hold := expired_of_guestsFrom hfrom h.before hmem hexpired
    rw [← List.append_assoc]
    exact (h.told guest hold hexpired).append calls
  pass pass hpass := by
    have hinv := h.pass pass hpass
    refine ⟨hinv.before.trans hlater, fun hphase hzero guest hmem hexpired => ?_⟩
    have hold := expired_of_guestsFrom hfrom hinv.before hmem hexpired
    exact hinv.counted hphase hzero guest hold hexpired

/-- The next transaction of a pass. -/
theorem runningInv_advance (config : HouseConfig) {tables : HouseTables}
    (h : RunningInv clock tables.guests heard process) {pass : Pass} (hpass : process.pass = some pass) :
    RunningInv clock (advancePass config tables clock process pass).1.guests heard
      (advancePass config tables clock process pass).2 := by
  have hinv := h.pass pass hpass
  unfold advancePass
  cases hphase : pass.phase with
  | prune table =>
      dsimp only
      have hguests := guests_prune config tables pass.now table
      refine ⟨h.before, fun guest hmem hexpired => ?_, fun next hnext => ?_⟩
      · exact h.told guest (hguests ▸ hmem) hexpired
      · cases hnext
        refine ⟨hinv.before, fun hreport => ?_⟩
        dsimp only at hreport
        split at hreport
        · cases table <;> cases hreport
        · cases hreport
  | sweep =>
      dsimp only
      refine ⟨h.before, h.told, fun next hnext => ?_⟩
      cases hnext
      refine ⟨hinv.before, fun _ hzero guest hmem hexpired => ?_⟩
      exact countExpired_eq_zero_iff.mp hzero guest hmem hexpired.unrevoked hexpired.expired
  | report =>
      dsimp only
      refine ⟨hinv.before, fun guest hmem hexpired => ?_, nofun⟩
      dsimp only [HouseProcess.schedule]
      by_cases hzero : pass.guestsExpired = 0
      · have hsince := hinv.counted hphase hzero guest hmem hexpired
        have htold := h.told guest hmem ⟨hexpired.unrevoked, hexpired.created, hsince⟩
        rw [← List.append_assoc]
        exact htold.append _
      · rw [if_pos hzero]
        refine ⟨⟨clock, guestsExpiredReason⟩, by simp, rfl, ?_⟩
        exact hexpired.expired.trans hinv.before

end

theorem Machine.step_of_process (config : HouseConfig) {machine : Machine} {process : HouseProcess}
    (h : machine.process = some process) (event : HouseEvent) :
    machine.step config event = machine.runningStep config process event := by
  unfold Machine.step
  rw [h]

/-- One event keeps what the machine keeps, if it is careful. -/
theorem machineInv_step (config : HouseConfig) {machine : Machine} (h : MachineInv machine)
    {event : HouseEvent} (hcareful : Careful machine event) : MachineInv (machine.step config event) := by
  cases hprocess : machine.process with
  | none =>
      unfold Machine.step
      rw [hprocess]
      dsimp only
      cases event with
      | tick micros => exact ⟨nofun, fun _ => h.stopped hprocess⟩
      | start =>
          dsimp only
          refine ⟨fun process hrun => ?_, nofun⟩
          cases hrun
          refine ⟨le_rfl, fun guest hmem hexpired => ?_, nofun⟩
          obtain ⟨since, hsince, hby⟩ := hcareful hprocess guest hmem hexpired
          rw [List.append_nil]
          exact h.stopped hprocess since hsince guest hmem ⟨hexpired.unrevoked, hexpired.created, hby⟩
      | _ => exact h
  | some process =>
      rw [Machine.step_of_process config hprocess]
      have hrunning := h.running process hprocess
      have hfrom := guestsFrom_refl machine.clock machine.tables.guests
      cases event with
      | tick micros =>
          have hlater : machine.clock ≤ machine.clock + micros := by omega
          have hnext := runningInv_of_guestsFrom hrunning hlater hfrom []
          rw [List.append_nil] at hnext
          refine ⟨fun other hrun => ?_, fun hnone => absurd (hprocess.symm.trans hnone) nofun⟩
          cases hprocess.symm.trans hrun
          exact hnext
      | start => exact h
      | stop =>
          refine ⟨nofun, fun _ since hsince guest hmem hexpired => ?_⟩
          cases hsince
          exact told_of_not_pending (hrunning.told guest hmem hexpired) (hcareful process hprocess)
      | wake =>
          dsimp only [Machine.runningStep]
          split
          · refine ⟨fun other hrun => ?_, nofun⟩
            cases hrun
            refine ⟨hrunning.before, hrunning.told, fun pass hpass => ?_⟩
            cases hpass
            exact ⟨le_rfl, nofun⟩
          · exact h
      | advance =>
          dsimp only [Machine.runningStep]
          split
          · exact h
          · next pass hpass =>
              refine ⟨fun other hrun => ?_, nofun⟩
              cases hrun
              exact runningInv_advance config hrunning hpass
      | fail =>
          refine ⟨fun other hrun => ?_, nofun⟩
          cases hrun
          exact ⟨hrunning.before, hrunning.told, nofun⟩
      | reevaluate =>
          refine ⟨fun other hrun => ?_, nofun⟩
          cases hrun
          refine ⟨hrunning.before, fun guest hmem hexpired => ?_, fun pass hpass => ?_⟩
          · rw [List.append_nil]
            exact hrunning.told guest hmem hexpired
          · exact ⟨(hrunning.pass pass hpass).before, (hrunning.pass pass hpass).counted⟩
      | request request =>
          dsimp only [Machine.runningStep]
          split
          · exact h
          · next outcome hrun =>
              refine ⟨fun other hother => ?_, nofun⟩
              cases hother
              exact runningInv_of_guestsFrom hrunning le_rfl (guestsFrom_request hrun) _
      | other tables scheduled =>
          refine ⟨fun other hrun => ?_, nofun⟩
          cases hrun
          exact runningInv_of_guestsFrom hrunning le_rfl hfrom _

/-! ### Whole runs -/

/-- Every event of a run is careful. -/
def CarefulRun (config : HouseConfig) (start : Machine) (events : List HouseEvent) : Prop :=
  ∀ before event after, events = before ++ event :: after → Careful (start.run config before) event

/-- Whenever a pass of the run completes, every guest that had expired by its instant was followed by a
call of the re-evaluator, which a process heard or still waits with. -/
def ExpiriesFollowed (config : HouseConfig) (start : Machine) (events : List HouseEvent) : Prop :=
  ∀ before after process pass, events = before ++ .advance :: after →
    (start.run config before).process = some process → process.pass = some pass →
    pass.phase = .report → ∀ process',
      (start.run config (before ++ [.advance])).process = some process' →
      ∀ guest ∈ (start.run config (before ++ [.advance])).tables.guests, Expired guest pass.now →
        ∃ call ∈ (start.run config (before ++ [.advance])).heard ++ process'.pending,
          guest.expiresAt ≤ call.time

theorem Machine.run_concat (config : HouseConfig) (start : Machine) (before : List HouseEvent)
    (event : HouseEvent) :
    start.run config (before ++ [event]) = (start.run config before).step config event := by
  rw [Machine.run, List.foldl_append]
  rfl

theorem machineInv_run {config : HouseConfig} {start : Machine} {events : List HouseEvent}
    (h : MachineInv start) (hcareful : CarefulRun config start events) :
    MachineInv (start.run config events) := by
  induction events using List.reverseRecOn with
  | nil => exact h
  | append_singleton before event ih =>
      have hbefore : CarefulRun config start before := by
        intro earlier event' later hsplit
        refine hcareful earlier event' (later ++ [event]) ?_
        rw [hsplit, List.append_assoc, List.cons_append]
      rw [Machine.run_concat]
      exact machineInv_step config (ih hbefore) (hcareful before event [] rfl)

/-- From a database without guests: if no event of the run loses anything, no expiry is missed. -/
theorem expiries_followed {config : HouseConfig} {start : Machine} {events : List HouseEvent}
    (hidle : start.process = none) (hguests : start.tables.guests = [])
    (hcareful : CarefulRun config start events) : ExpiriesFollowed config start events := by
  have hstart : MachineInv start := by
    refine ⟨fun process hrun => absurd (hidle.symm.trans hrun) nofun, fun _ _ _ guest hmem => ?_⟩
    rw [hguests] at hmem
    cases hmem
  intro before after process pass hsplit hprocess hpass hphase process' hprocess' guest hmem hexpired
  have hprefix : CarefulRun config start (before ++ [.advance]) := by
    intro earlier event later hevent
    refine hcareful earlier event (later ++ after) ?_
    rw [hsplit, ← List.cons_append, ← List.append_assoc, ← hevent, List.append_assoc]
    rfl
  have hinv := machineInv_run hstart hprefix
  have hsince : process'.since = pass.now := by
    rw [Machine.run_concat, Machine.step_of_process config hprocess] at hprocess'
    dsimp only [Machine.runningStep] at hprocess'
    rw [hpass] at hprocess'
    dsimp only [advancePass] at hprocess'
    rw [hphase] at hprocess'
    cases hprocess'
    rfl
  obtain ⟨call, hcall, -, htime⟩ := (hinv.running process' hprocess').told guest hmem (hsince ▸ hexpired)
  exact ⟨call, hcall, htime⟩

theorem carefulRun_iff {config : HouseConfig} {start : Machine} {events : List HouseEvent} :
    CarefulRun config start events ↔
      ∀ i, (h : i < events.length) → Careful (start.run config (events.take i)) events[i] := by
  constructor
  · intro hcareful i h
    refine hcareful (events.take i) events[i] (events.drop (i + 1)) ?_
    rw [List.getElem_cons_drop, List.take_append_drop]
  · rintro hcareful before event after rfl
    simpa using hcareful before.length (by simp)

instance (guest : GuestRegistration) (instant : Int) : Decidable (Expired guest instant) :=
  decidable_of_iff
    (guest.revokedAt = none ∧ guest.createdAt < guest.expiresAt ∧ guest.expiresAt ≤ instant)
    ⟨fun ⟨hunrevoked, hcreated, hexpired⟩ => ⟨hunrevoked, hcreated, hexpired⟩,
      fun ⟨hunrevoked, hcreated, hexpired⟩ => ⟨hunrevoked, hcreated, hexpired⟩⟩

instance (machine : Machine) : (event : HouseEvent) → Decidable (Careful machine event)
  | .stop => inferInstanceAs (Decidable (∀ process ∈ machine.process, ∀ call ∈ process.pending,
      call.reason ≠ guestsExpiredReason))
  | .start => inferInstanceAs (Decidable (machine.process = none → ∀ guest ∈ machine.tables.guests,
      Expired guest machine.clock → ∃ since ∈ machine.stoppedAt, guest.expiresAt ≤ since))
  | .tick _ | .wake | .advance | .fail | .reevaluate | .request _ | .other _ _ => .isTrue trivial

instance (config : HouseConfig) (start : Machine) (events : List HouseEvent) :
    Decidable (CarefulRun config start events) :=
  decidable_of_iff _ carefulRun_iff.symm

def quietConfig : HouseConfig where
  platform := ⟨.utc, fun _ => none, id⟩

def newMachine : Machine where
  clock := 0
  tables := { db := ⟨{}, by decide⟩, admins := ⟨{}, by decide⟩ }

/-- A guest for one hour. -/
def guestForAnHour : HouseEvent :=
  .request (.add .operator { macAddress := "02:00:00:00:00:01", hours := 1 })

/-- The five transactions of a pass with little to do, the last of which is its report. -/
def wholePass : List HouseEvent :=
  [.wake, .advance, .advance, .advance, .advance, .advance]

/-- The guest expires, which is told and heard; the process is stopped and started, and another guest
expires. -/
def restartBetween : List HouseEvent :=
  [.start, guestForAnHour, .tick 3600000000] ++ wholePass ++
    [.reevaluate, .tick 60000000,
      .request (.add .operator { macAddress := "02:00:00:00:00:02", hours := 2 }),
      .stop, .tick 60000000, .start, .tick 7200000000] ++ wholePass

theorem expiries_followed_oneHour :
    CarefulRun quietConfig newMachine restartBetween ∧
      ExpiriesFollowed quietConfig newMachine restartBetween ∧
      (newMachine.run quietConfig restartBetween).process.map (·.pending) =
        some [⟨10920000000, guestsExpiredReason⟩] := by
  have hcareful : CarefulRun quietConfig newMachine restartBetween := by decide +kernel
  exact ⟨hcareful, expiries_followed rfl rfl hcareful, by decide +kernel⟩

/-- The guest expires while the process is restarted: no pass ever counts it. -/
theorem expiry_missed_by_restart :
    ¬ ExpiriesFollowed quietConfig newMachine
      ([.start, guestForAnHour, .stop, .tick 7200000000, .start, .tick 60000000] ++ wholePass) := by
  intro h
  obtain ⟨call, hcall, htime⟩ := h
    [.start, guestForAnHour, .stop, .tick 7200000000, .start, .tick 60000000, .wake, .advance, .advance,
      .advance, .advance] [] _ _ rfl rfl rfl rfl _ rfl
    (guestRow 1 "02:00:00:00:00:01" 0 1) (by decide +kernel) ⟨rfl, by decide, by decide⟩
  cases hcall

end Naco
