import Naco.Proof.Maintenance
import Naco.Proof.Portal

/-!
# What housekeeping deletes

A transaction of `_prune` takes up to a chunk of the rows that are too old. As long as other requests
write no log that is already too old, each transaction is one step of the pass towards its end, and at
the end no log is left that was too old at its start. What is deleted was too old by any later clock as
well, so a row that is young enough stays.
-/

namespace Naco

open Py

/-! ### One transaction -/

section

variable {ρ : Type} [DecidableEq ρ] {id : ρ → Nat} {timestamp : ρ → Int} {cutoff : Int} {rows : List ρ}

/-- The rows that are too old, oldest place first. -/
def tooOld (timestamp : ρ → Int) (cutoff : Int) (rows : List ρ) : List ρ :=
  rows.filter fun row => timestamp row < cutoff

omit [DecidableEq ρ] in
theorem mem_tooOld {row : ρ} : row ∈ tooOld timestamp cutoff rows ↔ row ∈ rows ∧ timestamp row < cutoff := by
  rw [tooOld, List.mem_filter, decide_eq_true_eq]

/-- Ids are unique, so just the rows that were taken go. -/
theorem kept_pruneRows (hnodup : (rows.map id).Nodup) : (pruneRows id timestamp cutoff rows).1 =
    rows.filter fun row => row ∉ (tooOld timestamp cutoff rows).take pruneChunk := by
  refine List.filter_congr fun row hrow => ?_
  rw [decide_eq_decide]
  refine not_congr (List.mem_map.trans ⟨?_, fun htaken => ⟨row, htaken, rfl⟩⟩)
  rintro ⟨other, hother, hid⟩
  have hmem := (mem_tooOld.mp (List.mem_of_mem_take hother)).1
  rw [← Rows.eq_of_key hnodup hmem hrow hid]
  exact hother

theorem filter_not_mem_take {l : List ρ} (hnodup : l.Nodup) (n : Nat) :
    (l.filter fun row => row ∉ l.take n) = l.drop n := by
  have hdisjoint := List.disjoint_take_drop hnodup (le_refl n)
  conv_lhs =>
    arg 2
    rw [← List.take_append_drop n l]
  rw [List.filter_append, List.filter_eq_nil_iff.mpr, List.filter_eq_self.mpr, List.nil_append]
  · intro row hrow
    exact decide_eq_true fun htaken => hdisjoint htaken hrow
  · intro row hrow
    simpa using hrow

/-- The rows that stay although they are too old. -/
theorem tooOld_pruneRows (hnodup : (rows.map id).Nodup) :
    tooOld timestamp cutoff (pruneRows id timestamp cutoff rows).1 =
      (tooOld timestamp cutoff rows).drop pruneChunk := by
  rw [kept_pruneRows hnodup, tooOld, List.filter_comm]
  exact filter_not_mem_take (hnodup.of_map.sublist List.filter_sublist) pruneChunk

theorem mem_pruneRows_of_young (hnodup : (rows.map id).Nodup) {row : ρ} (hrow : row ∈ rows)
    (hyoung : cutoff ≤ timestamp row) : row ∈ (pruneRows id timestamp cutoff rows).1 := by
  rw [kept_pruneRows hnodup, List.mem_filter, decide_eq_true_eq]
  refine ⟨hrow, fun htaken => ?_⟩
  have hold := (mem_tooOld.mp (List.mem_of_mem_take htaken)).2
  omega

/-- As many rows go as are too old, up to a chunk. -/
theorem removed_pruneRows (hnodup : (rows.map id).Nodup) :
    (pruneRows id timestamp cutoff rows).2 = min pruneChunk (tooOld timestamp cutoff rows).length := by
  have hold := congrArg List.length (@tooOld_pruneRows _ _ id timestamp cutoff rows hnodup)
  have hyoung : (pruneRows id timestamp cutoff rows).1.filter (fun row => !decide (timestamp row < cutoff)) =
      rows.filter fun row => !decide (timestamp row < cutoff) := by
    rw [kept_pruneRows hnodup, List.filter_filter]
    refine List.filter_congr fun row hrow => ?_
    by_cases hrowOld : timestamp row < cutoff
    · rw [decide_eq_true hrowOld]
      rfl
    · have hkept : row ∉ (tooOld timestamp cutoff rows).take pruneChunk :=
        fun htaken => hrowOld (mem_tooOld.mp (List.mem_of_mem_take htaken)).2
      rw [decide_eq_true hkept, Bool.and_true]
  have hsplit := @List.length_eq_length_filter_add _ (pruneRows id timestamp cutoff rows).1
    fun row => decide (timestamp row < cutoff)
  have hsplit' := @List.length_eq_length_filter_add _ rows fun row => decide (timestamp row < cutoff)
  have hremoved : (pruneRows id timestamp cutoff rows).2 =
      rows.length - (pruneRows id timestamp cutoff rows).1.length := rfl
  rw [hyoung] at hsplit
  rw [List.length_drop] at hold
  unfold tooOld at hold ⊢
  omega

end

/-! ### The three tables of logs -/

def RetentionConfig.days (retention : RetentionConfig) : LogTable → Nat
  | .auth => retention.authLogDays
  | .tacacs => retention.tacacsLogDays
  | .audit => retention.auditLogDays

def HouseConfig.cutoff (config : HouseConfig) (now : Int) (table : LogTable) : Int :=
  now - config.retention.days table * microsPerDay

def AuthLog.age (row : AuthLog) : LogRow :=
  ⟨row.id, row.timestamp⟩

namespace HouseTables

def logs (tables : HouseTables) : LogTable → List LogRow
  | .auth => tables.db.val.authLogs.map AuthLog.age
  | .tacacs => tables.tacacsLogs
  | .audit => tables.auditLogs

/-- The ids of each table are unique. -/
def Keyed (tables : HouseTables) : Prop :=
  ∀ table, ((tables.logs table).map LogRow.id).Nodup

/-- The rows of a table that are too old at an instant. -/
def expired (tables : HouseTables) (config : HouseConfig) (now : Int) (table : LogTable) : List LogRow :=
  tooOld LogRow.timestamp (config.cutoff now table) (tables.logs table)

end HouseTables

theorem pruneRows_age (cutoff : Int) (rows : List AuthLog) :
    (pruneRows AuthLog.id AuthLog.timestamp cutoff rows).1.map AuthLog.age =
      (pruneRows LogRow.id LogRow.timestamp cutoff (rows.map AuthLog.age)).1 ∧
    (pruneRows AuthLog.id AuthLog.timestamp cutoff rows).2 =
      (pruneRows LogRow.id LogRow.timestamp cutoff (rows.map AuthLog.age)).2 := by
  have hids : (((rows.map AuthLog.age).filter fun row => row.timestamp < cutoff).take pruneChunk).map
      LogRow.id = ((rows.filter fun row => row.timestamp < cutoff).take pruneChunk).map AuthLog.id := by
    rw [List.filter_map, ← List.map_take, List.map_map]
    rfl
  simp only [pruneRows]
  rw [hids, List.filter_map, List.length_map, List.length_map]
  exact ⟨rfl, rfl⟩

/-- A transaction of a pass prunes its table, and leaves the others. -/
theorem logs_prune (config : HouseConfig) (tables : HouseTables) (now : Int) (table other : LogTable) :
    (tables.prune config now table).1.logs other =
      (if other = table then
        (pruneRows LogRow.id LogRow.timestamp (config.cutoff now table) (tables.logs table)).1
      else tables.logs other) ∧
    (tables.prune config now table).2 =
      (pruneRows LogRow.id LogRow.timestamp (config.cutoff now table) (tables.logs table)).2 := by
  have hage := pruneRows_age (config.cutoff now .auth) tables.db.val.authLogs
  cases table with
  | auth =>
      refine ⟨?_, hage.2⟩
      cases other with
      | auth => exact hage.1
      | tacacs => rfl
      | audit => rfl
  | tacacs =>
      refine ⟨?_, rfl⟩
      cases other <;> rfl
  | audit =>
      refine ⟨?_, rfl⟩
      cases other <;> rfl

theorem keyed_prune {config : HouseConfig} {tables : HouseTables} (h : tables.Keyed) (now : Int)
    (table : LogTable) : (tables.prune config now table).1.Keyed := by
  intro other
  rw [(logs_prune config tables now table other).1]
  split
  · next heq =>
      subst heq
      exact (h other).sublist (List.filter_sublist.map _)
  · exact h other

theorem expired_prune {config : HouseConfig} {tables : HouseTables} (h : tables.Keyed) (now : Int)
    (table other : LogTable) : (tables.prune config now table).1.expired config now other =
      if other = table then (tables.expired config now table).drop pruneChunk
      else tables.expired config now other := by
  rw [HouseTables.expired, (logs_prune config tables now table other).1]
  split
  · next heq =>
      subst heq
      exact tooOld_pruneRows (h other)
  · rfl

theorem removed_prune {config : HouseConfig} {tables : HouseTables} (h : tables.Keyed) (now : Int)
    (table : LogTable) : (tables.prune config now table).2 =
      min pruneChunk (tables.expired config now table).length := by
  rw [(logs_prune config tables now table table).2]
  exact removed_pruneRows (h table)

/-! ### The way of a pass -/

def HouseTables.chunks (tables : HouseTables) (config : HouseConfig) (now : Int) (table : LogTable) : Nat :=
  (tables.expired config now table).length / pruneChunk

/-- The tables that a pass has pruned. -/
def PassPhase.pruned : PassPhase → List LogTable
  | .prune .auth => []
  | .prune .tacacs => [.auth]
  | .prune .audit => [.auth, .tacacs]
  | .sweep => [.auth, .tacacs, .audit]
  | .report => [.auth, .tacacs, .audit]

/-- How many steps a pass has before it. -/
def stepsLeft (config : HouseConfig) (tables : HouseTables) (pass : Pass) : Nat :=
  match pass.phase with
  | .prune .auth => tables.chunks config pass.now .auth + tables.chunks config pass.now .tacacs +
      tables.chunks config pass.now .audit + 5
  | .prune .tacacs =>
      tables.chunks config pass.now .tacacs + tables.chunks config pass.now .audit + 4
  | .prune .audit => tables.chunks config pass.now .audit + 3
  | .sweep => 2
  | .report => 1

def HouseProcess.stepsLeft (config : HouseConfig) (tables : HouseTables) (process : HouseProcess) : Nat :=
  process.pass.elim 0 (Naco.stepsLeft config tables)

section

variable {config : HouseConfig} {tables : HouseTables}

theorem chunks_prune_other (h : tables.Keyed) (now : Int) {table other : LogTable} (hne : other ≠ table) :
    (tables.prune config now table).1.chunks config now other = tables.chunks config now other := by
  rw [HouseTables.chunks, expired_prune h, if_neg hne]
  rfl

/-- A full transaction brings the end of its table one nearer. -/
theorem chunks_prune (h : tables.Keyed) {now : Int} {table : LogTable}
    (hfull : ¬ (tables.prune config now table).2 < pruneChunk) :
    (tables.prune config now table).1.chunks config now table + 1 = tables.chunks config now table := by
  rw [removed_prune h] at hfull
  rw [HouseTables.chunks, HouseTables.chunks, expired_prune h, if_pos rfl, List.length_drop]
  unfold pruneChunk at *
  omega

/-- After a transaction that is not full, nothing in its table is too old. -/
theorem expired_prune_of_last (h : tables.Keyed) {now : Int} {table : LogTable}
    (hlast : (tables.prune config now table).2 < pruneChunk) :
    tables.chunks config now table = 0 ∧ (tables.prune config now table).1.expired config now table = [] := by
  rw [removed_prune h] at hlast
  rw [expired_prune h, if_pos rfl, HouseTables.chunks, List.drop_eq_nil_iff]
  unfold pruneChunk at *
  omega

/-- Each transaction of a pass, and its report, is one step less. -/
theorem stepsLeft_advance (h : tables.Keyed) (clock : Int) (process : HouseProcess) (pass : Pass) :
    (advancePass config tables clock process pass).2.stepsLeft config
      (advancePass config tables clock process pass).1 + 1 = stepsLeft config tables pass := by
  obtain ⟨now, phase, pruned, guestsExpired⟩ := pass
  cases phase with
  | prune table =>
      have hauthTacacs := @chunks_prune_other config tables h now .auth .tacacs (by decide)
      have hauthAudit := @chunks_prune_other config tables h now .auth .audit (by decide)
      have htacacsAudit := @chunks_prune_other config tables h now .tacacs .audit (by decide)
      by_cases hlast : (tables.prune config now table).2 < pruneChunk
      · have hdone := (expired_prune_of_last h hlast).1
        cases table <;>
          simp only [advancePass, hlast, if_true, HouseProcess.stepsLeft, Option.elim_some, stepsLeft,
            PassPhase.afterPrune, hdone, hauthTacacs, hauthAudit, htacacsAudit] <;>
          omega
      · have hmore := chunks_prune h hlast
        cases table <;>
          simp only [advancePass, hlast, if_false, HouseProcess.stepsLeft, Option.elim_some, stepsLeft,
            hauthTacacs, hauthAudit, htacacsAudit] <;>
          omega
  | sweep => rfl
  | report => rfl

end

/-! ### What a machine keeps -/

/-- Another request writes no log that is already too old, and no id twice. -/
def Honest (config : HouseConfig) (machine : Machine) : HouseEvent → Prop
  | .other tables _ => tables.Keyed ∧ ∀ table, ∀ row ∈ tables.logs table,
      row ∈ machine.tables.logs table ∨ config.cutoff machine.clock table ≤ row.timestamp
  | _ => True

/-- No table that the pass has pruned has a log that was too old at its start. -/
structure RetentionInv (config : HouseConfig) (machine : Machine) : Prop where
  keyed : machine.tables.Keyed
  past : ∀ process pass, machine.process = some process → process.pass = some pass →
    pass.now ≤ machine.clock
  pruned : ∀ process pass, machine.process = some process → process.pass = some pass →
    ∀ table ∈ pass.phase.pruned, machine.tables.expired config pass.now table = []

def Machine.stepsLeft (config : HouseConfig) (machine : Machine) : Nat :=
  machine.process.elim 0 (HouseProcess.stepsLeft config machine.tables)

theorem logs_withGuests (tables others : HouseTables) (table : LogTable) :
    (tables.withGuests others).logs table = others.logs table := by
  cases table <;> rfl

theorem authLogs_request {config : HouseConfig} {now : Int} {request : GuestRequest} {db : Database}
    {outcome : Outcome} (h : request.run config now db = .ok outcome) :
    outcome.db.val.authLogs = db.val.authLogs := by
  cases request with
  | add role body =>
      simp only [GuestRequest.run, addGuest] at h
      obtain ⟨_, -, h⟩ := bind_eq_ok_iff.mp h
      split at h
      · obtain ⟨_, rfl⟩ := commitOrRaise_eq_ok_iff.mp h
        rfl
      · cases h
  | revoke role id =>
      simp only [GuestRequest.run, revokeGuest] at h
      obtain ⟨_, -, h⟩ := bind_eq_ok_iff.mp h
      obtain ⟨guest, -, h⟩ := bind_eq_ok_iff.mp h
      split at h
      · obtain ⟨_, rfl⟩ := commitOrRaise_eq_ok_iff.mp h
        rfl
      · cases h
        rfl
  | register withinLimit form =>
      rcases register_cases h with ⟨hsame, -⟩ | ⟨-, hadmits, -⟩
      · rw [hsame]
      · obtain ⟨session, -, -, hwritten⟩ := hadmits.device
        rw [hwritten]

theorem cutoff_mono (config : HouseConfig) {now later : Int} (h : now ≤ later) (table : LogTable) :
    config.cutoff now table ≤ config.cutoff later table := by
  unfold HouseConfig.cutoff
  omega

/-- What another request leaves that is too old was there before. -/
theorem expired_honest {config : HouseConfig} {machine : Machine} {tables : HouseTables}
    {scheduled : List String} (h : Honest config machine (.other tables scheduled)) {now : Int}
    (hpast : now ≤ machine.clock) (table : LogTable) :
    tables.expired config now table ⊆ machine.tables.expired config now table := by
  intro row hrow
  obtain ⟨hmem, hold⟩ := mem_tooOld.mp hrow
  rcases h.2 table row hmem with hkept | hyoung
  · exact mem_tooOld.mpr ⟨hkept, hold⟩
  · have hmono := cutoff_mono config hpast table
    omega

theorem chunks_honest {config : HouseConfig} {machine : Machine} {tables : HouseTables}
    {scheduled : List String} (h : Honest config machine (.other tables scheduled)) {now : Int}
    (hpast : now ≤ machine.clock) (table : LogTable) :
    tables.chunks config now table ≤ machine.tables.chunks config now table := by
  refine Nat.div_le_div_right (List.Nodup.subperm ?_ (expired_honest h hpast table)).length_le
  exact ((h.1 table).of_map).sublist List.filter_sublist

/-- A pass goes on, if there is one. -/
def Continues (machine machine' : Machine) : Prop :=
  ∀ process' pass, machine'.process = some process' → process'.pass = some pass →
    ∃ process, machine.process = some process ∧ process.pass = some pass

/-- What an event does to the logs and to the pass. -/
inductive HouseStep (config : HouseConfig) (machine machine' : Machine) : HouseEvent → Prop
  | quiet {event : HouseEvent} (hclock : machine.clock ≤ machine'.clock)
      (hlogs : ∀ table, machine'.tables.logs table = machine.tables.logs table)
      (hpass : Continues machine machine')
      (hidle : event = .advance → ∀ process, machine.process = some process → process.pass = none) :
      HouseStep config machine machine' event
  | elsewhere (tables : HouseTables) (scheduled : List String) (hclock : machine'.clock = machine.clock)
      (hlogs : ∀ table, machine'.tables.logs table = tables.logs table)
      (hpass : Continues machine machine') :
      HouseStep config machine machine' (.other tables scheduled)
  | woken (process : HouseProcess) (hclock : machine'.clock = machine.clock)
      (htables : machine'.tables = machine.tables)
      (hprocess' : machine'.process = some { process with pass := some { now := machine.clock } }) :
      HouseStep config machine machine' .wake
  | advanced (process : HouseProcess) (pass : Pass) (hprocess : machine.process = some process)
      (hpass : process.pass = some pass) (hclock : machine'.clock = machine.clock)
      (htables : machine'.tables = (advancePass config machine.tables machine.clock process pass).1)
      (hprocess' : machine'.process =
        some (advancePass config machine.tables machine.clock process pass).2) :
      HouseStep config machine machine' .advance

theorem HouseStep.same {config : HouseConfig} {machine : Machine} {event : HouseEvent}
    (hidle : event = .advance → ∀ process, machine.process = some process → process.pass = none) :
    HouseStep config machine machine event :=
  .quiet (le_refl _) (fun _ => rfl) (fun process' _ h hpass => ⟨process', h, hpass⟩) hidle

theorem houseStep (config : HouseConfig) (machine : Machine) (event : HouseEvent) :
    HouseStep config machine (machine.step config event) event := by
  cases hprocess : machine.process with
  | none =>
      have hidle : event = .advance → ∀ process, machine.process = some process → process.pass = none := by
        intro _ process h
        cases hprocess.symm.trans h
      unfold Machine.step
      rw [hprocess]
      dsimp only
      cases event with
      | tick micros =>
          refine .quiet ?_ (fun _ => rfl) (fun process' pass h => by cases h) hidle
          change machine.clock ≤ machine.clock + micros
          omega
      | start =>
          exact .quiet (le_refl _) (fun _ => rfl) (fun process' pass h hpass => by cases h; cases hpass)
            hidle
      | _ => exact .same hidle
  | some process =>
      rw [Machine.step_of_process config hprocess]
      cases event with
      | tick micros =>
          refine .quiet ?_ (fun _ => rfl) (fun process' pass h hpass => ⟨process', h, hpass⟩)
            (fun h => by cases h)
          change machine.clock ≤ machine.clock + micros
          omega
      | start => exact .same fun h => by cases h
      | stop =>
          exact .quiet (le_refl _) (fun _ => rfl) (fun process' pass h => by cases h) (fun h => by cases h)
      | wake =>
          dsimp only [Machine.runningStep]
          split
          · exact .woken process rfl rfl rfl
          · exact .same fun h => by cases h
      | advance =>
          dsimp only [Machine.runningStep]
          split
          · next hnone =>
              refine .same fun _ other hother => ?_
              cases hprocess.symm.trans hother
              exact hnone
          · next pass hpass => exact .advanced process pass hprocess hpass rfl rfl rfl
      | fail =>
          exact .quiet (le_refl _) (fun _ => rfl) (fun process' pass h hpass => by cases h; cases hpass)
            (fun h => by cases h)
      | reevaluate =>
          refine .quiet (le_refl _) (fun _ => rfl) (fun process' pass h hpass => ?_) (fun h => by cases h)
          cases h
          exact ⟨process, hprocess, hpass⟩
      | request request =>
          dsimp only [Machine.runningStep]
          split
          · exact .same fun h => by cases h
          · next outcome hrun =>
              refine .quiet (le_refl _) (fun table => ?_) (fun process' pass h hpass => ?_)
                (fun h => by cases h)
              · cases table with
                | auth => exact congrArg (List.map AuthLog.age) (authLogs_request hrun)
                | tacacs => rfl
                | audit => rfl
              · cases h
                exact ⟨process, hprocess, hpass⟩
      | other tables scheduled =>
          refine .elsewhere tables scheduled rfl (fun table => logs_withGuests _ _ table)
            (fun process' pass h hpass => ?_)
          cases h
          exact ⟨process, hprocess, hpass⟩

/-! ### One step of a pass -/

theorem keyed_of_logs {tables tables' : HouseTables} (h : tables.Keyed)
    (hlogs : ∀ table, tables'.logs table = tables.logs table) : tables'.Keyed := by
  intro table
  rw [hlogs]
  exact h table

theorem logs_sweep (config : HouseConfig) (tables : HouseTables) (now : Int) (table : LogTable) :
    (tables.sweep config now).logs table = tables.logs table := by
  cases table <;> rfl

theorem keyed_advance {config : HouseConfig} {tables : HouseTables} (h : tables.Keyed) (clock : Int)
    (process : HouseProcess) (pass : Pass) :
    (advancePass config tables clock process pass).1.Keyed := by
  obtain ⟨now, phase, pruned, guestsExpired⟩ := pass
  cases phase with
  | prune table => exact keyed_prune h now table
  | sweep => exact keyed_of_logs h (logs_sweep config tables now)
  | report => exact h

theorem pruned_afterPrune (table : LogTable) :
    (PassPhase.afterPrune table).pruned = (PassPhase.prune table).pruned ++ [table] := by
  cases table <;> rfl

/-- What was pruned stays so, and the last transaction of a table prunes it. -/
theorem pruned_advance {config : HouseConfig} {tables : HouseTables} (h : tables.Keyed) (clock : Int)
    (process : HouseProcess) {pass pass' : Pass}
    (hpruned : ∀ table ∈ pass.phase.pruned, tables.expired config pass.now table = [])
    (hpass' : (advancePass config tables clock process pass).2.pass = some pass') :
    pass'.now = pass.now ∧ ∀ table ∈ pass'.phase.pruned,
      (advancePass config tables clock process pass).1.expired config pass.now table = [] := by
  obtain ⟨now, phase, pruned, guestsExpired⟩ := pass
  cases phase with
  | prune table =>
      have hstays : ∀ other, tables.expired config now other = [] →
          (tables.prune config now table).1.expired config now other = [] := by
        intro other hother
        rw [expired_prune h]
        split
        · next heq =>
            rw [← heq, hother, List.drop_nil]
        · exact hother
      cases hpass'
      refine ⟨rfl, fun other hother => ?_⟩
      change other ∈ (if (tables.prune config now table).2 < pruneChunk then PassPhase.afterPrune table
        else .prune table).pruned at hother
      split at hother
      · next hlast =>
          rw [pruned_afterPrune, List.mem_append, List.mem_singleton] at hother
          rcases hother with hold | rfl
          · exact hstays other (hpruned other hold)
          · exact (expired_prune_of_last h hlast).2
      · exact hstays other (hpruned other hother)
  | sweep =>
      cases hpass'
      refine ⟨rfl, fun other hother => ?_⟩
      change (tables.sweep config now).expired config now other = []
      rw [HouseTables.expired, logs_sweep]
      exact hpruned other hother
  | report => cases hpass'

/-! ### One event -/

theorem retentionInv_step {config : HouseConfig} {machine : Machine} (h : RetentionInv config machine)
    {event : HouseEvent} (hhonest : Honest config machine event) :
    RetentionInv config (machine.step config event) := by
  cases houseStep config machine event with
  | quiet hclock hlogs hpass hidle =>
      refine ⟨keyed_of_logs h.keyed hlogs, fun process' pass hrun hunder => ?_,
        fun process' pass hrun hunder table hmem => ?_⟩
      · obtain ⟨process, hprocess, hold⟩ := hpass process' pass hrun hunder
        exact (h.past process pass hprocess hold).trans hclock
      · obtain ⟨process, hprocess, hold⟩ := hpass process' pass hrun hunder
        rw [HouseTables.expired, hlogs]
        exact h.pruned process pass hprocess hold table hmem
  | elsewhere tables scheduled hclock hlogs hpass =>
      refine ⟨keyed_of_logs hhonest.1 hlogs, fun process' pass hrun hunder => ?_,
        fun process' pass hrun hunder table hmem => ?_⟩
      · obtain ⟨process, hprocess, hold⟩ := hpass process' pass hrun hunder
        exact (h.past process pass hprocess hold).trans (le_of_eq hclock.symm)
      · obtain ⟨process, hprocess, hold⟩ := hpass process' pass hrun hunder
        have hsub := expired_honest hhonest (h.past process pass hprocess hold) table
        rw [h.pruned process pass hprocess hold table hmem] at hsub
        rw [HouseTables.expired, hlogs]
        exact List.eq_nil_of_subset_nil hsub
  | woken process hclock htables hprocess' =>
      refine ⟨?_, fun found pass hrun hunder => ?_, fun found pass hrun hunder table hmem => ?_⟩
      · rw [htables]
        exact h.keyed
      · cases hprocess'.symm.trans hrun
        cases hunder
        exact le_of_eq hclock.symm
      · cases hprocess'.symm.trans hrun
        cases hunder
        cases hmem
  | advanced process pass hprocess hpass hclock htables hprocess' =>
      have hpruned := h.pruned process pass hprocess hpass
      have hpast := h.past process pass hprocess hpass
      refine ⟨?_, fun found pass' hrun hunder => ?_, fun found pass' hrun hunder table hmem => ?_⟩
      · rw [htables]
        exact keyed_advance h.keyed machine.clock process pass
      · cases hprocess'.symm.trans hrun
        rw [(pruned_advance h.keyed machine.clock process hpruned hunder).1, hclock]
        exact hpast
      · cases hprocess'.symm.trans hrun
        obtain ⟨hnow, hdone⟩ := pruned_advance h.keyed machine.clock process hpruned hunder
        rw [hnow, htables]
        exact hdone table hmem

theorem stepsLeft_mono {config : HouseConfig} {tables tables' : HouseTables} {pass : Pass}
    (h : ∀ table, tables'.chunks config pass.now table ≤ tables.chunks config pass.now table) :
    stepsLeft config tables' pass ≤ stepsLeft config tables pass := by
  have hauth := h .auth
  have htacacs := h .tacacs
  have haudit := h .audit
  unfold stepsLeft
  split <;> omega

theorem Machine.stepsLeft_eq {config : HouseConfig} {machine : Machine} {process : HouseProcess}
    {pass : Pass} (hprocess : machine.process = some process) (hpass : process.pass = some pass) :
    machine.stepsLeft config = Naco.stepsLeft config machine.tables pass := by
  rw [Machine.stepsLeft, hprocess, Option.elim_some, HouseProcess.stepsLeft, hpass, Option.elim_some]

theorem Machine.stepsLeft_le {config : HouseConfig} {machine machine' : Machine}
    (hpass : Continues machine machine')
    (hchunks : ∀ process pass, machine.process = some process → process.pass = some pass →
      ∀ table, machine'.tables.chunks config pass.now table ≤
        machine.tables.chunks config pass.now table) :
    machine'.stepsLeft config ≤ machine.stepsLeft config := by
  cases hprocess' : machine'.process with
  | none =>
      rw [Machine.stepsLeft, hprocess', Option.elim_none]
      exact Nat.zero_le _
  | some process' =>
      cases hpass' : process'.pass with
      | none =>
          rw [Machine.stepsLeft, hprocess', Option.elim_some, HouseProcess.stepsLeft, hpass',
            Option.elim_none]
          exact Nat.zero_le _
      | some pass =>
          obtain ⟨process, hprocess, hold⟩ := hpass process' pass hprocess' hpass'
          rw [Machine.stepsLeft_eq hprocess' hpass', Machine.stepsLeft_eq hprocess hold]
          exact stepsLeft_mono (hchunks process pass hprocess hold)

def HouseEvent.isAdvance : HouseEvent → Bool
  | .advance => true
  | _ => false

/-- An advance is one step; nothing that is honest adds one, but for a new pass. -/
theorem stepsLeft_step {config : HouseConfig} {machine : Machine} (h : RetentionInv config machine)
    {event : HouseEvent} (hhonest : Honest config machine event) (hwake : event ≠ .wake) :
    (machine.step config event).stepsLeft config ≤
      machine.stepsLeft config - if event.isAdvance then 1 else 0 := by
  cases houseStep config machine event with
  | quiet hclock hlogs hpass hidle =>
      have hle : (machine.step config event).stepsLeft config ≤ machine.stepsLeft config := by
        refine Machine.stepsLeft_le hpass fun process pass _ _ table => ?_
        rw [HouseTables.chunks, HouseTables.expired, hlogs]
        exact le_refl _
      cases event with
      | advance =>
          have hzero : machine.stepsLeft config = 0 := by
            cases hprocess : machine.process with
            | none => rw [Machine.stepsLeft, hprocess, Option.elim_none]
            | some process =>
                rw [Machine.stepsLeft, hprocess, Option.elim_some, HouseProcess.stepsLeft,
                  hidle rfl process hprocess, Option.elim_none]
          omega
      | _ => exact hle
  | elsewhere tables scheduled hclock hlogs hpass =>
      refine Machine.stepsLeft_le hpass fun process pass hprocess hold table => ?_
      rw [HouseTables.chunks, HouseTables.expired, hlogs]
      exact chunks_honest hhonest (h.past process pass hprocess hold) table
  | woken process hclock htables hprocess' => exact absurd rfl hwake
  | advanced process pass hprocess hpass hclock htables hprocess' =>
      have hstep := @stepsLeft_advance config machine.tables h.keyed machine.clock process pass
      rw [Machine.stepsLeft_eq hprocess hpass, Machine.stepsLeft, hprocess', Option.elim_some, htables]
      change _ ≤ Naco.stepsLeft config machine.tables pass - 1
      omega

/-! ### What a step spares -/

/-- Only rows go that are too old, or of sessions that are over, at this instant. -/
structure Spares (config : HouseConfig) (clock : Int) (tables tables' : HouseTables) : Prop where
  logs : ∀ table, (tables'.logs table).Sublist (tables.logs table) ∧
    ∀ row ∈ tables.logs table, config.cutoff clock table ≤ row.timestamp → row ∈ tables'.logs table
  sessions : tables'.db.val.sessions.Sublist tables.db.val.sessions ∧
    ∀ session ∈ tables.db.val.sessions, clock - config.staleSessionHours * microsPerHour ≤ session.updatedAt →
      session ∈ tables'.db.val.sessions
  adminSessions : tables'.admins.val.sessions.Sublist tables.admins.val.sessions ∧
    ∀ session ∈ tables.admins.val.sessions, clock ≤ session.expiresAt →
      clock - config.sessionIdleMinutes * microsPerMinute ≤ session.lastSeenAt →
      session ∈ tables'.admins.val.sessions
  others : tables'.db.val = { tables.db.val with
      authLogs := tables'.db.val.authLogs, sessions := tables'.db.val.sessions } ∧
    tables'.admins.val = { tables.admins.val with sessions := tables'.admins.val.sessions }

theorem spares_refl (config : HouseConfig) (clock : Int) (tables : HouseTables) :
    Spares config clock tables tables :=
  ⟨fun _ => ⟨List.Sublist.refl _, fun _ hrow _ => hrow⟩, ⟨List.Sublist.refl _, fun _ h _ => h⟩,
    ⟨List.Sublist.refl _, fun _ h _ _ => h⟩, rfl, rfl⟩

theorem spares_prune {config : HouseConfig} {tables : HouseTables} (h : tables.Keyed) {now clock : Int}
    (hpast : now ≤ clock) (table : LogTable) :
    Spares config clock tables (tables.prune config now table).1 := by
  have hrest : (tables.prune config now table).1.db.val = { tables.db.val with
        authLogs := (tables.prune config now table).1.db.val.authLogs } ∧
      (tables.prune config now table).1.admins = tables.admins := by
    cases table <;> exact ⟨rfl, rfl⟩
  have hsessions : (tables.prune config now table).1.db.val.sessions = tables.db.val.sessions := by
    rw [hrest.1]
  refine ⟨fun other => ?_, ?_, ?_, ?_, ?_⟩
  · rw [(logs_prune config tables now table other).1]
    split
    · next heq =>
        subst heq
        refine ⟨List.filter_sublist, fun row hrow hyoung => ?_⟩
        exact mem_pruneRows_of_young (h other) hrow ((cutoff_mono config hpast other).trans hyoung)
    · exact ⟨List.Sublist.refl _, fun row hrow _ => hrow⟩
  · rw [hsessions]
    exact ⟨List.Sublist.refl _, fun _ hmem _ => hmem⟩
  · rw [hrest.2]
    exact ⟨List.Sublist.refl _, fun _ hmem _ _ => hmem⟩
  · rw [hsessions]
    exact hrest.1
  · rw [hrest.2]

theorem spares_sweep (config : HouseConfig) (tables : HouseTables) {now clock : Int}
    (hpast : now ≤ clock) : Spares config clock tables (tables.sweep config now) := by
  refine ⟨fun table => ?_, ⟨List.filter_sublist, fun session hmem hlive => ?_⟩,
    ⟨List.filter_sublist, fun session hmem hlive hseen => ?_⟩, rfl, rfl⟩
  · rw [logs_sweep]
    exact ⟨List.Sublist.refl _, fun _ hrow _ => hrow⟩
  · refine List.mem_filter.mpr ⟨hmem, ?_⟩
    rw [decide_eq_true_eq]
    omega
  · refine List.mem_filter.mpr ⟨hmem, ?_⟩
    rw [decide_eq_true_eq]
    omega

theorem spares_advance {config : HouseConfig} {machine : Machine} (h : RetentionInv config machine) :
    Spares config machine.clock machine.tables (machine.step config .advance).tables := by
  cases hprocess : machine.process with
  | none =>
      have hidle : machine.step config .advance = machine := by
        unfold Machine.step
        rw [hprocess]
      rw [hidle]
      exact spares_refl config machine.clock machine.tables
  | some process =>
      rw [Machine.step_of_process config hprocess]
      dsimp only [Machine.runningStep]
      split
      · exact spares_refl config machine.clock machine.tables
      · next pass hpass =>
          have hpast := h.past process pass hprocess hpass
          obtain ⟨now, phase, pruned, guestsExpired⟩ := pass
          cases phase with
          | prune table => exact spares_prune h.keyed hpast table
          | sweep => exact spares_sweep config machine.tables hpast
          | report => exact spares_refl config machine.clock machine.tables

/-! ### Whole runs -/

def HonestRun (config : HouseConfig) (start : Machine) (events : List HouseEvent) : Prop :=
  ∀ before event after, events = before ++ event :: after → Honest config (start.run config before) event

theorem HonestRun.of_append {config : HouseConfig} {start : Machine} {events events' : List HouseEvent}
    (h : HonestRun config start (events ++ events')) : HonestRun config start events := by
  intro before event after hsplit
  refine h before event (after ++ events') ?_
  rw [hsplit, List.append_assoc, List.cons_append]

theorem HonestRun.cons {config : HouseConfig} {start : Machine} {event : HouseEvent}
    {events : List HouseEvent} (h : Honest config start event)
    (hrest : HonestRun config (start.step config event) events) :
    HonestRun config start (event :: events) := by
  intro before event' after hsplit
  cases before with
  | nil =>
      obtain ⟨rfl, -⟩ := List.cons.inj hsplit
      exact h
  | cons first before =>
      obtain ⟨rfl, rfl⟩ := List.cons.inj hsplit
      exact hrest before event' after rfl

theorem HonestRun.nil {config : HouseConfig} {start : Machine} : HonestRun config start [] := by
  intro before event after hsplit
  exact absurd hsplit.symm (by simp)

theorem retentionInv_run {config : HouseConfig} {start : Machine} {events : List HouseEvent}
    (h : RetentionInv config start) (hhonest : HonestRun config start events) :
    RetentionInv config (start.run config events) := by
  induction events using List.reverseRecOn with
  | nil => exact h
  | append_singleton before event ih =>
      rw [Machine.run_concat]
      exact retentionInv_step (ih hhonest.of_append) (hhonest before event [] rfl)

/-- As many steps are done as there are advances. -/
theorem stepsLeft_run {config : HouseConfig} {start : Machine} {before after : List HouseEvent}
    (h : RetentionInv config start) (hhonest : HonestRun config start (before ++ after))
    (hwake : .wake ∉ after) :
    (start.run config (before ++ after)).stepsLeft config ≤
      (start.run config before).stepsLeft config - after.countP HouseEvent.isAdvance := by
  induction after using List.reverseRecOn with
  | nil =>
      rw [List.append_nil]
      exact le_refl _
  | append_singleton after event ih =>
      rw [← List.append_assoc] at hhonest ⊢
      rw [List.mem_append, List.mem_singleton, not_or] at hwake
      have hle := ih hhonest.of_append hwake.1
      have hstep := stepsLeft_step (retentionInv_run h hhonest.of_append)
        (hhonest (before ++ after) event [] rfl) (Ne.symm hwake.2)
      rw [Machine.run_concat, List.countP_append, List.countP_singleton]
      omega

/-- Each step of housekeeping deletes only what is too old or over by then; when a pass reports, no log
is left that was too old at its start; and a pass ends with the full transactions its tables need and
five steps more. -/
theorem retention_kept {config : HouseConfig} {start : Machine} {events : List HouseEvent}
    (hidle : start.process = none) (hkeyed : start.tables.Keyed)
    (hhonest : HonestRun config start events) :
    ∀ before after, events = before ++ after →
      let machine := start.run config before
      (∀ rest, after = .advance :: rest → Spares config machine.clock machine.tables
        (start.run config (before ++ [.advance])).tables) ∧
      (∀ process pass, machine.process = some process → process.pass = some pass →
        pass.phase = .report → ∀ table, ∀ row ∈ machine.tables.logs table,
          config.cutoff pass.now table ≤ row.timestamp) ∧
      (.wake ∉ after → machine.stepsLeft config ≤ after.countP HouseEvent.isAdvance →
        ∀ process, (start.run config events).process = some process → process.pass = none) := by
  have hstart : RetentionInv config start := by
    refine ⟨hkeyed, fun process pass hrun => ?_, fun process pass hrun => ?_⟩ <;>
      cases hidle.symm.trans hrun
  rintro before after rfl machine
  have hinv := retentionInv_run hstart hhonest.of_append
  refine ⟨?_, ?_, ?_⟩
  · rintro rest -
    rw [Machine.run_concat]
    exact spares_advance hinv
  · intro process pass hprocess hpass hphase table row hrow
    have hnone := hinv.pruned process pass hprocess hpass table (by
      rw [hphase]
      cases table <;> decide)
    by_contra hold
    have hmem : row ∈ machine.tables.expired config pass.now table :=
      mem_tooOld.mpr ⟨hrow, not_le.mp hold⟩
    rw [hnone] at hmem
    cases hmem
  · intro hwake hmany process hprocess
    change (start.run config before).stepsLeft config ≤ _ at hmany
    have hrun := stepsLeft_run hstart hhonest hwake
    cases hpass : process.pass with
    | none => rfl
    | some pass =>
        have hpos : 0 < stepsLeft config (start.run config (before ++ after)).tables pass := by
          unfold stepsLeft
          split <;> omega
        rw [Machine.stepsLeft_eq hprocess hpass] at hrun
        omega

/-- Noon of 3 May 2024, so many hours before. -/
def hoursAgo (hours : Nat) : Int :=
  63850334400000000 - hours * microsPerHour

def logOf (id hours : Nat) : AuthLog :=
  { id, timestamp := hoursAgo hours, username := "ana", macAddress := "", nasIp := "10.0.0.1",
    nasName := "sw1", ssid := "", authMethod := "PAP", result := .accept, reason := "",
    policyName := "lan", vlan := none, decisionDigest := "" }

/-- Logs of 100 and of 10 days, one of the audit of 400 days, a session that was not heard of for a day and an
hour, one of an hour, and an administrator who was here a minute ago and one whose session is over. -/
def oldTables : HouseTables where
  db := ⟨{ authLogs := [logOf 1 2400, logOf 2 240]
           sessions := [{ id := 1, nasIp := "10.0.0.1", acctSessionId := "1", updatedAt := hoursAgo 25 },
             { id := 2, nasIp := "10.0.0.1", acctSessionId := "2", updatedAt := hoursAgo 1 }] },
    by decide +kernel⟩
  admins := ⟨{ admins := [{ id := 1, username := "root", passwordHash := "" }]
               sessions := [⟨1, "a", 1, "", hoursAgo 2, hoursAgo 0, hoursAgo 0 + 1⟩,
                 ⟨2, "b", 1, "", hoursAgo 9, hoursAgo 1, hoursAgo 1⟩] }, by decide +kernel⟩
  tacacsLogs := [⟨1, hoursAgo 2400⟩]
  auditLogs := [⟨1, hoursAgo 9600⟩, ⟨2, hoursAgo 2400⟩]

/-- What another request commits while the audit log is still to be pruned: it adds to that. -/
def auditedTables : HouseTables :=
  { oldTables with
    db := ⟨{ oldTables.db.val with authLogs := [logOf 2 240] }, by decide +kernel⟩
    tacacsLogs := []
    auditLogs := oldTables.auditLogs ++ [⟨3, hoursAgo 0⟩] }

def oldMachine : Machine where
  clock := hoursAgo 0
  tables := oldTables

def auditedPass : List HouseEvent :=
  [.advance, .advance, .other auditedTables [], .advance, .advance, .advance]

theorem keyed_oldTables : oldTables.Keyed := by
  intro table
  cases table <;> decide +kernel

theorem honestRun_auditedPass : HonestRun quietConfig oldMachine ([.start, .wake] ++ auditedPass) := by
  have hother : Honest quietConfig (oldMachine.run quietConfig [.start, .wake, .advance, .advance])
      (.other auditedTables []) := by
    constructor
    · intro table
      cases table <;> decide +kernel
    · intro table
      cases table <;> decide +kernel
  exact .cons trivial (.cons trivial (.cons trivial (.cons trivial (.cons hother
    (.cons trivial (.cons trivial (.cons trivial .nil)))))))

/-- The first step spares the young; where the pass is about to report, no old log is left; and the pass is
over after that. -/
theorem retention_kept_wholePass :
    let reporting := oldMachine.run quietConfig ([.start, .wake] ++ auditedPass.take 5)
    let ended := oldMachine.run quietConfig ([.start, .wake] ++ auditedPass)
    Spares quietConfig (hoursAgo 0) oldTables
        (oldMachine.run quietConfig ([.start, .wake] ++ [.advance])).tables ∧
      (∀ table, ∀ row ∈ reporting.tables.logs table,
        quietConfig.cutoff (hoursAgo 0) table ≤ row.timestamp) ∧
      (∀ process, ended.process = some process → process.pass = none) ∧
      (ended.tables.logs .auth).map (·.id) = [2] ∧ (ended.tables.logs .tacacs).map (·.id) = [] ∧
      (ended.tables.logs .audit).map (·.id) = [2, 3] ∧
      ended.tables.db.val.sessions.map (·.id) = [2] ∧ ended.tables.admins.val.sessions.map (·.id) = [1] := by
  intro reporting ended
  have hkept := retention_kept rfl keyed_oldTables honestRun_auditedPass
  have hclock : (oldMachine.run quietConfig [.start, .wake]).clock = hoursAgo 0 ∧
      (oldMachine.run quietConfig [.start, .wake]).tables = oldTables := ⟨rfl, rfl⟩
  have hphase : (reporting.process.bind HouseProcess.pass).map (fun pass => (pass.phase, pass.now)) =
      some (.report, hoursAgo 0) := by
    decide +kernel
  refine ⟨?_, ?_, ?_, ?_⟩
  · have hspares := (hkept [.start, .wake] auditedPass rfl).1 _ rfl
    rwa [hclock.1, hclock.2] at hspares
  · obtain ⟨pass, hpass, hreport⟩ := Option.map_eq_some_iff.mp hphase
    obtain ⟨process, hprocess, hpass⟩ := Option.bind_eq_some_iff.mp hpass
    obtain ⟨hreport, hnow⟩ := Prod.mk.inj hreport
    have hsplit : [.start, .wake] ++ auditedPass =
        ([.start, .wake] ++ auditedPass.take 5) ++ [.advance] := by
      rfl
    rw [← hnow]
    exact (hkept _ _ hsplit).2.1 process pass hprocess hpass hreport
  · exact (hkept [.start, .wake] auditedPass rfl).2.2 (by simp [auditedPass]) (by decide +kernel)
  · decide +kernel

end Naco
