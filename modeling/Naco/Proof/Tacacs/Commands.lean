import Naco.Routes.Mutation
import Naco.Tacacs.Server
import Naco.Lib.Rows

/-!
# Command authorization while the configuration changes

A command is authorized in two transactions: the user with its group is read in the first, the group's
command set in the second, and a command set that is gone by then counts as none. Where one of the two
stays as it is between the reads, the answer is that of a configuration that was committed meanwhile;
where both change, it may be that of none.
-/

namespace Naco.Tacacs

open Py Coroutine

/-- The configuration permits a command line to a user. -/
def Permits (t : Tables) (username line : String) : Prop :=
  ∃ user ∈ t.users, user.username = canonicalUsername (some username) ∧ user.enabled = true ∧
    ∃ group ∈ t.groups, user.groupId = some group.id ∧ group.deviceAdminPrivilege.isSome = true ∧
      (group.commandSetId = none ∨ ∃ set ∈ t.commandSets, group.commandSetId = some set.id ∧
        (commandAllowed line (some set)).allowed = true)

instance (t : Tables) (username line : String) : Decidable (Permits t username line) :=
  inferInstanceAs (Decidable (∃ user ∈ t.users, _))

/-- What the first transaction finds of a user. -/
def userInfo (t : Tables) (username : String) : Option UserInfo :=
  (loadUser t (canonicalUsername (some username))).map (·.1)

/-- What a command needs of the user: enabled, a device-admin privilege, and which command set. -/
def rightsOf (t : Tables) (username : String) : Option (Bool × Bool × Option Nat) :=
  (userInfo t username).map fun user =>
    (user.enabled, user.deviceAdminPrivilege.isSome, user.commandSetId)

/-- The command set that a user's group has. -/
def commandSetIdOf (t : Tables) (username : String) : Option Nat :=
  (userInfo t username).bind (·.commandSetId)

/-- No change between the reads alters the rights of the user. -/
def RightsKept (username : String) (between : List World) : Prop :=
  ∀ first ∈ between.head?, ∀ world ∈ between,
    rightsOf world.db.val username = rightsOf first.db.val username

/-- No change between the reads alters the command set that the user had at the first. -/
def CommandSetKept (username : String) (between : List World) : Prop :=
  ∀ first ∈ between.head?, ∀ world ∈ between,
    loadCommandSet world.db.val (commandSetIdOf first.db.val username) =
      loadCommandSet first.db.val (commandSetIdOf first.db.val username)

/-- A request for the configuration is committed. -/
def Committed (host : Host) (world world' : World) : Prop :=
  ∃ change outcome, ConfigChange.run host change world.db = .ok outcome ∧
    world' = { world with db := outcome.db }

/-! ### One state -/

/-- What the two transactions decide on one state is what the configuration permits. -/
theorem permits_of_allowed {db : Database} {username line : String} {user : UserInfo}
    (huser : userInfo db.val username = some user) (henabled : user.enabled = true)
    (hprivilege : user.deviceAdminPrivilege.isSome = true)
    (hallowed : (commandAllowed line (loadCommandSet db.val user.commandSetId)).allowed = true) :
    Permits db.val username line := by
  obtain ⟨t, ht⟩ := db
  obtain ⟨found, hfound, rfl⟩ := Option.map_eq_some_iff.mp huser
  obtain ⟨row, hrow, rfl⟩ := Option.map_eq_some_iff.mp hfound
  obtain ⟨hmem, hname⟩ := (Rows.find?_eq_some_iff ht.usernames).mp hrow
  obtain ⟨level, hlevel⟩ := Option.isSome_iff_exists.mp hprivilege
  obtain ⟨group, hgroup, hlevel⟩ := Option.bind_eq_some_iff.mp hlevel
  obtain ⟨id, hid, hfind⟩ := Option.bind_eq_some_iff.mp hgroup
  obtain ⟨hgroupMem, rfl⟩ := (Rows.find?_eq_some_iff ht.groupIds).mp hfind
  refine ⟨row, hmem, hname, henabled, group, hgroupMem, hid, by simp [hlevel], ?_⟩
  simp only [UserInfo.ofRow, hgroup, Option.bind_some] at hallowed
  cases hset : group.commandSetId with
  | none => exact .inl rfl
  | some setId =>
      obtain ⟨set, hsetMem, rfl⟩ := ht.groupCommandSets group hgroupMem setId hset
      refine .inr ⟨set, hsetMem, rfl, ?_⟩
      have hload : loadCommandSet t (some set.id) = some set :=
        (Rows.find?_eq_some_iff ht.commandSetIds).mpr ⟨hsetMem, rfl⟩
      rwa [hset, hload] at hallowed

/-! ### The two reads -/

variable {other : World → World → Prop} {world last : World} {trace : List (Departure World)}

theorem not_passAdd_of_authorFail {args : List String}
    (h : Run other authorFail world trace (.ok (.author .passAdd args)) last) : False := by
  have hfail : authorFail.Within (fun _ _ => True) fun result => result = .ok (.author .fail []) := by
    unfold authorFail record Coroutine.read atomic
    exact within_step_iff.mpr fun _ => ⟨trivial, within_done_iff.mpr rfl⟩
  cases hfail.result h

/-- The first step of `authorize` reads the user. -/
theorem authorize_eq {req : Request} (hname : canonicalUsername (some req.user) ≠ "") :
    authorize req = .step (fun world => world) fun world =>
      authorizeUser (parseArgs req.args) (userInfo world.db.val req.user) := by
  simp only [authorize, lookupUser, if_neg hname]
  rfl

theorem authorizeUser_eq {args : ParsedArgs} {user : UserInfo} {cmd : String}
    (hrights : (adminRights (some user)).allowed = true)
    (hservice : lower ((args.get "service").getD "") = "shell")
    (hcmd : (args.get "cmd").bind orNone = some cmd) :
    authorizeUser args (some user) = authorizeCommand user (commandLine cmd args.cmdArgs) := by
  have hfilter : (some user).filter (fun user => (adminRights (some user)).allowed) = some user := by
    simp [Option.filter, hrights]
  simp [authorizeUser, hfilter, hservice, hcmd]

theorem adminRights_allowed_iff {user : UserInfo} :
    (adminRights (some user)).allowed = true ↔
      user.enabled = true ∧ user.deviceAdminPrivilege.isSome = true := by
  cases henabled : user.enabled <;> cases hprivilege : user.deviceAdminPrivilege <;>
    simp [adminRights, henabled, hprivilege]

/-- The second step reads the command set. -/
theorem Run.of_authorizeCommand {user : UserInfo} {line : String} {args : List String}
    (h : Run other (authorizeCommand user line) world trace (.ok (.author .passAdd args)) last) :
    ∃ second before after, trace = before ++ .own second :: after ∧
      (∀ departure ∈ before, departure.isOther = true) ∧
      (commandAllowed line (loadCommandSet second.db.val user.commandSetId)).allowed = true := by
  obtain ⟨second, before, after, rfl, hbefore, hrest⟩ := Run.of_step h
  refine ⟨second, before, after, rfl, hbefore, ?_⟩
  by_contra hdenied
  change Run other (if (commandAllowed line (loadCommandSet second.db.val user.commandSetId)).allowed
    then _ else authorFail) _ _ _ _ at hrest
  rw [if_neg hdenied] at hrest
  exact not_passAdd_of_authorFail hrest

/-- A command that passes: the user read in the first step has the rights, and the command set read in
the second permits the line. -/
theorem reads_of_passAdd {req : Request} {args : List String} {cmd : String}
    (h : Run other (authorize req) world trace (.ok (.author .passAdd args)) last)
    (hservice : lower (((parseArgs req.args).get "service").getD "") = "shell")
    (hcmd : ((parseArgs req.args).get "cmd").bind orNone = some cmd) :
    ∃ first second user, .own first ∈ trace ∧ .own second ∈ trace ∧
      (Departure.betweenSteps trace).head? = some first ∧ second ∈ Departure.betweenSteps trace ∧
      userInfo first.db.val req.user = some user ∧ user.enabled = true ∧
      user.deviceAdminPrivilege.isSome = true ∧
      (commandAllowed (commandLine cmd (parseArgs req.args).cmdArgs)
        (loadCommandSet second.db.val user.commandSetId)).allowed = true := by
  by_cases hname : canonicalUsername (some req.user) = ""
  · have hfail : authorize req = authorFail := by
      simp only [authorize, lookupUser, if_pos hname]
      rfl
    exact absurd (hfail ▸ h) not_passAdd_of_authorFail
  · rw [authorize_eq hname] at h
    obtain ⟨first, before, rest, rfl, hbefore, hrest⟩ := Run.of_step h
    cases huser : userInfo first.db.val req.user with
    | none =>
        rw [huser] at hrest
        exact absurd hrest not_passAdd_of_authorFail
    | some user =>
        rw [huser] at hrest
        by_cases hrights : (adminRights (some user)).allowed = true
        · rw [authorizeUser_eq hrights hservice hcmd] at hrest
          obtain ⟨second, between, after, rfl, hbetween, hallowed⟩ := Run.of_authorizeCommand hrest
          have hsteps : Departure.betweenSteps (before ++ .own first :: (between ++ .own second :: after)) =
              Departure.untilOwn (between ++ .own second :: after) := by
            rw [Departure.betweenSteps, Departure.dropWhile_isOther hbefore]
            rfl
          rw [hsteps]
          obtain ⟨henabled, hprivilege⟩ := adminRights_allowed_iff.mp hrights
          exact ⟨first, second, user, by simp, by simp, hrest.head_untilOwn (by simp),
            Departure.mem_untilOwn hbetween, huser, henabled, hprivilege, hallowed⟩
        · have hfail : authorizeUser (parseArgs req.args) (some user) = authorFail := by
            simp [authorizeUser, Option.filter, hrights]
          exact absurd (hfail ▸ hrest) not_passAdd_of_authorFail

/-! ### The main result -/

/-- The user with the same rights in another state has them there under the same command set. -/
theorem exists_userInfo_of_rightsOf {t t' : Tables} {username : String} {user : UserInfo}
    (huser : userInfo t username = some user)
    (hrights : rightsOf t' username = rightsOf t username) :
    ∃ user', userInfo t' username = some user' ∧ user'.enabled = user.enabled ∧
      user'.deviceAdminPrivilege.isSome = user.deviceAdminPrivilege.isSome ∧
      user'.commandSetId = user.commandSetId := by
  rw [rightsOf, rightsOf, huser, Option.map_some] at hrights
  obtain ⟨user', huser', hsame⟩ := Option.map_eq_some_iff.mp hrights
  simp only [Prod.mk.injEq] at hsame
  exact ⟨user', huser', hsame⟩

/-- In every run of `authorize` among committed requests where the rights of the user or the command
set stay as they are between the two reads: a command passes only if some state on the way permits
it. -/
theorem passed_command_permitted {host : Host} {req : Request} {world last : World}
    {trace : List (Departure World)} {args : List String} {cmd : String}
    (hrun : Run (Committed host) (authorize req) world trace (.ok (.author .passAdd args)) last)
    (hservice : lower (((parseArgs req.args).get "service").getD "") = "shell")
    (hcmd : (parseArgs req.args).get "cmd" = some cmd) (hne : cmd ≠ "")
    (hkept : RightsKept req.user (Departure.betweenSteps trace) ∨
      CommandSetKept req.user (Departure.betweenSteps trace)) :
    ∃ state ∈ trace.map Departure.state ++ [last],
      Permits state.db.val req.user (commandLine cmd (parseArgs req.args).cmdArgs) := by
  have hbind : ((parseArgs req.args).get "cmd").bind orNone = some cmd := by
    simp [hcmd, orNone, hne]
  obtain ⟨first, second, user, hfirst, hsecond, hhead, hbetween, huser, henabled, hprivilege,
    hallowed⟩ := reads_of_passAdd hrun hservice hbind
  rcases hkept with hrights | hset
  · -- the user has the same rights at the second read
    obtain ⟨user', huser', henabled', hprivilege', hid⟩ :=
      exists_userInfo_of_rightsOf huser (hrights first hhead second hbetween)
    refine ⟨second, ?_, permits_of_allowed huser' (henabled'.trans henabled)
      (hprivilege'.trans hprivilege) (by rwa [hid])⟩
    exact List.mem_append_left _ (List.mem_map.mpr ⟨_, hsecond, rfl⟩)
  · -- the command set was the same at the first read
    have hsame := hset first hhead second hbetween
    have hid : commandSetIdOf first.db.val req.user = user.commandSetId := by
      rw [commandSetIdOf, huser]
      rfl
    rw [hid] at hsame
    refine ⟨first, ?_, permits_of_allowed huser henabled hprivilege (hsame ▸ hallowed)⟩
    exact List.mem_append_left _ (List.mem_map.mpr ⟨_, hfirst, rfl⟩)

/-! Alice's group has a command set that permits nothing. While her command is being authorized, the
group gets another such set and the first one is deleted: no state permits the command, and it
passes. -/

def operators (commandSetId : Nat) : Group where
  id := 1
  name := "operators"
  deviceAdminPrivilege := some 15
  commandSetId := some commandSetId

def readOnly : CommandSet where
  id := 1
  name := "read-only"

def lockedDown : CommandSet where
  id := 2
  name := "locked-down"

def aliceOperator : User where
  id := 1
  username := "alice"
  groupId := some 1

def operatorsTables (commandSets : List CommandSet) (commandSetId : Nat) : Tables :=
  { commandSets, groups := [operators commandSetId], users := [aliceOperator] }

/-- Her world with these command sets, and her group under one of them. -/
def operatorsWorld (commandSets : List CommandSet) (commandSetId : Nat)
    (h : (operatorsTables commandSets commandSetId).Consistent) : World where
  db := ⟨operatorsTables commandSets commandSetId, h⟩
  directory _ _ := .ok none
  monotonic := 0
  failures := .new

def beforeSwap : World := operatorsWorld [readOnly, lockedDown] 1 (by decide +kernel)
def duringSwap : World := operatorsWorld [readOnly, lockedDown] 2 (by decide +kernel)
def afterSwap : World := operatorsWorld [lockedDown] 2 (by decide +kernel)

def plainHost : Host where
  platform := { timezone := Zone.utc, oui := fun _ => none, sha256 := id }
  str _ := ""
  now := 0
  rules := ⟨8, fun _ => none⟩
  portal := {}

def reloadRequest : Request where
  flags := 0
  authenMethod := 6
  privLvl := 15
  authenType := 1
  authenService := 1
  user := "alice"
  port := "tty1"
  remAddr := "10.0.0.9"
  args := ["service=shell", "cmd=reload", "cmd-arg=<cr>"]

theorem swap_committed : Committed plainHost beforeSwap duringSwap :=
  ⟨.mutation (.updateGroup .superuser 1 { commandSetId := some (some 2) }), _, rfl, rfl⟩

theorem delete_committed : Committed plainHost duringSwap afterSwap :=
  ⟨.deleteCommandSet .superuser 1, _, rfl, rfl⟩

/-- Alice as the first read finds her. -/
def aliceInfo : UserInfo where
  id := 1
  username := "alice"
  source := .local
  enabled := true
  groupId := some 1
  groupName := some "operators"
  deviceAdminPrivilege := some 15
  commandSetId := some 1

theorem reload_authorizeUser :
    authorizeUser (parseArgs reloadRequest.args) (some aliceInfo) = authorizeCommand aliceInfo "reload" := by
  have hline : commandLine "reload" (parseArgs reloadRequest.args).cmdArgs = "reload" := by
    decide +kernel
  rw [← hline]
  exact authorizeUser_eq (by decide) (by decide +kernel) (by decide +kernel)

/-- A run of the request in which the command set that is read permits the command. -/
theorem run_reload {first second : World} (trace : List (Departure World))
    (hfirst : userInfo first.db.val reloadRequest.user = some aliceInfo)
    (hallowed : (commandAllowed "reload" (loadCommandSet second.db.val (some 1))).allowed = true)
    (hbetween : ∀ {c : Coroutine World (Except Error Reply)} {rest : List (Departure World)},
      Run (Committed plainHost) c second rest (.ok (.author .passAdd [])) second →
        Run (Committed plainHost) c first (trace ++ rest) (.ok (.author .passAdd [])) second) :
    Run (Committed plainHost) (authorize reloadRequest) first
      (.own first :: (trace ++ [.own second, .own second])) (.ok (.author .passAdd [])) second := by
  rw [authorize_eq (by decide +kernel)]
  refine .step ?_
  rw [hfirst, reload_authorizeUser]
  refine hbetween (.step ?_)
  change Run _ (if (commandAllowed "reload" (loadCommandSet second.db.val (some 1))).allowed = true
    then _ else authorFail) _ _ _ _
  rw [if_pos hallowed]
  exact .step (.done _ _)

theorem swapped_command_passes :
    ∃ trace last,
      Run (Committed plainHost) (authorize reloadRequest) beforeSwap trace
        (.ok (.author .passAdd [])) last ∧
      lower (((parseArgs reloadRequest.args).get "service").getD "") = "shell" ∧
      (parseArgs reloadRequest.args).get "cmd" = some "reload" ∧
      ∀ state ∈ trace.map Departure.state ++ [last],
        ¬Permits state.db.val reloadRequest.user
          (commandLine "reload" (parseArgs reloadRequest.args).cmdArgs) := by
  refine ⟨_, afterSwap, run_reload [.other beforeSwap, .other duringSwap] rfl rfl
    fun hrest => .other swap_committed (.other delete_committed hrest), ?_, ?_, ?_⟩
  · decide +kernel
  · decide +kernel
  · have hnone : ∀ state ∈ [beforeSwap, duringSwap, afterSwap],
        ¬Permits state.db.val reloadRequest.user
          (commandLine "reload" (parseArgs reloadRequest.args).cmdArgs) := by
      decide +kernel
    intro state hstate
    refine hnone state ?_
    simpa [Departure.state, or_assoc] using hstate

/-- The same request with a command set that permits everything. -/
def permissiveWorld : World :=
  operatorsWorld [{ readOnly with defaultAction := .permit }, lockedDown] 1 (by decide +kernel)

/-- The group has the other command set now. -/
def movedWorld : World :=
  operatorsWorld [{ readOnly with defaultAction := .permit }, lockedDown] 2 (by decide +kernel)

theorem move_committed : Committed plainHost permissiveWorld movedWorld :=
  ⟨.mutation (.updateGroup .superuser 1 { commandSetId := some (some 2) }), _, rfl, rfl⟩

/-- The group is moved between the two reads: the command passes, as the first state permits it. -/
theorem passed_command_permitted_reload :
    CommandSetKept reloadRequest.user (Departure.betweenSteps
        [.own permissiveWorld, .other permissiveWorld, .own movedWorld, .own movedWorld]) ∧
      ¬Permits movedWorld.db.val reloadRequest.user
        (commandLine "reload" (parseArgs reloadRequest.args).cmdArgs) ∧
      ∃ state ∈ [permissiveWorld, permissiveWorld, movedWorld, movedWorld, movedWorld],
        Permits state.db.val reloadRequest.user
          (commandLine "reload" (parseArgs reloadRequest.args).cmdArgs) := by
  have hkept : CommandSetKept reloadRequest.user (Departure.betweenSteps
      [.own permissiveWorld, .other permissiveWorld, .own movedWorld, .own movedWorld]) := by
    intro first hfirst state hstate
    cases hfirst
    change state ∈ [permissiveWorld, movedWorld] at hstate
    rcases List.mem_pair.mp hstate with rfl | rfl <;> rfl
  have hallowed : (commandAllowed "reload"
      (loadCommandSet movedWorld.db.val (some 1))).allowed = true := by
    decide +kernel
  refine ⟨hkept, by decide +kernel, ?_⟩
  exact passed_command_permitted
    (run_reload [.other permissiveWorld] rfl hallowed fun hrest => .other move_committed hrest)
    (by decide +kernel) (by decide +kernel) (by decide) (.inr hkept)

end Naco.Tacacs
