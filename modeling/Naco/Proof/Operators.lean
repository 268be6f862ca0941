import Naco.Lib.EventLoop
import Naco.Lib.Rows
import Naco.Proof.Routes
import Naco.Routes.Mutation

/-!
# Operators and device administrators

Users of a group with a device-admin privilege can log in to switches, and only a SUPERUSER manages
them. Each route that an OPERATOR can call checks the groups in the transaction that it writes in, but
for the import: it reads the groups in one transaction and adds the users in another.
-/

namespace Naco

open Py

/-! ### What a transaction does to device administrators -/

/-- The user is in a group with a device-admin privilege. -/
def User.IsDeviceAdmin (t : Tables) (user : User) : Prop :=
  ∃ group ∈ t.groups, user.groupId = some group.id ∧ group.deviceAdminPrivilege.isSome = true

/-- A row that one of the states has and the other has not is that of a device administrator: it was
created, deleted, or it is the old or the new content of a row that changed. -/
def TouchesDeviceAdmin (before after : Tables) : Prop :=
  ∃ user, (user ∈ before.users ∧ user ∉ after.users ∨ user ∈ after.users ∧ user ∉ before.users) ∧
    (user.IsDeviceAdmin before ∨ user.IsDeviceAdmin after)

instance (t : Tables) (user : User) : Decidable (user.IsDeviceAdmin t) :=
  inferInstanceAs (Decidable (∃ group ∈ t.groups, _))

instance (before after : Tables) : Decidable (TouchesDeviceAdmin before after) :=
  decidable_of_iff (∃ user ∈ before.users ++ after.users,
      (user ∈ before.users ∧ user ∉ after.users ∨ user ∈ after.users ∧ user ∉ before.users) ∧
        (user.IsDeviceAdmin before ∨ user.IsDeviceAdmin after)) (by
    constructor
    · rintro ⟨user, -, h⟩
      exact ⟨user, h⟩
    · rintro ⟨user, h⟩
      refine ⟨user, ?_, h⟩
      rcases h.1 with ⟨hmem, -⟩ | ⟨hmem, -⟩ <;> simp [hmem])

/-- Each group with a privilege had one in the earlier state too. -/
def NoNewPrivilege (earlier now : Tables) : Prop :=
  ∀ group ∈ now.groups, group.deviceAdminPrivilege.isSome = true →
    ∃ old ∈ earlier.groups, old.id = group.id ∧ old.deviceAdminPrivilege.isSome = true

/-! ### The requests of operators -/

/-- The requests of an OPERATOR that write users. A digest is what bcrypt gave for a password. -/
inductive OperatorRequest where
  | createUser (digest : String) (body : UserCreate)
  | updateUser (digest : String) (id : Nat) (body : UserUpdate)
  | deleteUser (id : Nat)
  | importUsers (digest : Nat → String) (rows : List CsvRow)

/-- A route that runs in one transaction. -/
def transaction (route : Database → Except RouteError Outcome) :
    Coroutine Database (Except RouteError Outcome) :=
  Coroutine.atomic fun db => (route db, match route db with
    | .ok outcome => outcome.db
    | .error _ => db)

def OperatorRequest.body : OperatorRequest → Coroutine Database (Except RouteError Outcome)
  | .createUser digest body => transaction (Naco.createUser .operator digest body)
  | .updateUser digest id body => transaction (Naco.updateUser .operator digest id body)
  | .deleteUser id => transaction (Naco.deleteUser .operator id)
  | .importUsers digest rows => do
      let imported ← Coroutine.read (readUsers .operator rows)
      transaction (writeUsers digest imported.created)

/-- The database changes in any way: whatever SUPERUSERs and the services commit. -/
def operatorRun (start : Database) (schedule : List (Move OperatorRequest (Database → Database))) :
    Loop Database OperatorRequest (Except RouteError Outcome) :=
  Loop.run OperatorRequest.body (fun change db => change db) { state := start } schedule

/-! ### The routes with one transaction -/

theorem groupById_eq_ok {t : Tables} (ht : t.Consistent) {id : Option Nat} {group : Option Group}
    (h : groupById t id = .ok group) {member : Group} (hmember : member ∈ t.groups)
    (hid : id = some member.id) : group = some member := by
  subst hid
  unfold groupById at h
  dsimp only at h
  split at h
  · next found hfound =>
      obtain rfl := Except.ok.inj h
      have hsame : found.id = member.id := by simpa using List.find?_some hfound
      rw [Rows.eq_of_key ht.groupIds (List.mem_of_find?_eq_some hfound) hmember hsame]
  · cases h

/-- An operator who passes the guard has to do with no device administrator. -/
theorem not_isDeviceAdmin {t : Tables} (ht : t.Consistent) {groups : List (Option Group)}
    (hguard : guardDeviceAdmin .operator groups = .ok ()) {group : Option Group}
    (hgroup : group ∈ groups) {user : User} (hfound : groupById t user.groupId = .ok group) :
    ¬ user.IsDeviceAdmin t := by
  rintro ⟨member, hmember, hid, hprivilege⟩
  have hsame := groupById_eq_ok ht hfound hmember hid
  unfold guardDeviceAdmin at hguard
  rw [if_neg (by decide)] at hguard
  split at hguard
  · cases hguard
  · next hnone =>
      apply hnone
      exact List.any_eq_true.mpr ⟨group, hgroup, by rw [hsame]; exact hprivilege⟩

/-- A transaction that writes only users touches device administrators only in the rows it writes. -/
theorem not_touchesDeviceAdmin {t : Tables} {users : List User}
    (hgone : ∀ user ∈ t.users, user ∉ users → ¬ user.IsDeviceAdmin t)
    (hnew : ∀ user ∈ users, user ∉ t.users → ¬ user.IsDeviceAdmin t) :
    ¬ TouchesDeviceAdmin t { t with users } := by
  rintro ⟨user, ⟨hmem, hnot⟩ | ⟨hmem, hnot⟩, hadmin⟩
  · exact hgone user hmem hnot (hadmin.elim id id)
  · exact hnew user hmem hnot (hadmin.elim id id)

theorem createUser_guarded {digest : String} {body : UserCreate} {db : Database} {outcome : Outcome}
    (h : createUser .operator digest body db = .ok outcome) :
    ¬ TouchesDeviceAdmin db.val outcome.db.val := by
  simp only [createUser, bind_eq_ok_iff, commitOrConflict_eq_ok_iff] at h
  obtain ⟨⟨⟩, -, ⟨⟩, -, group, hgroup, ⟨⟩, hguard, -, rfl⟩ := h
  refine not_touchesDeviceAdmin (fun user hmem hnot => ?_) fun user hmem hnot => ?_
  · exact absurd (List.mem_append_left _ hmem) hnot
  · rcases List.mem_append.mp hmem with hold | hnew
    · exact absurd hold hnot
    · rw [List.mem_singleton.mp hnew]
      exact not_isDeviceAdmin db.property hguard (List.mem_singleton_self _) hgroup

theorem deleteUser_guarded {id : Nat} {db : Database} {outcome : Outcome}
    (h : deleteUser .operator id db = .ok outcome) : ¬ TouchesDeviceAdmin db.val outcome.db.val := by
  simp only [deleteUser, bind_eq_ok_iff, commitOrRaise_eq_ok_iff, getOr404_eq_ok_iff] at h
  obtain ⟨⟨⟩, -, user, huser, group, hgroup, ⟨⟩, hguard, -, rfl⟩ := h
  refine not_touchesDeviceAdmin (fun other hmem hnot => ?_) fun other hmem hnot => ?_
  · have hid : other.id = id := by
      by_contra hother
      exact hnot (List.mem_filter.mpr ⟨hmem, by simpa using hother⟩)
    have huserId : user.id = id := by simpa using List.find?_some huser
    obtain rfl : other = user := Rows.eq_of_key db.property.userIds hmem
      (List.mem_of_find?_eq_some huser) (hid.trans huserId.symm)
    exact not_isDeviceAdmin db.property hguard (List.mem_singleton_self _) hgroup
  · exact absurd (List.mem_filter.mp hmem).1 hnot

/-- The group a user is to be in is that of the row as it is written. -/
theorem groupById_apply {t : Tables} {body : UserUpdate} {user : User} {current target : Option Group}
    (hcurrent : groupById t user.groupId = .ok current)
    (htarget : targetGroup t body current = .ok target) (digest : String) :
    groupById t (body.apply user digest).groupId = .ok target := by
  unfold targetGroup at htarget
  unfold UserUpdate.apply
  dsimp only
  cases hgroup : body.groupId with
  | none =>
      rw [hgroup] at htarget
      obtain rfl := Except.ok.inj htarget
      exact hcurrent
  | some groupId =>
      rw [hgroup] at htarget
      exact htarget

theorem updateUser_guarded {digest : String} {id : Nat} {body : UserUpdate} {db : Database}
    {outcome : Outcome} (h : updateUser .operator digest id body db = .ok outcome) :
    ¬ TouchesDeviceAdmin db.val outcome.db.val := by
  simp only [updateUser, bind_eq_ok_iff, getOr404_eq_ok_iff] at h
  obtain ⟨⟨⟩, -, ⟨⟩, -, user, huser, current, hcurrent, target, htarget, ⟨⟩, hguard, h⟩ := h
  split at h
  · cases h
  · obtain ⟨-, rfl⟩ := commitOrRaise_eq_ok_iff.mp h
    have huserMem := List.mem_of_find?_eq_some huser
    refine not_touchesDeviceAdmin (fun other hmem hnot => ?_) fun other hmem hnot => ?_
    · obtain rfl : other = user := by
        by_contra hother
        have hid : other.id ≠ (body.apply user digest).id := fun hid =>
          hother (Rows.eq_of_key db.property.userIds hmem huserMem hid)
        exact hnot (List.mem_map.mpr ⟨other, hmem, if_neg hid⟩)
      exact not_isDeviceAdmin db.property hguard List.mem_cons_self hcurrent
    · rcases mem_replaceRow hmem with rfl | hold
      · exact not_isDeviceAdmin db.property hguard (List.mem_cons_of_mem _ (List.mem_singleton_self _))
          (groupById_apply hcurrent htarget digest)
      · exact absurd hold hnot

/-! ### The import -/

theorem mem_created_foldl {α : Type} {build : Dict String String → Except RowError α} {key : α → String}
    {rows : List CsvRow} {progress : Imported α × List String} {item : α}
    (h : item ∈ (rows.foldl (importRow build key) progress).1.created) :
    item ∈ progress.1.created ∨ ∃ row ∈ rows, build row.2 = .ok item := by
  induction rows generalizing progress with
  | nil => exact .inl h
  | cons row rows ih =>
      rcases ih h with hdone | ⟨later, hlater, hbuild⟩
      · unfold importRow at hdone
        dsimp only at hdone
        split at hdone
        · exact .inl hdone
        · next built hbuilt =>
            split at hdone
            · exact .inl hdone
            · rcases List.mem_append.mp hdone with hold | hnew
              · exact .inl hold
              · rw [List.mem_singleton.mp hnew]
                exact .inr ⟨row, List.mem_cons_self, hbuilt⟩
      · exact .inr ⟨later, List.mem_cons_of_mem _ hlater, hbuild⟩

theorem groupId_of_validate {username password email fullName : String} {groupId : Option Nat}
    {enabled : Bool} {item : UserCreate}
    (h : UserCreate.validate username password email fullName groupId enabled = .ok item) :
    item.groupId = groupId := by
  simp only [UserCreate.validate, bind_eq_ok_iff] at h
  obtain ⟨username, -, h⟩ := h
  split at h
  · cases h
  · simp only [bind_eq_ok_iff] at h
    obtain ⟨password, -, email, -, fullName, -, h⟩ := h
    rw [← Except.ok.inj h]

/-- A user that is imported is in a group of the table, and in one with a privilege for a SUPERUSER
only. -/
theorem group_of_buildUser {t : Tables} {role : AdminRole} {row : Dict String String}
    {item : UserCreate} (h : buildUser t role row = .ok item) {groupId : Nat}
    (hid : item.groupId = some groupId) :
    ∃ group ∈ t.groups, group.id = groupId ∧
      (group.deviceAdminPrivilege.isSome = true → role.allows .superuser = true) := by
  unfold buildUser at h
  dsimp only at h
  generalize hfound : (if cell row "group" = "" then none else
    (Dict.ofRows (fun group => casefold group.name) id t.groups).get?
      (casefold (cell row "group"))) = found at h
  split at h
  · cases h
  · split at h
    · cases h
    · next hallowed =>
        split at h
        · cases h
        · rw [groupId_of_validate h] at hid
          obtain ⟨group, rfl, rfl⟩ := Option.map_eq_some_iff.mp hid
          refine ⟨group, ?_, rfl, fun hprivilege => ?_⟩
          · split at hfound
            · cases hfound
            · rcases Dict.mem_items_of_foldl_set (Dict.get?_eq_some_iff.mp hfound) with
                hempty | ⟨member, hmember, hitem⟩
              · cases hempty
              · rw [(Prod.mk.inj hitem).2]
                exact hmember
          · by_contra hrole
            exact hallowed ⟨hprivilege, hrole⟩

/-- What an operator imports is in no group that had a privilege when the groups were read. -/
theorem group_of_readUsers {rows : List CsvRow} {db : Database} {item : UserCreate}
    (h : item ∈ (readUsers .operator rows db).created) {groupId : Nat}
    (hid : item.groupId = some groupId) :
    ∃ group ∈ db.val.groups, group.id = groupId ∧ group.deviceAdminPrivilege = none := by
  rcases mem_created_foldl h with hempty | ⟨row, -, hbuild⟩
  · cases hempty
  · obtain ⟨group, hgroup, hsame, hprivilege⟩ := group_of_buildUser hbuild hid
    refine ⟨group, hgroup, hsame, ?_⟩
    simpa [AdminRole.allows, AdminRole.rank] using hprivilege

theorem writeUsers_guarded {digest : Nat → String} {rows : List CsvRow} {readAt db : Database}
    {outcome : Outcome}
    (h : writeUsers digest (readUsers .operator rows readAt).created db = .ok outcome)
    (hcalm : NoNewPrivilege readAt.val db.val) : ¬ TouchesDeviceAdmin db.val outcome.db.val := by
  obtain ⟨-, rfl⟩ := commitOrConflict_eq_ok_iff.mp h
  refine not_touchesDeviceAdmin (fun user hmem hnot => ?_) fun user hmem hnot => ?_
  · exact absurd (List.mem_append_left _ hmem) hnot
  · rcases List.mem_append.mp hmem with hold | hnew
    · exact absurd hold hnot
    · obtain ⟨i, hi, rfl⟩ := List.mem_mapIdx.mp hnew
      rintro ⟨group, hgroup, hid, hprivilege⟩
      obtain ⟨old, hold, hsame, holdPrivilege⟩ := hcalm group hgroup hprivilege
      obtain ⟨read, hread, hreadId, hnone⟩ := group_of_readUsers (List.getElem_mem hi) hid
      rw [Rows.eq_of_key readAt.property.groupIds hold hread (hsame.trans hreadId.symm), hnone]
        at holdPrivilege
      cases holdPrivilege

/-! ### Runs -/

/-- How a request of an operator commits: in the transaction in which it checked the groups, or as the
second transaction of an import. -/
def OperatorCommits (request : OperatorRequest) (seen : List Database) (db : Database)
    (result : Except RouteError Outcome) : Prop :=
  ∀ outcome, result = .ok outcome →
    ¬ TouchesDeviceAdmin db.val outcome.db.val ∨
      ∃ digest rows readAt, request = .importUsers digest rows ∧ seen = [readAt] ∧
        writeUsers digest (readUsers .operator rows readAt).created db = .ok outcome

theorem operatorCommits_body (request : OperatorRequest) :
    request.body.Conforms (fun _ _ => True)
      (fun seen db result _ => OperatorCommits request seen db result) [] := by
  cases request with
  | createUser digest body =>
      exact Coroutine.conforms_atomic fun db outcome hok => .inl (createUser_guarded hok)
  | updateUser digest id body =>
      exact Coroutine.conforms_atomic fun db outcome hok => .inl (updateUser_guarded hok)
  | deleteUser id =>
      exact Coroutine.conforms_atomic fun db outcome hok => .inl (deleteUser_guarded hok)
  | importUsers digest rows =>
      refine Coroutine.conforms_step_iff.mpr fun readAt => ⟨trivial, ?_⟩
      exact Coroutine.conforms_atomic fun db outcome hok =>
        .inr ⟨digest, rows, readAt, rfl, rfl, hok⟩

/-- In every run in which no group gets a privilege between the two transactions of an import, what
operators commit touches no device administrator. -/
theorem operators_keep_to_boundary (start : Database)
    (schedule : List (Move OperatorRequest (Database → Database)))
    (hcalm : ∀ ret ∈ (operatorRun start schedule).returned, ∀ digest rows,
      ret.request = .importUsers digest rows → ∀ read ∈ ret.seen,
        NoNewPrivilege read.state.val ret.moment.state.val) :
    ∀ ret ∈ (operatorRun start schedule).returned, ∀ outcome, ret.result = .ok outcome →
      ¬ TouchesDeviceAdmin ret.moment.state.val outcome.db.val := by
  have hcommits : ∀ ret ∈ (operatorRun start schedule).returned,
      OperatorCommits ret.request (ret.seen.map (·.state)) ret.moment.state ret.result := by
    have hconforming : Loop.Conforming (fun _ _ _ => True)
        (fun request seen db result _ => OperatorCommits request seen db result)
        ({ state := start } : Loop Database OperatorRequest (Except RouteError Outcome)) := by
      simp [Loop.Conforming]
    refine Loop.run_invariant (I := fun loop => ∀ ret ∈ loop.returned,
      OperatorCommits ret.request (ret.seen.map (·.state)) ret.moment.state ret.result)
      operatorCommits_body ?_ hconforming (by simp) schedule
    intro loop loop' hloop hprogress
    cases hprogress with
    | idle => exact hloop
    | outside event => exact hloop
    | called request => exact hloop
    | paused rest hcall hstep => exact hloop
    | returned hcall hlast =>
        intro ret hret
        rcases List.mem_cons.mp hret with rfl | hmem
        · exact hlast
        · exact hloop ret hmem
  intro ret hret outcome hok
  rcases hcommits ret hret outcome hok with hguarded | ⟨digest, rows, readAt, hrequest, hseen, hwrite⟩
  · exact hguarded
  · obtain ⟨read, rest, hread, rfl, -⟩ := List.map_eq_cons_iff.mp hseen
    refine writeUsers_guarded hwrite (hcalm ret hret digest rows hrequest read ?_)
    rw [hread]
    exact List.mem_cons_self

/-! An operator imports a trainee into the group `staff`. -/

def staffOnly : Database :=
  ⟨{ groups := [{ id := 1, name := "staff" }] }, by decide +kernel⟩

def traineeRows : List CsvRow :=
  [(2, Dict.ofRows Prod.fst Prod.snd
    [("username", "trainee"), ("password", "correct horse"), ("group", "staff")])]

def importTrainee : OperatorRequest :=
  .importUsers (fun _ => "$2b$12$CIjVkpVXvgvVVfKeQ0yqnOBNFdC4T7t7g4ZfqsKwtnc56S8uX7MlS") traineeRows

/-- A group of device administrators with one user. -/
def withRoot : Database :=
  ⟨{ groups := [{ id := 1, name := "staff" },
      { id := 2, name := "network", deviceAdminPrivilege := some 15 }],
     users := [{ id := 1, username := "root", groupId := some 2 }] }, by decide +kernel⟩

def deputy : UserCreate where
  username := "deputy"
  password := "correct horse"
  groupId := some 2

/-- A SUPERUSER gives the device administrators another privilege, and adds one. -/
def changeNetwork (db : Database) : Database :=
  match updateGroup (fun _ => "") .superuser 2 { deviceAdminPrivilege := some (some 7) } db with
  | .ok changed =>
      match createUser .superuser "" deputy changed.db with
      | .ok outcome => outcome.db
      | .error _ => changed.db
  | .error _ => db

/-- The SUPERUSER commits, and the operator tries to delete a device administrator and imports the
trainee a second time, while the password of the trainee is hashed. -/
def importMeanwhile : List (Move OperatorRequest (Database → Database)) :=
  [.call importTrainee, .resume 0, .outside changeNetwork, .call (.deleteUser 1), .resume 1,
    .call importTrainee, .resume 1, .resume 0, .resume 0]

theorem operators_keep_to_boundary_trainee :
    let returned := (operatorRun withRoot importMeanwhile).returned
    returned.map (fun ret => ret.result.toOption.map fun outcome =>
        outcome.db.val.users.map (·.username)) = [none, some ["root", "deputy", "trainee"], none] ∧
      ∀ ret ∈ returned, ∀ outcome, ret.result = .ok outcome →
        ¬ TouchesDeviceAdmin ret.moment.state.val outcome.db.val := by
  refine ⟨by decide +kernel, operators_keep_to_boundary withRoot importMeanwhile ?_⟩
  have hcalm : ∀ ret ∈ (operatorRun withRoot importMeanwhile).returned, ∀ read ∈ ret.seen,
      NoNewPrivilege read.state.val ret.moment.state.val := by
    unfold NoNewPrivilege
    decide +kernel
  exact fun ret hret _ _ _ => hcalm ret hret

/-- A SUPERUSER makes `staff` a group of device administrators. -/
def promoteStaff (db : Database) : Database :=
  match updateGroup (fun _ => "") .superuser 1 { deviceAdminPrivilege := some (some 15) } db with
  | .ok outcome => outcome.db
  | .error _ => db

/-- The group gets its privilege while the password of the trainee is hashed. -/
theorem import_adds_device_admin :
    ∃ ret ∈ (operatorRun staffOnly
        [.call importTrainee, .resume 0, .outside promoteStaff, .resume 0]).returned,
      ∃ outcome, ret.result = .ok outcome ∧ TouchesDeviceAdmin ret.moment.state.val outcome.db.val := by
  decide +kernel

end Naco
