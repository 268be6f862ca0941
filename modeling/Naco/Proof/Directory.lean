import Naco.Lib.EventLoop
import Naco.Lib.Rows
import Naco.Identity
import Naco.Routes.Mutation

/-!
# Logins through the directory

Any number of logins run while administrators work on the users. No step of a login changes a row of a
local account, and the row that a login provisions gets the group that the mappings give. A login that
the directory vouches for returns that row, unless the row was deleted and a local account of the name
created before the login read it again.
-/

namespace Naco

open Py Coroutine

/-! ### The group of an entry -/

/-- The entry belongs to the group of the mapping; distinguished names compare lower-cased. -/
def LdapGroupMapping.Covers (mapping : LdapGroupMapping) (entry : LdapUser) : Prop :=
  ∃ dn ∈ entry.groupDns, lower dn = lower mapping.ldapGroup

/-- The group that the mappings give to an entry. -/
inductive Mapped (cfg : LdapConfig) (groups : List Group) (entry : LdapUser) : Option Nat → Prop
  | group {before after : List LdapGroupMapping} {mapping : LdapGroupMapping} {group : Group}
      (map : cfg.groupMap = before ++ mapping :: after)
      (first : ∀ earlier ∈ before, ¬ earlier.Covers entry) (covers : mapping.Covers entry)
      (mem : group ∈ groups) (name : group.name = mapping.group) :
      Mapped cfg groups entry (some group.id)
  | missing {before after : List LdapGroupMapping} {mapping : LdapGroupMapping}
      (map : cfg.groupMap = before ++ mapping :: after)
      (first : ∀ earlier ∈ before, ¬ earlier.Covers entry) (covers : mapping.Covers entry)
      (missing : ∀ group ∈ groups, group.name ≠ mapping.group) : Mapped cfg groups entry none
  | unmapped (uncovered : ∀ mapping ∈ cfg.groupMap, ¬ mapping.Covers entry) :
      Mapped cfg groups entry none

theorem covers_iff {mapping : LdapGroupMapping} {entry : LdapUser} :
    mapping.Covers entry ↔ lower mapping.ldapGroup ∈ entry.groupDns.map lower := by
  rw [LdapGroupMapping.Covers, List.mem_map]

theorem mapped_mappedGroupId (cfg : LdapConfig) (t : Tables) (entry : LdapUser) :
    Mapped cfg t.groups entry (mappedGroupId cfg t entry) := by
  unfold mappedGroupId mapGroup
  cases hmap : cfg.groupMap.find? fun mapping => lower mapping.ldapGroup ∈ entry.groupDns.map lower with
  | none =>
      refine .unmapped fun mapping hmem hcovers => ?_
      exact List.find?_eq_none.mp hmap mapping hmem (decide_eq_true (covers_iff.mp hcovers))
  | some mapping =>
      obtain ⟨hcovers, before, after, hgroups, hbefore⟩ := List.find?_eq_some_iff_append.mp hmap
      have hcovers : mapping.Covers entry := covers_iff.mpr (of_decide_eq_true hcovers)
      have hfirst : ∀ earlier ∈ before, ¬ earlier.Covers entry := by
        intro earlier hmem h
        have hnot := hbefore earlier hmem
        rw [decide_eq_true (covers_iff.mp h)] at hnot
        cases hnot
      rw [Option.map_some, Option.bind_some]
      cases hgroup : t.groups.find? (·.name = mapping.group) with
      | none => exact .missing hgroups hfirst hcovers (Rows.find?_eq_none_iff.mp hgroup)
      | some group =>
          exact .group hgroups hfirst hcovers (List.mem_of_find?_eq_some hgroup)
            (of_decide_eq_true (List.find?_some hgroup :))

theorem exists_of_mappedGroupId {cfg : LdapConfig} {t : Tables} {entry : LdapUser} {id : Nat}
    (h : mappedGroupId cfg t entry = some id) : ∃ group ∈ t.groups, group.id = id := by
  obtain ⟨name, -, hgroup⟩ := Option.bind_eq_some_iff.mp h
  obtain ⟨group, hfind, rfl⟩ := Option.map_eq_some_iff.mp hgroup
  exact ⟨group, List.mem_of_find?_eq_some hfind, rfl⟩

/-! ### Provisioning a row -/

section

variable {t : Tables} {user old new : User}

theorem consistent_add_user (ht : t.Consistent) (hid : user.id = nextId (t.users.map (·.id)))
    (hname : ∀ found ∈ t.users, found.username ≠ user.username)
    (hgroup : ∀ id ∈ user.groupId, ∃ group ∈ t.groups, group.id = id) :
    ({ t with users := t.users ++ [user] } : Tables).Consistent := by
  refine { ht with userIds := ?_, usernames := Rows.nodup_concat ht.usernames hname, userGroups := ?_ }
  · rw [List.map_append, List.map_singleton, hid]
    exact nodup_concat_nextId ht.userIds
  · intro found hmem id hid
    rcases List.mem_append.mp hmem with hold | hnew
    · exact ht.userGroups found hold id hid
    · rw [List.mem_singleton.mp hnew] at hid
      exact hgroup id hid

/-- The users with a row in place of that with its id. -/
def replaceUser (t : Tables) (old new : User) : Tables :=
  { t with users := t.users.map fun row => if row.id = old.id then new else row }

theorem mem_replaceUser_iff {row : User} : row ∈ (replaceUser t old new).users ↔
    ∃ found ∈ t.users, (if found.id = old.id then new else found) = row :=
  List.mem_map

/-- A column that the new row keeps. -/
theorem column_replaceUser {κ : Type} (ht : t.Consistent) (hold : old ∈ t.users) {column : User → κ}
    (h : column new = column old) :
    (replaceUser t old new).users.map column = t.users.map column := by
  refine Rows.map_replace fun row hmem => ?_
  by_cases hid : row.id = old.id
  · rw [if_pos hid, h, Rows.eq_of_key ht.userIds hmem hold hid]
  · rw [if_neg hid]

theorem consistent_replaceUser (ht : t.Consistent) (hold : old ∈ t.users) (hid : new.id = old.id)
    (hname : new.username = old.username)
    (hgroup : ∀ id ∈ new.groupId, ∃ group ∈ t.groups, group.id = id) :
    (replaceUser t old new).Consistent := by
  refine { ht with userIds := ?_, usernames := ?_, userGroups := ?_ }
  · rw [column_replaceUser ht hold hid]
    exact ht.userIds
  · rw [column_replaceUser ht hold hname]
    exact ht.usernames
  · intro row hmem id hmemid
    obtain ⟨found, hfound, rfl⟩ := mem_replaceUser_iff.mp hmem
    by_cases heq : found.id = old.id
    · rw [if_pos heq] at hmemid
      exact hgroup id hmemid
    · rw [if_neg heq] at hmemid
      exact ht.userGroups found hfound id hmemid

end

/-- The name does not belong to a local account. -/
def Unclaimed (t : Tables) (username : String) : Prop :=
  ∀ row ∈ t.users.find? (·.username = username), row.source = .ldap

/-- The id of the row that a login provisions. -/
def provisionedId (t : Tables) (username : String) : Nat :=
  match t.users.find? (·.username = username) with
  | some row => row.id
  | none => nextId (t.users.map (·.id))

/-- Every row of a local account is kept as it is. -/
def KeepsLocal (before after : Tables) : Prop :=
  ∀ user ∈ before.users, user.source = .local → user ∈ after.users

/-- What the tables are after the name was provisioned. -/
structure Provisioned (cfg : LdapConfig) (username : String) (entry : LdapUser) (t t' : Tables)
    (row : User) : Prop where
  consistent : t'.Consistent
  found : t'.users.find? (·.username = username) = some row
  id : row.id = provisionedId t username
  source : row.source = .ldap
  group : cfg.groupMap ≠ [] → Mapped cfg t.groups entry row.groupId
  locals : KeepsLocal t t'

section

variable {t : Tables} {username : String} {cfg : LdapConfig} {entry : LdapUser}

theorem provisioned_new (ht : t.Consistent) (hfind : t.users.find? (·.username = username) = none) :
    ∃ t' row, provisionedTables cfg t username entry = some t' ∧
      Provisioned cfg username entry t t' row := by
  have hnew : ∀ user ∈ t.users, user.username ≠ username := Rows.find?_eq_none_iff.mp hfind
  unfold provisionedTables
  rw [hfind]
  let user : User := {
    id := nextId (t.users.map (·.id)), username, source := .ldap, passwordHash := none,
    email := truncate 128 entry.email, fullName := truncate 128 entry.fullName,
    groupId := mappedGroupId cfg t entry }
  refine ⟨_, user, rfl, ?consistent, ?found, ?id, rfl, ?group, ?locals⟩
  case consistent => exact consistent_add_user ht rfl hnew fun id hid => exists_of_mappedGroupId hid
  case found =>
    rw [List.find?_append, hfind, Option.none_or]
    exact List.find?_cons_of_pos (decide_eq_true rfl)
  case id => rw [provisionedId, hfind]
  case group => exact fun _ => mapped_mappedGroupId cfg t entry
  case locals => exact fun user hmem _ => List.mem_append_left _ hmem

theorem provisioned_found (ht : t.Consistent) {found : User}
    (hfind : t.users.find? (·.username = username) = some found) (hsource : found.source = .ldap) :
    ∃ t' row, provisionedTables cfg t username entry = some t' ∧
      Provisioned cfg username entry t t' row := by
  obtain ⟨hfound, hname⟩ := (Rows.find?_eq_some_iff ht.usernames).mp hfind
  let row : User := { found with
    email := orElse (truncate 128 entry.email) found.email
    fullName := orElse (truncate 128 entry.fullName) found.fullName
    groupId := if cfg.groupMap = [] then found.groupId else mappedGroupId cfg t entry }
  have hgroup : ∀ id ∈ row.groupId, ∃ group ∈ t.groups, group.id = id := by
    intro id hmem
    change id ∈ (if cfg.groupMap = [] then found.groupId else mappedGroupId cfg t entry) at hmem
    by_cases hcfg : cfg.groupMap = []
    · rw [if_pos hcfg] at hmem
      exact ht.userGroups found hfound id hmem
    · rw [if_neg hcfg] at hmem
      exact exists_of_mappedGroupId hmem
  have hconsistent : (replaceUser t found row).Consistent :=
    consistent_replaceUser ht hfound rfl rfl hgroup
  have htables : provisionedTables cfg t username entry = some (replaceUser t found row) := by
    unfold provisionedTables
    rw [hfind]
    exact if_neg (not_not_intro hsource)
  refine ⟨replaceUser t found row, row, htables, hconsistent, ?found, ?id, hsource, ?group, ?locals⟩
  case found =>
    refine (Rows.find?_eq_some_iff hconsistent.usernames).mpr ⟨?_, hname⟩
    exact mem_replaceUser_iff.mpr ⟨found, hfound, if_pos rfl⟩
  case id => rw [provisionedId, hfind]
  case group =>
    intro hcfg
    change Mapped cfg t.groups entry
      (if cfg.groupMap = [] then found.groupId else mappedGroupId cfg t entry)
    rw [if_neg hcfg]
    exact mapped_mappedGroupId cfg t entry
  case locals =>
    intro user hmem hlocal
    refine mem_replaceUser_iff.mpr ⟨user, hmem, if_neg fun hid => ?_⟩
    rw [Rows.eq_of_key ht.userIds hmem hfound hid, hsource] at hlocal
    cases hlocal

theorem provisionedTables_of_unclaimed (ht : t.Consistent) (h : Unclaimed t username) :
    ∃ t' row, provisionedTables cfg t username entry = some t' ∧
      Provisioned cfg username entry t t' row := by
  cases hfind : t.users.find? (·.username = username) with
  | none => exact provisioned_new ht hfind
  | some found => exact provisioned_found ht hfind (h found hfind)

theorem provisionedTables_of_claimed (h : ¬ Unclaimed t username) :
    provisionedTables cfg t username entry = none := by
  unfold provisionedTables
  cases hfind : t.users.find? (·.username = username) with
  | none =>
      refine absurd (fun row hrow => ?_) h
      rw [hfind] at hrow
      cases hrow
  | some found =>
      refine if_pos fun hsource => h fun row hrow => ?_
      rw [hfind] at hrow
      cases hrow
      exact hsource

end

/-- What the write of a login does: nothing if the name is that of a local account. -/
theorem writeProvisioned_cases (cfg : LdapConfig) (username : String) (entry : LdapUser)
    (db : Database) :
    (¬ Unclaimed db.val username ∧ writeProvisioned cfg username entry db = (none, db)) ∨
    (Unclaimed db.val username ∧ ∃ db' row, Provisioned cfg username entry db.val db'.val row ∧
      writeProvisioned cfg username entry db = (some (some row), db')) := by
  unfold writeProvisioned
  by_cases h : Unclaimed db.val username
  · have hwritten : ∃ t row, provisionedTables cfg db.val username entry = some t ∧
        Provisioned cfg username entry db.val t row := provisionedTables_of_unclaimed db.property h
    obtain ⟨t, row, htables, hprovisioned⟩ := hwritten
    refine .inr ⟨h, ⟨t, hprovisioned.consistent⟩, row, hprovisioned, ?_⟩
    rw [htables]
    dsimp only
    rw [commit_of_consistent hprovisioned.consistent, hprovisioned.found]
  · refine .inl ⟨h, ?_⟩
    rw [provisionedTables_of_claimed h]

/-! ### Logins -/

/-- A login, with what the directory answers it. -/
structure LdapLogin where
  username : String
  password : String
  directory : Directory

namespace LdapLogin

def name (request : LdapLogin) : String :=
  canonicalUsername (some request.username)

def answer (request : LdapLogin) : Except String (Option LdapUser) :=
  request.directory request.name request.password

def run (creds : Credentials) (request : LdapLogin) : Coroutine Database IdentityResult :=
  authenticateUser creds request.directory request.username request.password

end LdapLogin

/-- A login whose first transaction reads this state asks the directory. -/
@[mk_iff]
structure AsksDirectory (creds : Credentials) (request : LdapLogin) (db : Database) : Prop where
  named : request.name ≠ ""
  password : request.password ≠ ""
  configured : creds.ldap.enabled = true
  row : ∀ row ∈ db.val.users.find? (·.username = request.name), row.enabled = true ∧ row.source = .ldap

section

variable {creds : Credentials} {request : LdapLogin} {first second : Database}

theorem authenticateFound_of_asks (h : AsksDirectory creds request first) :
    authenticateFound creds request.directory request.name request.password
        (loadUser first.val request.name) =
      authenticateLdap creds.ldap request.directory request.name request.password
        ((loadUser first.val request.name).map (·.1)) := by
  cases hfind : first.val.users.find? (·.username = request.name) with
  | none => simp [authenticateFound, loadUser, hfind, h.configured]
  | some row =>
      obtain ⟨henabled, hsource⟩ := h.row row hfind
      simp [authenticateFound, loadUser, hfind, UserInfo.ofRow, henabled, hsource, h.configured]

/-- What is left of a login after its first transaction, if that asks the directory. -/
theorem after_run (h : AsksDirectory creds request first) (states : List Database) :
    (request.run creds).after (first :: states) =
      (authenticateLdap creds.ldap request.directory request.name request.password
        ((loadUser first.val request.name).map (·.1))).after states := by
  have hgiven : ¬ (canonicalUsername (some request.username) = "" ∨ request.password = "") :=
    not_or.mpr ⟨h.named, h.password⟩
  unfold LdapLogin.run authenticateUser
  dsimp only
  rw [if_neg hgiven, ← authenticateFound_of_asks h]
  rfl

/-- What a login answers to the user that it provisioned. -/
def answered (name : String) (provisioned : Option UserInfo) : IdentityResult :=
  if provisioned.any (·.enabled) then ⟨true, "ok", name, provisioned⟩
  else ⟨false, "user disabled", name, provisioned⟩

theorem authenticateLdap_of_entry {cfg : LdapConfig} {directory : Directory} {name password : String}
    {entry : LdapUser} (hentry : directory name password = .ok (some entry)) (info : Option UserInfo) :
    authenticateLdap cfg directory name password info =
      provision cfg name entry >>= fun provisioned => .done (answered name provisioned) := by
  unfold authenticateLdap
  rw [hentry]
  dsimp only
  congr 1
  funext provisioned
  unfold answered
  split <;> rfl

theorem authenticateLdap_cases (cfg : LdapConfig) (directory : Directory) (name password : String)
    (info : Option UserInfo) :
    (∃ entry, directory name password = .ok (some entry)) ∨
    ∃ result, authenticateLdap cfg directory name password info = .done result ∧ result.ok = false := by
  unfold authenticateLdap
  split
  · exact .inr ⟨_, rfl, rfl⟩
  · exact .inr ⟨_, rfl, rfl⟩
  · next entry hentry => exact .inl ⟨entry, hentry⟩

theorem after_provision {α : Type} (cfg : LdapConfig) (name : String) (entry : LdapUser)
    (f : Option UserInfo → Coroutine Database α) (states : List Database) :
    (provision cfg name entry >>= f).after (second :: states) =
      (match (writeProvisioned cfg name entry second).1 with
        | none => f none
        | some kept => Coroutine.read (fun db => loadKept kept db.val name) >>= f).after states := by
  change ((match (writeProvisioned cfg name entry second).1 with
    | none => Coroutine.done none
    | some kept => Coroutine.read fun db => loadKept kept db.val name) >>= f).after states = _
  cases (writeProvisioned cfg name entry second).1 with
  | none => rfl
  | some kept => rfl

/-- A login reads again what it provisioned, in its third transaction. -/
theorem after_reread (hasks : AsksDirectory creds request first) {entry : LdapUser}
    (hentry : request.answer = .ok (some entry)) (hunclaimed : Unclaimed second.val request.name) :
    ∃ row, row.id = provisionedId second.val request.name ∧ row.source = .ldap ∧
      ∀ third rest, (request.run creds).after (first :: second :: third :: rest) =
        .done (answered request.name (loadKept (some row) third.val request.name)) := by
  rcases writeProvisioned_cases creds.ldap request.name entry second with
    ⟨hclaimed, -⟩ | ⟨-, db, row, hprovisioned, hwritten⟩
  · exact absurd hunclaimed hclaimed
  · refine ⟨row, hprovisioned.id, hprovisioned.source, fun third rest => ?_⟩
    rw [after_run hasks, authenticateLdap_of_entry hentry, after_provision, hwritten]
    exact after_done _ rest

/-- A login that the directory vouches for has read its row again. -/
theorem reread_of_ok (hasks : AsksDirectory creds request first) {states : List Database}
    {result : IdentityResult} (h : (request.run creds).after (first :: states) = .done result)
    (hok : result.ok = true) :
    ∃ entry second third rest, request.answer = .ok (some entry) ∧ states = second :: third :: rest ∧
      Unclaimed second.val request.name := by
  rw [after_run hasks] at h
  rcases authenticateLdap_cases creds.ldap request.directory request.name request.password
    ((loadUser first.val request.name).map (·.1)) with ⟨entry, hentry⟩ | ⟨refusal, hdone, hrefused⟩
  · rw [authenticateLdap_of_entry hentry] at h
    cases states with
    | nil =>
        rw [after_nil] at h
        cases h
    | cons second states =>
        rw [after_provision] at h
        rcases writeProvisioned_cases creds.ldap request.name entry second with
          ⟨-, hwritten⟩ | ⟨hunclaimed, db, row, -, hwritten⟩
        · rw [hwritten, after_done] at h
          cases h
          cases hok
        · rw [hwritten] at h
          cases states with
          | nil =>
              rw [after_nil] at h
              cases h
          | cons third rest => exact ⟨entry, second, third, rest, hentry, rfl, hunclaimed⟩
  · rw [hdone, after_done] at h
    cases h
    rw [hrefused] at hok
    cases hok

end

/-! ### What a login returns -/

/-- A login that succeeds because of what the directory answered returns an enabled LDAP user. -/
def AcceptsLdap (creds : Credentials) (ret : Return Database LdapLogin IdentityResult) : Prop :=
  ret.result.ok = true → (∃ first, [first] <+: ret.states ∧ AsksDirectory creds ret.request first) →
    ∃ user, ret.result.user = some user ∧ user.source = .ldap ∧ user.enabled = true

/-- When the login reads its row again, the name belongs to an enabled local account with another id
than the row that the login provisioned. -/
def Replaced (creds : Credentials) (ret : Return Database LdapLogin IdentityResult) : Prop :=
  ∃ first second third entry row, [first, second, third] <+: ret.states ∧
    AsksDirectory creds ret.request first ∧ ret.request.answer = .ok (some entry) ∧
    Unclaimed second.val ret.request.name ∧
    third.val.users.find? (·.username = ret.request.name) = some row ∧
    row.source = .local ∧ row.enabled = true ∧ row.id ≠ provisionedId second.val ret.request.name

theorem loadKept_eq {row found : User} {t : Tables} {username : String}
    (hfound : t.users.find? (·.username = username) = some found) :
    loadKept (some row) t username =
      some (UserInfo.ofRow (if row.id = found.id then row else found) (groupOf t found)) := by
  rw [loadKept, hfound, Option.map_some]
  by_cases hid : row.id = found.id
  · rw [if_pos hid, Option.filter_some, if_pos (decide_eq_true hid), Option.getD_some]
  · rw [if_neg hid, Option.filter_some, if_neg (by simpa using hid), Option.getD_none]

theorem acceptsLdap_iff {creds : Credentials} {ret : Return Database LdapLogin IdentityResult}
    (h : (ret.request.run creds).after ret.states = .done ret.result) :
    AcceptsLdap creds ret ↔ ¬ Replaced creds ret := by
  constructor
  · rintro haccepts ⟨first, second, third, entry, row, ⟨rest, hstates⟩, hasks, hentry, hunclaimed,
      hrow, hlocal, henabled, hid⟩
    obtain ⟨kept, hkept, -, hafter⟩ := after_reread hasks hentry hunclaimed
    have hresult : ret.result = answered ret.request.name (loadKept (some kept) third.val
        ret.request.name) := by
      have hdone := hafter third rest
      rw [show first :: second :: third :: rest = ret.states from hstates, h] at hdone
      exact Coroutine.done.inj hdone
    rw [loadKept_eq hrow, if_neg (hkept ▸ Ne.symm hid)] at hresult
    have hanswered : ret.result = ⟨true, "ok", ret.request.name,
        some (UserInfo.ofRow row (groupOf third.val row))⟩ := hresult.trans (if_pos henabled)
    obtain ⟨user, huser, hsource, -⟩ := haccepts (hanswered ▸ rfl)
      ⟨first, ⟨second :: third :: rest, hstates⟩, hasks⟩
    rw [hanswered] at huser
    cases huser
    exact absurd (hlocal.symm.trans hsource) (by decide)
  · rintro hreplaced hok ⟨first, ⟨states, hstates⟩, hasks⟩
    rw [← hstates] at h
    obtain ⟨entry, second, third, rest, hentry, rfl, hunclaimed⟩ := reread_of_ok hasks h hok
    obtain ⟨kept, hkept, hldap, hafter⟩ := after_reread hasks hentry hunclaimed
    have hresult : ret.result = answered ret.request.name (loadKept (some kept) third.val
        ret.request.name) := (Coroutine.done.inj ((hafter third rest).symm.trans h)).symm
    unfold answered at hresult
    split at hresult
    · next hany =>
        obtain ⟨user, huser, henabled⟩ := (Option.any_eq_true ..).mp hany
        refine ⟨user, by rw [hresult, huser], ?_, henabled⟩
        cases hrow : third.val.users.find? (·.username = ret.request.name) with
        | none =>
            rw [loadKept, hrow] at huser
            cases huser
        | some row =>
            rw [loadKept_eq hrow] at huser
            cases huser
            by_cases hid : kept.id = row.id
            · rw [if_pos hid]
              exact hldap
            · rw [if_neg hid] at henabled ⊢
              by_contra hsource
              refine hreplaced ⟨first, second, third, entry, row, ⟨rest, hstates⟩, hasks, hentry,
                hunclaimed, hrow, ?_, henabled, hkept ▸ Ne.symm hid⟩
              cases hcase : row.source with
              | «local» => rfl
              | ldap => exact absurd hcase hsource
    · rw [hresult] at hok
      cases hok

/-! ### What a step of a login writes -/

theorem keepsLocal_writeProvisioned (cfg : LdapConfig) (username : String) (entry : LdapUser)
    (db : Database) : KeepsLocal db.val (writeProvisioned cfg username entry db).2.val := by
  rcases writeProvisioned_cases cfg username entry db with ⟨-, h⟩ | ⟨-, db', row, hprovisioned, h⟩
  · rw [h]
    exact fun _ hmem _ => hmem
  · rw [h]
    exact hprovisioned.locals

theorem within_read {α : Type} (f : Database → α) :
    (Coroutine.read f).Within (fun db db' => KeepsLocal db.val db'.val) fun _ => True :=
  within_atomic (fun _ _ hmem _ => hmem) fun _ => trivial

theorem within_provision (cfg : LdapConfig) (username : String) (entry : LdapUser) :
    (provision cfg username entry).Within (fun db db' => KeepsLocal db.val db'.val) fun _ => True := by
  have hwrite : (atomic (writeProvisioned cfg username entry)).Within
      (fun db db' => KeepsLocal db.val db'.val) fun _ => True :=
    within_atomic (keepsLocal_writeProvisioned cfg username entry) fun _ => trivial
  refine hwrite.seq fun written _ => ?_
  cases written with
  | none => exact within_done_iff.mpr trivial
  | some kept => exact within_read _

/-- No step of a login changes a row of a local account. -/
theorem within_run (creds : Credentials) (request : LdapLogin) :
    (request.run creds).Within (fun db db' => KeepsLocal db.val db'.val) fun _ => True := by
  unfold LdapLogin.run authenticateUser
  dsimp only
  split
  · exact within_done_iff.mpr trivial
  refine (within_read _).seq fun found _ => ?_
  unfold authenticateFound
  dsimp only
  split
  · exact within_done_iff.mpr trivial
  split
  · split
    · exact (within_read _).seq fun _ _ => within_done_iff.mpr trivial
    · exact within_done_iff.mpr trivial
  split
  · exact within_done_iff.mpr trivial
  rcases authenticateLdap_cases creds.ldap request.directory
    (canonicalUsername (some request.username)) request.password (found.map (·.1)) with
    ⟨entry, hentry⟩ | ⟨refusal, hdone, -⟩
  · rw [authenticateLdap_of_entry hentry]
    exact (within_provision _ _ entry).seq fun _ _ => within_done_iff.mpr trivial
  · rw [hdone]
    exact within_done_iff.mpr trivial

/-! ### Logins among the requests of administrators -/

/-- A request of an administrator; one that is refused changes nothing. -/
def administer (request : Host × Mutation) (db : Database) : Database :=
  match request.2.run request.1 db with
  | .ok outcome => outcome.db
  | .error _ => db

/-- The logins of a schedule, and what administrators do between their transactions. -/
def logins (creds : Credentials) (db : Database) (schedule : List (Move LdapLogin (Host × Mutation))) :
    Loop Database LdapLogin IdentityResult :=
  Loop.run (LdapLogin.run creds) administer { state := db } schedule

theorem traced_logins (creds : Credentials) (db : Database)
    (schedule : List (Move LdapLogin (Host × Mutation))) :
    (logins creds db schedule).Traced (LdapLogin.run creds) :=
  Loop.traced_run _ _ (Loop.traced_empty _ db) schedule

/-- What the next step of the call at an index does to the users. -/
structure RespectsUsers (creds : Credentials) (loop : Loop Database LdapLogin IdentityResult)
    (index : Nat) : Prop where
  locals : KeepsLocal loop.state.val (loop.resume index).state.val
  mapped : ∀ call first entry, loop.calls[index]? = some call → call.states = [first] →
    AsksDirectory creds call.request first → call.request.answer = .ok (some entry) →
    Unclaimed loop.state.val call.request.name → creds.ldap.groupMap ≠ [] →
    ∃ row, (loop.resume index).state.val.users.find? (·.username = call.request.name) = some row ∧
      row.source = .ldap ∧ Mapped creds.ldap loop.state.val.groups entry row.groupId

theorem respectsUsers {creds : Credentials} {loop : Loop Database LdapLogin IdentityResult}
    (h : loop.Traced (LdapLogin.run creds)) (index : Nat) : RespectsUsers creds loop index where
  locals := h.resume (within_run creds) (fun _ _ hmem _ => hmem) index
  mapped := by
    intro call first entry hcall hstates hasks hentry hunclaimed hcfg
    have hrest : call.rest = (authenticateLdap creds.ldap call.request.directory call.request.name
        call.request.password ((loadUser first.val call.request.name).map (·.1))) := by
      rw [h.calls call (List.mem_of_getElem? hcall), hstates, after_run hasks, after_nil]
    have hstate : (loop.resume index).state =
        (writeProvisioned creds.ldap call.request.name entry loop.state).2 := by
      rw [Loop.state_resume_of_call hcall, hrest, authenticateLdap_of_entry hentry]
      rfl
    rcases writeProvisioned_cases creds.ldap call.request.name entry loop.state with
      ⟨hclaimed, -⟩ | ⟨-, db, row, hprovisioned, hwritten⟩
    · exact absurd hunclaimed hclaimed
    · rw [hstate, hwritten]
      exact ⟨row, hprovisioned.found, hprovisioned.source, hprovisioned.group hcfg⟩

/-- Local accounts and mapped groups are respected by every step of every login, and what the directory
vouches for is returned as an LDAP user, exactly when no login reads an enabled local account in place of
the row that it provisioned. -/
theorem local_accounts_not_taken_over_iff (creds : Credentials) (db : Database)
    (schedule : List (Move LdapLogin (Host × Mutation))) :
    ((∀ ret ∈ (logins creds db schedule).returned, AcceptsLdap creds ret) ∧
      ∀ before index after, schedule = before ++ .resume index :: after →
        RespectsUsers creds (logins creds db before) index) ↔
    ∀ ret ∈ (logins creds db schedule).returned, ¬ Replaced creds ret := by
  have htraced := traced_logins creds db schedule
  constructor
  · rintro ⟨haccepts, -⟩ ret hret
    exact (acceptsLdap_iff (htraced.returns ret hret)).mp (haccepts ret hret)
  · intro hreplaced
    refine ⟨fun ret hret => ?_, fun before index _ _ => ?_⟩
    · exact (acceptsLdap_iff (htraced.returns ret hret)).mpr (hreplaced ret hret)
    · exact respectsUsers (traced_logins creds db before) index

instance (creds : Credentials) (request : LdapLogin) (db : Database) :
    Decidable (AsksDirectory creds request db) :=
  decidable_of_iff _ (asksDirectory_iff creds request db).symm

/-- A login of Erin, whose LDAP account an administrator deletes and creates anew as a local account
before the login reads it again. -/
def erinReplaced : List (Move LdapLogin (Host × Mutation)) :=
  let host : Host := {
    platform := { timezone := Zone.utc, oui := fun _ => none, sha256 := fun _ => "" }
    str := fun _ => "", now := 0, rules := ⟨8, fun _ => none⟩, portal := {} }
  let erin : LdapLogin := ⟨"erin", "directory password", fun _ _ => .ok (some ⟨"", "", []⟩)⟩
  [.call erin, .resume 0, .resume 0, .outside (host, .deleteUser .operator 1),
    .outside (host, .createUser .operator "digest" { username := "erin", password := "local password" }),
    .resume 0]

theorem local_account_taken_over :
    ¬ ∀ (creds : Credentials) (db : Database) (schedule : List (Move LdapLogin (Host × Mutation))),
      (∀ ret ∈ (logins creds db schedule).returned, AcceptsLdap creds ret) ∧
      ∀ before index after, schedule = before ++ .resume index :: after →
        RespectsUsers creds (logins creds db before) index := by
  intro h
  let creds : Credentials := { bcrypt := ⟨fun _ _ => .ok false, ""⟩, ldap := { enabled := true } }
  let db : Database := ⟨{ users := [
    { id := 1, username := "erin", source := .ldap }, { id := 2, username := "bob", source := .ldap }] },
    by decide⟩
  have hret : ∃ ret ∈ (logins creds db erinReplaced).returned, ret.result.ok = true ∧
      (∃ first ∈ ret.states.head?, AsksDirectory creds ret.request first) ∧
      ∀ user ∈ ret.result.user, user.source = .local := by
    decide +kernel
  obtain ⟨ret, hmem, hok, ⟨first, hfirst, hasks⟩, hlocal⟩ := hret
  obtain ⟨states, hstates⟩ := List.head?_eq_some_iff.mp hfirst
  obtain ⟨user, huser, hldap, -⟩ :=
    (h creds db erinReplaced).1 ret hmem hok ⟨first, ⟨states, hstates.symm⟩, hasks⟩
  exact absurd ((hlocal user huser).symm.trans hldap) (by decide)

end Naco
