import Naco.Proof.Routes
import Naco.Proof.Shows

/-!
# Which edits tell the re-evaluator

Every route that changes what decisions are made on should schedule a re-evaluation. Those that add
users, rename a group, or add, change or delete a NAS never do. What they forget is exactly what
`Mutation.Touches` says: a live session whose hard rules, group or NAS name the edit changes in a way
that some policy table shows. All other routes schedule whenever a decision may change.
-/

namespace Naco

open Py

/-- The state with another policy table. -/
def Database.withPolicies (db : Database) (policies : List Policy)
    (h : { db.val with policies }.Consistent) : Database :=
  ⟨{ db.val with policies }, h⟩

/-- If the request succeeds and re-evaluation then decides some live session otherwise, the request
has scheduled it. -/
def Remembered (host : Host) (db : Database) (mutation : Mutation) : Prop :=
  ∀ outcome, mutation.run host db = .ok outcome →
    Redecided host.platform db.val outcome.db.val → outcome.scheduled ≠ []

/-! ### Quiet routes -/

/-- The request changes what re-evaluation may decide for the session, and does not schedule it. -/
def Mutation.Touches (host : Host) (t : Tables) (session : RadiusSession) : Mutation → Prop
  | .createUser _ _ body => NewUserShows t session body
  | .importUsers role _ rows readAt =>
      ∃ body ∈ (readUsers role rows readAt).created, NewUserShows t session body
  | .updateGroup _ id body => RenameShows t session id body
  | .createNas _ body =>
      NasShows t session (t.nasClients ++ [body.row (nextId (t.nasClients.map (·.id)))])
  | .updateNas _ id body =>
      NasShows t session (t.nasClients.map fun nas => if nas.id = id then body.apply nas else nas)
  | .deleteNas _ id => NasShows t session (deleteRow t.nasClients (·.id) id)
  | .importNas _ rows =>
      NasShows t session (addRows t.nasClients (·.id) (fun _ id body => body.row id)
        (nasItems host.rules rows t))
  | _ => False

/-! ### Quiet edits -/

/-- A route that never schedules: past its checks it commits one edit. -/
def QuietRoute (host : Host) (mutation : Mutation) (checks : Tables → Prop) (edit : Tables → Tables) :
    Prop :=
  ∀ db outcome, mutation.run host db = .ok outcome ↔
    checks db.val ∧ ∃ h : (edit db.val).Consistent, outcome = ⟨⟨edit db.val, h⟩, []⟩

/-- An edit that neither reads nor writes policies, and leaves the sessions alone. -/
structure OffPolicies (edit : Tables → Tables) : Prop where
  policies : ∀ t policies, edit { t with policies } = { edit t with policies }
  sessions : ∀ t, (edit t).sessions = t.sessions

section Quiet

variable {host : Host} {mutation : Mutation} {checks : Tables → Prop} {edit : Tables → Tables}
  {db : Database}

theorem SeenAlike.withPolicies {t t' : Tables} {now : ClockReading} {session : RadiusSession}
    {method : AuthMethod} {nas nas' : NasClient} (h : SeenAlike t t' now session method nas nas')
    (policies : List Policy) :
    SeenAlike { t with policies } { t' with policies } now session method nas nas' :=
  ⟨h.refused, h.device, h.guest, h.group, h.nasName⟩

/-- A quiet edit after which every session is seen alike forgets nothing. -/
theorem remembered_of_seenAlike (hquiet : QuietRoute host mutation checks edit)
    (hoff : OffPolicies edit)
    (hseen : ∀ session ∈ digestSessions db.val, ∀ now method nas nas',
      session.authMethod = method.name → Resolves db.val.nasClients session.nasIp nas →
      Resolves (edit db.val).nasClients session.nasIp nas' →
      SeenAlike db.val (edit db.val) now session method nas nas')
    (policies : List Policy) (h : { db.val with policies }.Consistent) :
    Remembered host (db.withPolicies policies h) mutation := by
  intro outcome hrun hredecided
  obtain ⟨-, hedited, rfl⟩ := (hquiet _ _).mp hrun
  have hedit : edit (db.withPolicies policies h).val = { edit db.val with policies } :=
    hoff.policies db.val policies
  have hconsistent : { edit db.val with policies }.Consistent := hedit ▸ hedited
  refine absurd hredecided ?_
  dsimp only
  rw [hedit]
  refine not_redecided_of_seenAlike h hconsistent rfl (hoff.sessions db.val) ?_
  intro session hmem now method nas nas' hmethod hnas hnas'
  exact (hseen session hmem now method nas nas' hmethod hnas hnas').withPolicies policies

/-- A quiet edit that a probe shows is forgotten. -/
theorem not_remembered_of_probe (hquiet : QuietRoute host mutation checks edit)
    (hoff : OffPolicies edit) (hedited : (edit db.val).Consistent) {raw : Json}
    (hchecks : checks (db.val.withProbe raw))
    (hredecided : Redecided host.platform (db.val.withProbe raw) ((edit db.val).withProbe raw)) :
    ¬ ∀ (policies : List Policy) (h : { db.val with policies }.Consistent),
      Remembered host (db.withPolicies policies h) mutation := by
  intro hall
  have hprobe : (db.val.withProbe raw).Consistent := withProbe_consistent db.property raw
  have hedit : edit (db.val.withProbe raw) = (edit db.val).withProbe raw := hoff.policies _ _
  have hconsistent : (edit (db.val.withProbe raw)).Consistent :=
    hedit ▸ withProbe_consistent hedited raw
  have hrun := (hquiet ⟨db.val.withProbe raw, hprobe⟩ _).mpr ⟨hchecks, hconsistent, rfl⟩
  refine hall [probePolicy raw] hprobe _ hrun ?_ rfl
  dsimp only
  rw [hedit]
  exact hredecided

end Quiet

/-! ### The quiet routes -/

section Routes

variable (host : Host) (role : AdminRole)

theorem quiet_createUser (digest : String) (body : UserCreate) :
    QuietRoute host (.createUser role digest body)
      (fun t => require role .operator = .ok () ∧ checkPassword body.password = .ok () ∧
        ∃ group, groupById t body.groupId = .ok group ∧ guardDeviceAdmin role [group] = .ok ())
      (fun t => t.withUsers [body.row (nextId (t.users.map (·.id))) digest]) := by
  intro db outcome
  simp only [Mutation.run, createUser, bind_eq_ok_iff, commitOrConflict_eq_ok_iff, Tables.withUsers]
  constructor
  · rintro ⟨_, hrole, _, hpassword, group, hgroup, _, hguard, h⟩
    exact ⟨⟨hrole, hpassword, group, hgroup, hguard⟩, h⟩
  · rintro ⟨⟨hrole, hpassword, group, hgroup, hguard⟩, h⟩
    exact ⟨_, hrole, _, hpassword, group, hgroup, _, hguard, h⟩

theorem quiet_importUsers (digest : Nat → String) (rows : List CsvRow) (readAt : Database) :
    QuietRoute host (.importUsers role digest rows readAt) (fun _ => require role .operator = .ok ())
      (fun t => t.withUsers ((readUsers role rows readAt).created.mapIdx fun i body =>
        body.row (nextId (t.users.map (·.id)) + i) (digest i))) := by
  intro db outcome
  simp only [Mutation.run, importUsers, writeUsers, bind_eq_ok_iff, commitOrConflict_eq_ok_iff, addRows,
    Tables.withUsers]
  constructor
  · rintro ⟨_, hrole, h⟩
    exact ⟨hrole, h⟩
  · rintro ⟨hrole, h⟩
    exact ⟨_, hrole, h⟩

theorem quiet_createNas (body : NasIn) :
    QuietRoute host (.createNas role body) (fun _ => require role .superuser = .ok ())
      (fun t => t.withNas (t.nasClients ++ [body.row (nextId (t.nasClients.map (·.id)))])) := by
  intro db outcome
  simp only [Mutation.run, createNas, bind_eq_ok_iff, commitOrConflict_eq_ok_iff, Tables.withNas]
  constructor
  · rintro ⟨_, hrole, h⟩
    exact ⟨hrole, h⟩
  · rintro ⟨hrole, h⟩
    exact ⟨_, hrole, h⟩

theorem quiet_importNas (rows : List CsvRow) :
    QuietRoute host (.importNas role rows) (fun _ => require role .superuser = .ok ())
      (fun t => t.withNas (addRows t.nasClients (·.id) (fun _ id body => body.row id)
        (nasItems host.rules rows t))) := by
  intro db outcome
  simp only [Mutation.run, importNas, bind_eq_ok_iff, commitOrConflict_eq_ok_iff, Tables.withNas]
  constructor
  · rintro ⟨_, hrole, h⟩
    exact ⟨hrole, h⟩
  · rintro ⟨hrole, h⟩
    exact ⟨_, hrole, h⟩

theorem replaceRow_apply {α : Type} {rows : List α} {key : α → Nat} (hnodup : (rows.map key).Nodup)
    (apply : α → α) (hkey : ∀ row, key (apply row) = key row) {row : α} (hmem : row ∈ rows) :
    replaceRow rows key (apply row) =
      rows.map fun other => if key other = key row then apply other else other := by
  unfold replaceRow
  refine List.map_congr_left fun other hother => ?_
  rw [hkey]
  by_cases hsame : key other = key row
  · rw [if_pos hsame, if_pos hsame, Rows.eq_of_key hnodup hother hmem hsame]
  · rw [if_neg hsame, if_neg hsame]

theorem quiet_updateNas (id : Nat) (body : NasUpdate) :
    QuietRoute host (.updateNas role id body)
      (fun t => require role .superuser = .ok () ∧
        ∃ nas, t.nasClients.find? (fun nas => nas.id = id) = some nas)
      (fun t => t.withNas (t.nasClients.map fun nas =>
        if nas.id = id then body.apply nas else nas)) := by
  intro db outcome
  simp only [Mutation.run, updateNas, bind_eq_ok_iff, commitOrConflict_eq_ok_iff, Tables.withNas,
    getOr404_eq_ok_iff]
  have hedit : ∀ nas, db.val.nasClients.find? (fun nas => nas.id = id) = some nas →
      replaceRow db.val.nasClients (·.id) (body.apply nas) =
        db.val.nasClients.map fun nas => if nas.id = id then body.apply nas else nas := by
    intro nas hfind
    obtain ⟨hmem, rfl⟩ := (Rows.find?_eq_some_iff db.property.nasIds).mp hfind
    exact replaceRow_apply db.property.nasIds body.apply (fun _ => rfl) hmem
  constructor
  · rintro ⟨_, hrole, nas, hfind, h⟩
    rw [hedit nas hfind] at h
    exact ⟨⟨hrole, nas, hfind⟩, h⟩
  · rintro ⟨⟨hrole, nas, hfind⟩, h⟩
    refine ⟨_, hrole, nas, hfind, ?_⟩
    rw [hedit nas hfind]
    exact h

theorem quiet_deleteNas (id : Nat) :
    QuietRoute host (.deleteNas role id)
      (fun t => require role .superuser = .ok () ∧
        ∃ nas, t.nasClients.find? (fun nas => nas.id = id) = some nas)
      (fun t => t.withNas (deleteRow t.nasClients (·.id) id)) := by
  intro db outcome
  simp only [Mutation.run, deleteNas, bind_eq_ok_iff, commitOrRaise_eq_ok_iff, Tables.withNas,
    getOr404_eq_ok_iff]
  constructor
  · rintro ⟨_, hrole, nas, hfind, h⟩
    exact ⟨⟨hrole, nas, hfind⟩, h⟩
  · rintro ⟨⟨hrole, nas, hfind⟩, h⟩
    exact ⟨_, hrole, nas, hfind, h⟩

/-- The group row that an update leaves, in its table. -/
def GroupUpdate.edit (body : GroupUpdate) (id : Nat) (t : Tables) : Tables :=
  match t.groups.find? (·.id = id) with
  | some group => t.withGroup (body.apply group)
  | none => t

theorem quiet_updateGroup (id : Nat) (body : GroupUpdate) :
    QuietRoute host (.updateGroup role id body)
      (fun t => require role .superuser = .ok () ∧
        checkCommandSet t (body.commandSetId.getD none) = .ok () ∧ body.description ≠ some none ∧
        ∃ group, t.groups.find? (fun group => group.id = id) = some group ∧
          checkRename host.str t body group = .ok ())
      (body.edit id) := by
  intro db outcome
  simp only [Mutation.run, updateGroup, bind_eq_ok_iff, getOr404_eq_ok_iff]
  constructor
  · rintro ⟨_, hrole, group, hfind, _, hrename, _, hset, h⟩
    split at h
    · cases h
    · next hdescription =>
        rw [commitOrConflict_eq_ok_iff] at h
        refine ⟨⟨hrole, hset, hdescription, group, hfind, hrename⟩, ?_⟩
        rw [GroupUpdate.edit, hfind]
        exact h
  · rintro ⟨⟨hrole, hset, hdescription, group, hfind, hrename⟩, h⟩
    refine ⟨_, hrole, group, hfind, _, hrename, _, hset, ?_⟩
    rw [if_neg hdescription, commitOrConflict_eq_ok_iff]
    rw [GroupUpdate.edit, hfind] at h
    exact h

theorem quiet_createGroup (body : GroupIn) :
    QuietRoute host (.createGroup role body)
      (fun t => require role .superuser = .ok () ∧ checkCommandSet t body.commandSetId = .ok ())
      (fun t => { t with
        groups := t.groups ++ [
          { id := nextId (t.groups.map (·.id)), name := body.name, description := body.description,
            deviceAdminPrivilege := body.deviceAdminPrivilege, commandSetId := body.commandSetId,
            deviceAdminAttributes := body.deviceAdminAttributes }] }) := by
  intro db outcome
  simp only [Mutation.run, createGroup, bind_eq_ok_iff, commitOrConflict_eq_ok_iff]
  constructor
  · rintro ⟨_, hrole, _, hset, h⟩
    exact ⟨⟨hrole, hset⟩, h⟩
  · rintro ⟨⟨hrole, hset⟩, h⟩
    exact ⟨_, hrole, _, hset, h⟩

end Routes

/-! ### The routes that schedule -/

/-- Changed rows are found where the old ones were. -/
theorem find?_map_key {α κ : Type} [DecidableEq κ] {key : α → κ} {f : α → α}
    (hkey : ∀ row, key (f row) = key row) (rows : List α) (k : κ) :
    (rows.map f).find? (fun row => key row = k) =
      (rows.find? fun row => key row = k).map f := by
  rw [List.find?_map]
  congr 2
  funext row
  simp [hkey]

/-- Rewriting users in what decisions do not read shows nowhere. -/
theorem seenAlike_of_users_map {t : Tables} (ht : t.Consistent) {f : User → User}
    (hname : ∀ user, (f user).username = user.username)
    (hfacts : ∀ user ∈ t.users, (f user).enabled = user.enabled ∧ (f user).groupId = user.groupId)
    (ht' : { t with users := t.users.map f }.Consistent) (now : ClockReading)
    (session : RadiusSession) (method : AuthMethod) (nas : NasClient) :
    SeenAlike t { t with users := t.users.map f } now session method nas nas := by
  have hfind : ∀ name, (t.users.map f).find? (·.username = name) =
      (t.users.find? (·.username = name)).map f := find?_map_key hname t.users
  refine ⟨?_, rfl, rfl, fun _ => ?_, fun _ => NamedAlike.refl _⟩
  · rw [hardRefused_iff_find? ht, hardRefused_iff_find? ht']
    dsimp only
    rw [hfind]
    cases huser : t.users.find? (·.username = session.username) with
    | none => rfl
    | some user => simp [(hfacts user (List.mem_of_find?_eq_some huser)).1]
  · by_cases hempty : session.username = ""
    · rw [hempty]
      exact NamedAlike.refl _
    · rw [sessionGroup_eq _ hempty, sessionGroup_eq _ hempty]
      dsimp only
      rw [hfind]
      cases huser : t.users.find? (·.username = session.username) with
      | none => exact NamedAlike.refl _
      | some user =>
          have hgroup : groupOf { t with users := t.users.map f } (f user) = groupOf t user := by
            simp [groupOf, (hfacts user (List.mem_of_find?_eq_some huser)).2]
          rw [Option.map_some, Option.bind_some, Option.bind_some, hgroup]
          exact NamedAlike.refl _

/-- Rewriting devices in what decisions do not read shows nowhere. -/
theorem seenAlike_of_devices_map {t : Tables} {f : Device → Device}
    (hmac : ∀ device, (f device).macAddress = device.macAddress)
    (hfacts : ∀ device ∈ t.devices, (f device).facts = device.facts) (now : ClockReading)
    (session : RadiusSession) (method : AuthMethod) (nas : NasClient) :
    SeenAlike t { t with devices := t.devices.map f } now session method nas nas := by
  have hfind : ∀ mac, (knownDevice { t with devices := t.devices.map f } mac).map Device.facts =
      (knownDevice t mac).map Device.facts := by
    intro mac
    unfold knownDevice
    dsimp only
    rw [find?_map_key hmac]
    cases hdevice : t.devices.find? (·.macAddress = mac) with
    | none => rfl
    | some device => simp [hfacts device (List.mem_of_find?_eq_some hdevice)]
  refine ⟨?_, ?_, rfl, fun _ => NamedAlike.refl _, fun _ => NamedAlike.refl _⟩
  · refine or_congr_right ?_
    constructor
    · rintro ⟨device, hmem, hsame, hblocked⟩
      have hstatus := congrArg Prod.fst (hfacts device hmem)
      exact ⟨f device, List.mem_map_of_mem hmem, (hmac device).symm ▸ hsame, hstatus.trans hblocked⟩
    · rintro ⟨_, hmem, hsame, hblocked⟩
      obtain ⟨device, hdevice, rfl⟩ := List.mem_map.mp hmem
      have hstatus := congrArg Prod.fst (hfacts device hdevice)
      exact ⟨device, hdevice, hmac device ▸ hsame, hstatus.symm.trans hblocked⟩
  · cases orNone session.macAddress with
    | none => rfl
    | some mac => exact hfind mac

theorem not_redecided_self {platform : Platform} {t : Tables} : ¬ Redecided platform t t := by
  rintro ⟨now, session, answer, answer', -, hanswer, hanswer', hne⟩
  cases hanswer.symm.trans hanswer'
  exact hne rfl

theorem remembered_updateUser (host : Host) (role : AdminRole) (digest : String) (id : Nat)
    (body : UserUpdate) (db : Database) : Remembered host db (.updateUser role digest id body) := by
  intro outcome hrun hredecided hnone
  simp only [Mutation.run, updateUser, bind_eq_ok_iff, getOr404_eq_ok_iff] at hrun
  obtain ⟨_, -, _, -, user, hfind, _, -, _, -, _, -, h⟩ := hrun
  split at h
  · cases h
  · obtain ⟨hedited, rfl⟩ := commitOrRaise_eq_ok_iff.mp h
    obtain ⟨hmem, rfl⟩ := (Rows.find?_eq_some_iff db.property.userIds).mp hfind
    have hsame : (body.apply user digest).enabled = user.enabled ∧
        (body.apply user digest).groupId = user.groupId := by
      by_contra hchanged
      rw [not_and_or] at hchanged
      simp only [if_pos hchanged] at hnone
      cases hnone
    have hrows : replaceRow db.val.users (·.id) (body.apply user digest) =
        db.val.users.map fun other => if other.id = user.id then body.apply other digest else other :=
      replaceRow_apply db.property.userIds (body.apply · digest) (fun _ => rfl) hmem
    simp only [hrows] at hredecided hedited
    refine not_redecided_of_seenAlike db.property hedited rfl rfl ?_ hredecided
    intro session _ now method nas nas' _ hnas hnas'
    cases hnas.unique hnas'
    refine seenAlike_of_users_map db.property ?_ ?_ hedited now session method nas
    · intro other
      split <;> rfl
    · intro other hother
      split
      · next hid =>
          cases Rows.eq_of_key db.property.userIds hother hmem hid
          exact hsame
      · exact ⟨rfl, rfl⟩

theorem remembered_updateDevice (host : Host) (role : AdminRole) (id : Nat) (body : DeviceUpdate)
    (db : Database) : Remembered host db (.updateDevice role id body) := by
  intro outcome hrun hredecided hnone
  simp only [Mutation.run, updateDevice, bind_eq_ok_iff, getOr404_eq_ok_iff,
    commitOrRaise_eq_ok_iff] at hrun
  obtain ⟨_, -, device, hfind, hedited, rfl⟩ := hrun
  obtain ⟨hmem, rfl⟩ := (Rows.find?_eq_some_iff db.property.deviceIds).mp hfind
  have hsame : (body.apply device).status = device.status ∧
      (body.apply device).deviceType = device.deviceType := by
    by_contra hchanged
    rw [not_and_or] at hchanged
    simp only [if_pos hchanged] at hnone
    cases hnone
  have hrows : replaceRow db.val.devices (·.id) (body.apply device) =
      db.val.devices.map fun other => if other.id = device.id then body.apply other else other :=
    replaceRow_apply db.property.deviceIds body.apply (fun _ => rfl) hmem
  simp only [hrows] at hredecided hedited
  refine not_redecided_of_seenAlike db.property hedited rfl rfl ?_ hredecided
  intro session _ now method nas nas' _ hnas hnas'
  cases hnas.unique hnas'
  refine seenAlike_of_devices_map ?_ ?_ now session method nas
  · intro other
    split <;> rfl
  · intro other hother
    split
    · next hid =>
        cases Rows.eq_of_key db.property.deviceIds hother hmem hid
        rw [Device.facts, hsame.1, hsame.2]
        rfl
    · rfl

theorem remembered_importDevices (host : Host) (role : AdminRole) (rows : List CsvRow)
    (db : Database) : Remembered host db (.importDevices role rows) := by
  intro outcome hrun hredecided hnone
  simp only [Mutation.run, importDevices, bind_eq_ok_iff, commitOrConflict_eq_ok_iff] at hrun
  obtain ⟨_, -, hedited, rfl⟩ := hrun
  dsimp only at hnone hredecided
  split at hnone
  · next hempty =>
      -- nothing was imported, and nothing has changed
      rw [hempty] at hredecided
      simp only [addRows, List.mapIdx_nil, List.append_nil] at hredecided
      exact not_redecided_self hredecided
  · cases hnone

theorem remembered_revokeGuest (host : Host) (role : AdminRole) (id : Nat) (db : Database) :
    Remembered host db (.revokeGuest role id) := by
  intro outcome hrun hredecided hnone
  simp only [Mutation.run, revokeGuest, bind_eq_ok_iff] at hrun
  obtain ⟨_, -, guest, -, h⟩ := hrun
  split at h
  · obtain ⟨_, rfl⟩ := commitOrRaise_eq_ok_iff.mp h
    cases hnone
  · cases h
    exact not_redecided_self hredecided

theorem remembered_portalRegister (host : Host) (withinLimit : Bool) (form : PortalForm)
    (db : Database) : Remembered host db (.portalRegister withinLimit form) := by
  intro outcome hrun hredecided hnone
  simp only [Mutation.run, portalRegister] at hrun
  split at hrun
  · cases hrun
  split at hrun
  · cases hrun
  split at hrun
  · cases hrun
  split at hrun
  · cases hrun
  split at hrun
  · cases hrun
    exact not_redecided_self hredecided
  · split at hrun
    · cases hrun
    split at hrun
    · cases hrun
    split at hrun
    · cases hrun
    split at hrun
    · obtain ⟨_, rfl⟩ := commitOrRaise_eq_ok_iff.mp hrun
      cases hnone
    · cases hrun

/-- The routes that schedule whatever they do. -/
def Mutation.Loud : Mutation → Prop
  | .createPolicy .. | .updatePolicy .. | .deletePolicy .. | .reorder .. | .deleteUser ..
  | .deleteGroup .. | .createDevice .. | .bulkStatus .. | .deleteDevice .. | .addGuest .. => True
  | _ => False

theorem remembered_of_loud (host : Host) {mutation : Mutation} (hloud : mutation.Loud)
    (db : Database) : Remembered host db mutation := by
  intro outcome hrun _ hnone
  cases mutation with
  | createPolicy role body =>
      simp only [Mutation.run, createPolicy, bind_eq_ok_iff, commitOrConflict_eq_ok_iff] at hrun
      obtain ⟨_, -, _, rfl⟩ := hrun
      cases hnone
  | updatePolicy role id body =>
      simp only [Mutation.run, updatePolicy, bind_eq_ok_iff] at hrun
      obtain ⟨_, -, _, -, h⟩ := hrun
      split at h
      · cases h
      · obtain ⟨_, rfl⟩ := commitOrConflict_eq_ok_iff.mp h
        cases hnone
  | deletePolicy role id =>
      simp only [Mutation.run, deletePolicy, bind_eq_ok_iff, commitOrRaise_eq_ok_iff] at hrun
      obtain ⟨_, -, _, -, _, rfl⟩ := hrun
      cases hnone
  | reorder role ids =>
      simp only [Mutation.run, reorder, bind_eq_ok_iff] at hrun
      obtain ⟨_, -, h⟩ := hrun
      split at h
      · obtain ⟨_, rfl⟩ := commitOrRaise_eq_ok_iff.mp h
        cases hnone
      · cases h
  | deleteUser role id =>
      simp only [Mutation.run, deleteUser, bind_eq_ok_iff, commitOrRaise_eq_ok_iff] at hrun
      obtain ⟨_, -, _, -, _, -, _, -, _, rfl⟩ := hrun
      cases hnone
  | deleteGroup role id =>
      simp only [Mutation.run, deleteGroup, bind_eq_ok_iff, commitOrRaise_eq_ok_iff] at hrun
      obtain ⟨_, -, _, -, _, -, _, rfl⟩ := hrun
      cases hnone
  | createDevice role body =>
      simp only [Mutation.run, createDevice, bind_eq_ok_iff, commitOrConflict_eq_ok_iff] at hrun
      obtain ⟨_, -, _, rfl⟩ := hrun
      cases hnone
  | bulkStatus role ids status =>
      simp only [Mutation.run, bulkStatus, bind_eq_ok_iff] at hrun
      obtain ⟨_, -, h⟩ := hrun
      split at h
      · cases h
      · obtain ⟨_, rfl⟩ := commitOrRaise_eq_ok_iff.mp h
        cases hnone
  | deleteDevice role id =>
      simp only [Mutation.run, deleteDevice, bind_eq_ok_iff, commitOrRaise_eq_ok_iff] at hrun
      obtain ⟨_, -, _, -, _, rfl⟩ := hrun
      cases hnone
  | addGuest role body =>
      simp only [Mutation.run, addGuest, bind_eq_ok_iff] at hrun
      obtain ⟨_, -, h⟩ := hrun
      split at h
      · obtain ⟨_, rfl⟩ := commitOrRaise_eq_ok_iff.mp h
        cases hnone
      · cases h
  | _ => exact hloud.elim

/-- A new group has no members. -/
theorem remembered_createGroup (host : Host) (role : AdminRole) (body : GroupIn) (db : Database) :
    Remembered host db (.createGroup role body) := by
  intro outcome hrun hredecided _
  obtain ⟨-, hedited, rfl⟩ := (quiet_createGroup host role body db outcome).mp hrun
  refine not_redecided_of_seenAlike db.property hedited rfl rfl ?_ hredecided
  intro session _ now method nas nas' _ hnas hnas'
  cases hnas.unique hnas'
  refine ⟨Iff.rfl, rfl, rfl, fun _ => ?_, fun _ => NamedAlike.refl _⟩
  by_cases hname : session.username = ""
  · rw [hname]
    exact NamedAlike.refl _
  · rw [sessionGroup_eq _ hname, sessionGroup_eq _ hname]
    dsimp only
    cases huser : db.val.users.find? (·.username = session.username) with
    | none => exact NamedAlike.refl _
    | some user =>
        have hmember := db.property.userGroups user (List.mem_of_find?_eq_some huser)
        rw [Option.bind_some, Option.bind_some]
        unfold groupOf
        cases hid : user.groupId with
        | none => exact NamedAlike.refl _
        | some id =>
            obtain ⟨group, hgroup, rfl⟩ := hmember id hid
            have hfind : db.val.groups.find? (·.id = group.id) = some group :=
              (Rows.find?_eq_some_iff db.property.groupIds).mpr ⟨hgroup, rfl⟩
            rw [Option.bind_some, Option.bind_some, List.find?_append, hfind]
            exact NamedAlike.refl _

/-! ### The main result -/

theorem newUserShows_iff {t : Tables} {session : RadiusSession} {body : UserCreate} (id : Nat)
    (digest : String) :
    NewUserShows t session body ↔ ∃ (method : AuthMethod) (nas : NasClient),
      session.authMethod = method.name ∧ Resolves t.nasClients session.nasIp nas ∧
      UserShows t session method (body.row id digest) := by
  unfold NewUserShows UserShows
  constructor
  · rintro ⟨hname, hne, hfree, method, nas, hmethod, hnas, hshows⟩
    exact ⟨method, nas, hmethod, hnas, hname, hne, hfree, hshows⟩
  · rintro ⟨method, nas, hmethod, hnas, hname, hne, hfree, hshows⟩
    exact ⟨hname, hne, hfree, method, nas, hmethod, hnas, hshows⟩

theorem offPolicies_edit (id : Nat) (body : GroupUpdate) : OffPolicies (body.edit id) := by
  constructor
  · intro t policies
    unfold GroupUpdate.edit
    dsimp only
    cases t.groups.find? (·.id = id) <;> rfl
  · intro t
    unfold GroupUpdate.edit
    cases t.groups.find? (·.id = id) <;> rfl

section

variable {host : Host} {mutation : Mutation} {checks : Tables → Prop} {db : Database}

/-- A route that adds users forgets exactly the sessions in which one of them shows. -/
theorem remembered_iff_of_users {news : Tables → List User}
    (hquiet : QuietRoute host mutation checks fun t => t.withUsers (news t))
    (hoff : OffPolicies fun t => t.withUsers (news t))
    (hedited : (db.val.withUsers (news db.val)).Consistent)
    (hchecks : ∀ raw, checks (db.val.withProbe raw)) :
    (∀ (policies : List Policy) (h : { db.val with policies }.Consistent),
      Remembered host (db.withPolicies policies h) mutation) ↔
    ∀ session ∈ digestSessions db.val, ¬ ∃ user ∈ news db.val, ∃ (method : AuthMethod)
      (nas : NasClient), session.authMethod = method.name ∧
        Resolves db.val.nasClients session.nasIp nas ∧ UserShows db.val session method user := by
  constructor
  · rintro hall session hmem ⟨user, hnew, method, nas, hmethod, hnas, hshows⟩
    obtain ⟨raw, hredecided⟩ := redecided_withUsers host.platform db.property hedited hmem hmethod hnas
      hnew hshows
    exact not_remembered_of_probe hquiet hoff hedited (hchecks raw) hredecided hall
  · intro hnone
    refine remembered_of_seenAlike hquiet hoff ?_
    intro session hmem now method nas nas' hmethod hnas hnas'
    cases hnas.unique hnas'
    exact seenAlike_withUsers db.property hedited fun user hnew hshows =>
      hnone session hmem ⟨user, hnew, method, nas, hmethod, hnas, hshows⟩

/-- A route that changes the NAS clients forgets exactly the sessions in which that shows. -/
theorem remembered_iff_of_nas {clients : Tables → List NasClient}
    (hquiet : QuietRoute host mutation checks fun t => t.withNas (clients t))
    (hoff : OffPolicies fun t => t.withNas (clients t))
    (hedited : (db.val.withNas (clients db.val)).Consistent)
    (hchecks : ∀ raw, checks (db.val.withProbe raw)) :
    (∀ (policies : List Policy) (h : { db.val with policies }.Consistent),
      Remembered host (db.withPolicies policies h) mutation) ↔
    ∀ session ∈ digestSessions db.val, ¬ NasShows db.val session (clients db.val) := by
  constructor
  · intro hall session hmem hshows
    obtain ⟨raw, hredecided⟩ := redecided_withNas host.platform db.property hedited hmem hshows
    exact not_remembered_of_probe hquiet hoff hedited (hchecks raw) hredecided hall
  · intro hnone
    refine remembered_of_seenAlike hquiet hoff ?_
    intro session hmem now method nas nas' hmethod hnas hnas'
    exact seenAlike_withNas hmethod hnas hnas' (hnone session hmem)

end

theorem remembered_iff_of_rename {host : Host} {role : AdminRole} {id : Nat} {body : GroupUpdate}
    {db : Database} {outcome : Outcome}
    (hrun : Mutation.run host (.updateGroup role id body) db = .ok outcome) :
    (∀ (policies : List Policy) (h : { db.val with policies }.Consistent),
      Remembered host (db.withPolicies policies h) (.updateGroup role id body)) ↔
    ∀ session ∈ digestSessions db.val, ¬ RenameShows db.val session id body := by
  have hquiet := quiet_updateGroup host role id body
  obtain ⟨⟨hrole, hset, hdescription, group, hfind, hrename⟩, hedited, -⟩ := (hquiet _ _).mp hrun
  obtain ⟨hgroup, rfl⟩ := (Rows.find?_eq_some_iff db.property.groupIds).mp hfind
  have hedit : body.edit group.id db.val = db.val.withGroup (body.apply group) := by
    rw [GroupUpdate.edit, hfind]
  have hsameId : (body.apply group).id = group.id := rfl
  rw [hedit] at hedited
  constructor
  · rintro hall session hmem ⟨user, huser, hname, hne, hmember, row, hrow, hid, method, nas, hmethod,
      hnas, hfree, hnot⟩
    cases Rows.eq_of_key db.property.groupIds hrow hgroup hid
    obtain ⟨raw, hfreeName, hredecided⟩ := redecided_withGroup host.platform host.str db.property
      hedited hgroup hsameId hmem hmethod hnas ⟨⟨user, huser, hname, hne, hmember⟩, hfree, hnot⟩
    refine not_remembered_of_probe hquiet (offPolicies_edit _ _) (hedit ▸ hedited) ?_
      (hedit ▸ hredecided) hall
    refine ⟨hrole, hset, hdescription, group, hfind, ?_⟩
    rw [checkRename, hfreeName, ite_self]
  · intro hnone
    refine remembered_of_seenAlike hquiet (offPolicies_edit _ _) ?_
    rw [hedit]
    intro session hmem now method nas nas' hmethod hnas hnas'
    cases hnas.unique hnas'
    refine seenAlike_withGroup db.property hgroup hsameId ?_
    rintro ⟨⟨user, huser, hname, hne, hmember⟩, hfree, hnot⟩
    exact hnone session hmem ⟨user, huser, hname, hne, hmember, group, hgroup, rfl, method, nas,
      hmethod, hnas, hfree, hnot⟩

/-- Whatever the policies, a successful request that changes a decision has scheduled a re-evaluation,
exactly when it is not a quiet one that touches a live session. -/
theorem edits_remembered_iff (host : Host) (db : Database) (mutation : Mutation) (outcome : Outcome)
    (hrun : mutation.run host db = .ok outcome) :
    (∀ (policies : List Policy) (h : { db.val with policies }.Consistent),
      Remembered host (db.withPolicies policies h) mutation) ↔
    ∀ session ∈ digestSessions db.val, ¬ mutation.Touches host db.val session := by
  have hsafe : (∀ db, Remembered host db mutation) → (∀ session, ¬ mutation.Touches host db.val session) →
      ((∀ (policies : List Policy) (h : { db.val with policies }.Consistent),
        Remembered host (db.withPolicies policies h) mutation) ↔
      ∀ session ∈ digestSessions db.val, ¬ mutation.Touches host db.val session) :=
    fun hremembered huntouched => iff_of_true (fun _ _ => hremembered _) fun _ _ => huntouched _
  cases mutation with
  | createUser role digest body =>
      have hquiet := quiet_createUser host role digest body
      obtain ⟨hchecks, hedited, -⟩ := (hquiet _ _).mp hrun
      rw [remembered_iff_of_users hquiet ⟨fun _ _ => rfl, fun _ => rfl⟩ hedited fun _ => hchecks]
      refine forall₂_congr fun session _ => not_congr ?_
      simp only [Mutation.Touches, newUserShows_iff (nextId (db.val.users.map (·.id))) digest,
        List.mem_singleton, exists_eq_left]
  | importUsers role digest rows readAt =>
      have hquiet := quiet_importUsers host role digest rows readAt
      obtain ⟨hchecks, hedited, -⟩ := (hquiet _ _).mp hrun
      rw [remembered_iff_of_users hquiet ⟨fun _ _ => rfl, fun _ => rfl⟩ hedited fun _ => hchecks]
      refine forall₂_congr fun session _ => not_congr ?_
      rw [Mutation.Touches]
      constructor
      · rintro ⟨user, hnew, hshows⟩
        obtain ⟨i, hi, rfl⟩ := List.mem_mapIdx.mp hnew
        exact ⟨_, List.getElem_mem hi, (newUserShows_iff _ _).mpr hshows⟩
      · rintro ⟨body, hbody, hshows⟩
        obtain ⟨i, hi, rfl⟩ := List.getElem_of_mem hbody
        exact ⟨_, List.mem_mapIdx.mpr ⟨i, hi, rfl⟩, (newUserShows_iff _ _).mp hshows⟩
  | updateGroup role id body => exact remembered_iff_of_rename hrun
  | createNas role body =>
      have hquiet := quiet_createNas host role body
      obtain ⟨hchecks, hedited, -⟩ := (hquiet _ _).mp hrun
      exact remembered_iff_of_nas hquiet ⟨fun _ _ => rfl, fun _ => rfl⟩ hedited fun _ => hchecks
  | updateNas role id body =>
      have hquiet := quiet_updateNas host role id body
      obtain ⟨hchecks, hedited, -⟩ := (hquiet _ _).mp hrun
      exact remembered_iff_of_nas hquiet ⟨fun _ _ => rfl, fun _ => rfl⟩ hedited fun _ => hchecks
  | deleteNas role id =>
      have hquiet := quiet_deleteNas host role id
      obtain ⟨hchecks, hedited, -⟩ := (hquiet _ _).mp hrun
      exact remembered_iff_of_nas hquiet ⟨fun _ _ => rfl, fun _ => rfl⟩ hedited fun _ => hchecks
  | importNas role rows =>
      have hquiet := quiet_importNas host role rows
      obtain ⟨hchecks, hedited, -⟩ := (hquiet _ _).mp hrun
      exact remembered_iff_of_nas hquiet ⟨fun _ _ => rfl, fun _ => rfl⟩ hedited fun _ => hchecks
  | updateUser role digest id body =>
      exact hsafe (remembered_updateUser host role digest id body) fun _ h => h
  | updateDevice role id body => exact hsafe (remembered_updateDevice host role id body) fun _ h => h
  | importDevices role rows => exact hsafe (remembered_importDevices host role rows) fun _ h => h
  | revokeGuest role id => exact hsafe (remembered_revokeGuest host role id) fun _ h => h
  | portalRegister withinLimit form =>
      exact hsafe (remembered_portalRegister host withinLimit form) fun _ h => h
  | createGroup role body => exact hsafe (remembered_createGroup host role body) fun _ h => h
  | _ => exact hsafe (remembered_of_loud host trivial) fun _ h => h

/-! The access switch of the office gets another name while the phone is on it. -/

def officeHost : Host where
  platform := officePlatform
  str _ := ""
  now := 63850334400000000
  rules := ⟨8, fun _ => none⟩
  portal := {}

def renameSwitch : Mutation :=
  .updateNas .superuser 1 { name := some "sw2" }

def officeSessions : Database :=
  ⟨sessionTables true, by decide⟩

theorem renamed_consistent :
    ((sessionTables true).withNas ((sessionTables true).nasClients.map fun nas =>
      if nas.id = 1 then NasUpdate.apply { name := some "sw2" } nas else nas)).Consistent := by
  decide

theorem renameSwitch_quiet :
    QuietRoute officeHost renameSwitch
      (fun t => require .superuser .superuser = .ok () ∧
        ∃ nas, t.nasClients.find? (fun nas => nas.id = 1) = some nas)
      (fun t => t.withNas (t.nasClients.map fun nas =>
        if nas.id = 1 then NasUpdate.apply { name := some "sw2" } nas else nas)) :=
  quiet_updateNas officeHost .superuser 1 { name := some "sw2" }

theorem renameSwitch_returns : Returns (renameSwitch.run officeHost officeSessions) :=
  ⟨_, (renameSwitch_quiet officeSessions _).mpr ⟨⟨rfl, sessionSwitch true, rfl⟩, renamed_consistent,
    rfl⟩⟩

/-- A list with the old name lets the phone in before, and not after. -/
theorem renameSwitch_shows :
    NasShows (sessionTables true) phoneSession ((sessionTables true).nasClients.map fun nas =>
      if nas.id = 1 then NasUpdate.apply { name := some "sw2" } nas else nas) := by
  refine ⟨.mab, sessionSwitch true, { sessionSwitch true with name := "sw2" }, rfl,
    ⟨⟨[sessionSwitch true], []⟩, rfl, rfl⟩, ⟨⟨[{ sessionSwitch true with name := "sw2" }], []⟩, rfl, rfl⟩,
    ?_, ?_⟩
  · rintro (⟨hmab, -⟩ | ⟨device, hdevice, -, hblocked⟩)
    · exact hmab rfl
    · cases List.mem_singleton.mp hdevice
      cases hblocked
  · intro halike
    obtain ⟨name, hname, htext⟩ := (halike ⟨"sw1", by decide⟩).mp ⟨"sw1", rfl, rfl⟩
    cases hname
    exact absurd htext (by decide)

theorem edits_remembered_iff_renameSwitch :
    Returns (renameSwitch.run officeHost officeSessions) ∧
      ¬ ∀ (policies : List Policy) (h : { officeSessions.val with policies }.Consistent),
        Remembered officeHost (officeSessions.withPolicies policies h) renameSwitch := by
  refine ⟨renameSwitch_returns, fun hall => ?_⟩
  obtain ⟨outcome, hrun⟩ := renameSwitch_returns
  exact (edits_remembered_iff officeHost officeSessions renameSwitch outcome hrun).mp hall phoneSession
    (List.mem_singleton_self _) renameSwitch_shows

/-- Renaming a switch that a policy names changes the decision of its sessions, and schedules
nothing. -/
theorem renameSwitch_forgotten :
    ¬ ∀ (host : Host) (db : Database) (mutation : Mutation), Remembered host db mutation := by
  intro hall
  have hiff := @remembered_iff_of_nas officeHost renameSwitch _ officeSessions _ renameSwitch_quiet
    ⟨fun _ _ => rfl, fun _ => rfl⟩ renamed_consistent fun _ => ⟨rfl, sessionSwitch true, rfl⟩
  exact hiff.mp (fun _ _ => hall _ _ _) phoneSession (List.mem_singleton_self _) renameSwitch_shows

end Naco
