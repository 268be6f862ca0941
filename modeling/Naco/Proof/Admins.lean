import Naco.Lib.EventLoop
import Naco.Lib.Rows
import Naco.Proof.Routes
import Naco.Routes.Admins

/-!
# What requests do to administrators

Every request changes the table of administrators in its last step only, and only if it succeeds. What
it can do then is said once, by `AdminEffect`: with the states it read before, the state it commits on,
and the tables it leaves.
-/

namespace Naco

open Py

/-! ### Rows -/

theorem AdminTables.commit_eq_ok {t : AdminTables} {db : AdminDb} (h : t.commit = .ok db) :
    db.val = t := by
  unfold AdminTables.commit at h
  split at h
  · cases h
    rfl
  · cases h

theorem AdminTables.admin?_eq_some {t : AdminTables} {id : Nat} {admin : AdminUser}
    (h : t.admin? id = some admin) : admin ∈ t.admins ∧ admin.id = id :=
  ⟨List.mem_of_find?_eq_some h, by simpa using List.find?_some h⟩

theorem refresh_eq_ok_iff {t : AdminTables} {id : Nat} {admin : AdminUser} :
    refresh t id = .ok admin ↔ t.admin? id = some admin := by
  unfold refresh
  cases t.admin? id <;> simp

/-! ### The matching step -/

theorem firstMatching_eq_some {otp : Totp.GenerateOtp} {secret code : String} {lastStep : Option Int}
    {candidates : List Int} {step : Int}
    (h : Totp.firstMatching otp secret code lastStep candidates = .ok (some step)) :
    ∀ last ∈ lastStep, last < step := by
  induction candidates with
  | nil => cases h
  | cons candidate candidates ih =>
      unfold Totp.firstMatching at h
      split at h
      · exact ih h
      · next hnewer =>
          obtain ⟨same, -, h⟩ := bind_eq_ok_iff.mp h
          split at h
          · obtain rfl : candidate = step := Option.some_inj.mp (Except.ok.inj h)
            intro last hlast
            obtain rfl := Option.mem_def.mp hlast
            simpa using hnewer
          · exact ih h

/-- A step is accepted only if it is newer than the last one. -/
theorem matchCode_eq_some {otp : Totp.GenerateOtp} {secret code : String} {lastStep : Option Int}
    {now : ClockReading} {step : Int}
    (h : Totp.matchCode otp secret code lastStep now = .ok (some step)) :
    ∀ last ∈ lastStep, last < step := by
  unfold Totp.matchCode at h
  dsimp only at h
  split at h
  · cases h
  · exact firstMatching_eq_some h

/-! ### Effects -/

/-- The factor that a sign-in uses up, and the row it leaves. -/
def UsesFactor (admin changed : AdminUser) : Option Factor → Prop
  | none => admin.secret = none ∧ changed = admin
  | some (.step id secret step) =>
      id = admin.id ∧ admin.secret = some secret ∧ (∀ last ∈ admin.totpLastStep, last < step) ∧
        changed = { admin with totpLastStep := some step }
  | some (.recoveryCode id hashed) =>
      id = admin.id ∧ hashed ∈ admin.recoveryCodes ∧
        changed = { admin with recoveryCodes := admin.recoveryCodes.filter (· ≠ hashed) }

/-- The request was sent by this principal, as one of the states it saw has it. -/
def SentBy (platform : AdminPlatform) (headers : Headers) (seen : List AdminWorld)
    (principal : Principal) : Prop :=
  ∃ first ∈ seen, (findPrincipal platform headers first.db.val first.now.utc).1 = .ok principal

/-- The request read its own account, and the password it was sent matches the hash it read. -/
structure ReadsOwn (platform : AdminPlatform) (headers : Headers) (seen : List AdminWorld)
    (principal : Principal) (password : String) (read : AdminWorld) (found : AdminUser) : Prop where
  sent : SentBy platform headers seen principal
  mem : read ∈ seen
  own : ownAdmin read.db.val principal = .ok found
  verified : verifyPassword platform.bcrypt password (some found.passwordHash) = true

/-- What a request that succeeds does to the tables. -/
inductive AdminEffect (platform : AdminPlatform) (seen : List AdminWorld) (world : AdminWorld) :
    AdminRequest → AdminAnswer → AdminTables → Prop
  | login {headers : Headers} {body : LoginIn} {draw : SessionDraw} {read : AdminWorld}
      {found admin changed : AdminUser} {signIn : SignIn} {session : AdminSession}
      (hread : read ∈ seen) (hfound : read.admins.find? (·.username = body.name) = some found)
      (hverified : verifyPassword platform.bcrypt body.password (some found.passwordHash) = true)
      (hadmin : world.db.val.admin? found.id = some admin)
      (hfactor : UsesFactor admin changed signIn.factor) (hsignIn : signIn.adminId = found.id)
      (hsession : session.adminId = found.id) :
      AdminEffect platform seen world (.login headers body draw)
        { signIn := some signIn, factor := signIn.factor }
        { world.db.val.withAdmin changed with sessions := world.db.val.sessions ++ [session] }
  | changePassword {headers : Headers} {body : PasswordIn} {digest : String} {principal : Principal}
      {read : AdminWorld} {found admin : AdminUser}
      (hread : ReadsOwn platform headers seen principal body.currentPassword read found)
      (hadmin : world.db.val.admin? found.id = some admin) :
      AdminEffect platform seen world (.changePassword headers body digest) {}
        ((world.db.val.withAdmin
          { admin with passwordHash := digest, mustChangePassword := false }).revokeAll found.id
            principal.sessionId)
  | totpSetup {headers : Headers} {password secret : String} {principal : Principal}
      {read : AdminWorld} {found admin : AdminUser}
      (hread : ReadsOwn platform headers seen principal password read found)
      (hadmin : world.db.val.admin? found.id = some admin) (hnone : admin.secret = none) :
      AdminEffect platform seen world (.totpSetup headers password secret) {}
        (world.db.val.withAdmin { admin with totpPendingSecret := some secret })
  | totpConfirm {headers : Headers} {code : String} {hashes : List String} {principal : Principal}
      {admin : AdminUser} {id : Nat} {pending : String} {step : Int}
      (hadmin : world.db.val.admin? id = some admin) (hpending : admin.pendingSecret = some pending) :
      AdminEffect platform seen world (.totpConfirm headers code hashes)
        { factor := some (.step id pending step) }
        ((world.db.val.withAdmin { admin with
          totpSecret := some pending, totpPendingSecret := none, totpLastStep := some step,
          recoveryCodes := hashes }).revokeAll id principal.sessionId)
  | totpDisable {headers : Headers} {password code : String} {principal : Principal}
      {read : AdminWorld} {found admin : AdminUser} {secret : String} {step : Int}
      (hread : ReadsOwn platform headers seen principal password read found)
      (hadmin : world.db.val.admin? found.id = some admin) (hsecret : admin.secret = some secret)
      (hnewer : ∀ last ∈ admin.totpLastStep, last < step) :
      AdminEffect platform seen world (.totpDisable headers password code)
        { factor := some (.step found.id secret step) }
        ((world.db.val.withAdmin admin.withoutTotp).revokeAll found.id principal.sessionId)
  | createAdmin {headers : Headers} {body : AdminCreate} {digest : String} :
      AdminEffect platform seen world (.createAdmin headers body digest) {}
        { world.db.val with
          admins := world.admins ++ [
            { id := nextId (world.admins.map (·.id)), username := body.username, passwordHash := digest,
              role := body.role }] }
  | updateAdmin {headers : Headers} {id : Nat} {body : AdminUpdate} {admin : AdminUser}
      {sessions : List AdminSession} (hadmin : world.db.val.admin? id = some admin)
      (hother : admin.role = .superuser →
        (body.apply admin).role = .superuser ∧ (body.apply admin).enabled = true ∨
          0 < otherSuperusers world.db.val id) :
      AdminEffect platform seen world (.updateAdmin headers id body) {}
        { world.db.val.withAdmin (body.apply admin) with sessions }
  | resetAdminPassword {headers : Headers} {id : Nat} {digest : String} {admin : AdminUser}
      (hadmin : world.db.val.admin? id = some admin) :
      AdminEffect platform seen world (.resetAdminPassword headers id digest) {}
        ((world.db.val.withAdmin
          { admin with passwordHash := digest, mustChangePassword := true }).revokeAll id)
  | resetAdminTotp {headers : Headers} {id : Nat} {admin : AdminUser}
      (hadmin : world.db.val.admin? id = some admin) :
      AdminEffect platform seen world (.resetAdminTotp headers id) {}
        ((world.db.val.withAdmin { admin.withoutTotp with totpPendingSecret := none }).revokeAll id)
  | deleteAdmin {headers : Headers} {id : Nat} {admin : AdminUser}
      (hadmin : world.db.val.admin? id = some admin)
      (hother : admin.role = .superuser → admin.enabled = true →
        0 < otherSuperusers world.db.val id) :
      AdminEffect platform seen world (.deleteAdmin headers id) {}
        ({ world.db.val with admins := deleteRow world.admins (·.id) id }.revokeAll id)
  | ctlResetPassword {username digest : String} {admin : AdminUser}
      (hadmin : world.admins.find? (·.username = lower username) = some admin) :
      AdminEffect platform seen world (.ctlResetPassword username digest) {}
        ((world.db.val.withAdmin { admin with
          passwordHash := digest, mustChangePassword := true, enabled := true }).revokeAll admin.id)
  | ctlResetTotp {username : String} {admin : AdminUser}
      (hadmin : world.admins.find? (·.username = lower username) = some admin) :
      AdminEffect platform seen world (.ctlResetTotp username) {}
        ((world.db.val.withAdmin { admin.withoutTotp with totpPendingSecret := none }).revokeAll
          admin.id)

/-- A step before the last. -/
def KeepsAdmins (world world' : AdminWorld) : Prop :=
  world'.admins = world.admins

/-- How a request ends: a request that fails leaves the administrators as they are. -/
def AdminEnds (platform : AdminPlatform) (request : AdminRequest) (seen : List AdminWorld)
    (world : AdminWorld) (result : Except RouteError AdminAnswer) (world' : AdminWorld) : Prop :=
  match result with
  | .error error => KeepsAdmins world world' ∧ (error = .refused lastSuperuser → world' = world)
  | .ok answer => AdminEffect platform seen world request answer world'.db.val

/-! ### The first step of a route -/

theorem admins_resolveSession (platform : AdminPlatform) (t : AdminTables) (now : Int)
    (raw : Option String) : (resolveSession platform t now raw).2.admins = t.admins := by
  unfold resolveSession
  split
  · rfl
  · split
    · rfl
    · split
      · rfl
      · dsimp only
        split
        · rfl
        · split <;> rfl

theorem admins_tokenPrincipal {platform : AdminPlatform} {t t' : AdminTables} {now : Int}
    {raw ip : String} {principal : Principal}
    (h : tokenPrincipal platform t now raw ip = .ok (principal, t')) : t'.admins = t.admins := by
  unfold tokenPrincipal at h
  split at h
  · cases h
  · split at h
    · cases h
    · split at h
      · cases h
      · dsimp only at h
        obtain ⟨-, rfl⟩ := Prod.mk.inj (Except.ok.inj h)
        split <;> rfl

theorem admins_findPrincipal (platform : AdminPlatform) (headers : Headers) (t : AdminTables)
    (now : Int) : (findPrincipal platform headers t now).2.admins = t.admins := by
  have hresolve := admins_resolveSession platform t now headers.cookie
  unfold findPrincipal
  dsimp only
  split
  · split
    · next hok => exact admins_tokenPrincipal hok
    · rfl
  · split
    · next hresolved =>
        rw [hresolved] at hresolve
        exact hresolve
    · next hresolved =>
        rw [hresolved] at hresolve
        split
        · exact hresolve
        · rfl

theorem apiError_ne_lastSuperuser {α : Type} {status : Nat} (hstatus : status ≠ 409) (detail : String) :
    (apiError status detail : Except RouteError α) ≠ .error (.refused lastSuperuser) := by
  intro h
  injection h with h
  injection h with h
  exact hstatus (congrArg ApiError.status h)

theorem bind_ne_lastSuperuser {α β : Type} {x : Except RouteError α} {f : α → Except RouteError β}
    (hx : x ≠ .error (.refused lastSuperuser)) (hf : ∀ a, f a ≠ .error (.refused lastSuperuser)) :
    x >>= f ≠ .error (.refused lastSuperuser) := by
  cases x with
  | error error =>
      intro h
      refine hx ?_
      rw [Except.error.inj h]
  | ok a => exact hf a

theorem ok_ne_lastSuperuser {α : Type} (a : α) :
    (.ok a : Except RouteError α) ≠ .error (.refused lastSuperuser) :=
  fun h => by cases h

theorem checkSameOrigin_ne_lastSuperuser (headers : Headers) :
    checkSameOrigin headers ≠ .error (.refused lastSuperuser) := by
  unfold checkSameOrigin
  split
  · exact apiError_ne_lastSuperuser (by decide) _
  · split
    · exact apiError_ne_lastSuperuser (by decide) _
    · exact ok_ne_lastSuperuser ()

theorem sessionPrincipal_ne_lastSuperuser (platform : AdminPlatform) (headers : Headers)
    (session : AdminSession) (admin : AdminUser) :
    sessionPrincipal platform headers session admin ≠ .error (.refused lastSuperuser) := by
  unfold sessionPrincipal
  split
  · split
    · exact apiError_ne_lastSuperuser (by decide) _
    · refine bind_ne_lastSuperuser (checkSameOrigin_ne_lastSuperuser headers) fun _ => ?_
      exact ok_ne_lastSuperuser _
  · exact ok_ne_lastSuperuser _

theorem tokenPrincipal_ne_lastSuperuser (platform : AdminPlatform) (t : AdminTables) (now : Int)
    (raw ip : String) : tokenPrincipal platform t now raw ip ≠ .error (.refused lastSuperuser) := by
  unfold tokenPrincipal
  split
  · exact apiError_ne_lastSuperuser (by decide) _
  · split
    · exact apiError_ne_lastSuperuser (by decide) _
    · split
      · exact apiError_ne_lastSuperuser (by decide) _
      · exact ok_ne_lastSuperuser _

/-- Callers are refused with status 401 or 403. -/
theorem findPrincipal_ne_lastSuperuser (platform : AdminPlatform) (headers : Headers) (t : AdminTables)
    (now : Int) : (findPrincipal platform headers t now).1 ≠ .error (.refused lastSuperuser) := by
  unfold findPrincipal
  dsimp only
  split
  · split
    · exact ok_ne_lastSuperuser _
    · next error herror =>
        intro h
        rw [Except.error.inj h] at herror
        exact tokenPrincipal_ne_lastSuperuser _ _ _ _ _ herror
  · split
    · exact apiError_ne_lastSuperuser (by decide) _
    · split
      · exact ok_ne_lastSuperuser _
      · next error herror =>
          intro h
          rw [Except.error.inj h] at herror
          exact sessionPrincipal_ne_lastSuperuser _ _ _ _ herror

theorem checkPrincipal_ne_lastSuperuser (required : AdminRole) (setupAllowed : Bool)
    (principal : Principal) :
    checkPrincipal required setupAllowed principal ≠ .error (.refused lastSuperuser) := by
  have hrole : (do require principal.role required; return principal : Except RouteError Principal) ≠
      .error (.refused lastSuperuser) := by
    refine bind_ne_lastSuperuser ?_ fun _ => ok_ne_lastSuperuser _
    unfold require
    split
    · exact ok_ne_lastSuperuser ()
    · exact apiError_ne_lastSuperuser (by decide) _
  unfold checkPrincipal
  split
  · split
    · exact apiError_ne_lastSuperuser (by decide) _
    · exact hrole
  · exact hrole

theorem checkPrincipal_eq_ok {required : AdminRole} {setupAllowed : Bool} {principal checked : Principal}
    (h : checkPrincipal required setupAllowed principal = .ok checked) : checked = principal := by
  have hrole (hok : (do require principal.role required; return principal : Except RouteError Principal) =
      .ok checked) : checked = principal := by
    obtain ⟨-, -, hok⟩ := bind_eq_ok_iff.mp hok
    exact (Except.ok.inj hok).symm
  unfold checkPrincipal at h
  split at h
  · split at h
    · cases h
    · exact hrole h
  · exact hrole h

/-! ### The steps -/

/-- `AdminEnds` for a route whose result is turned into an answer. -/
def EndsAs {α : Type} (platform : AdminPlatform) (request : AdminRequest) (f : α → AdminAnswer)
    (seen : List AdminWorld) (world : AdminWorld) (result : Except RouteError α)
    (world' : AdminWorld) : Prop :=
  AdminEnds platform request seen world (result.map f) world'

section

variable {α : Type} {platform : AdminPlatform} {request : AdminRequest} {f : α → AdminAnswer}
  {seen : List AdminWorld}

theorem endsAs_error {world world' : AdminWorld} {error : RouteError} (h : KeepsAdmins world world')
    (hlast : error ≠ .refused lastSuperuser) : EndsAs platform request f seen world (.error error) world' :=
  ⟨h, fun heq => absurd heq hlast⟩

theorem endsAs_rollback {world : AdminWorld} (error : RouteError) :
    EndsAs platform request f seen world (.error error) world :=
  ⟨rfl, fun _ => rfl⟩

theorem conforms_adminTransaction {route : AdminWorld → Except RouteError (α × AdminTables)}
    (h : ∀ world answer t, route world = .ok (answer, t) →
      AdminEffect platform seen world request (f answer) t) :
    (adminTransaction route).Conforms KeepsAdmins (EndsAs platform request f) seen := by
  refine Coroutine.conforms_atomic fun world => ?_
  cases hroute : route world with
  | error error => exact endsAs_rollback error
  | ok done =>
      obtain ⟨answer, t⟩ := done
      dsimp only
      cases hcommit : t.commit with
      | error error => exact endsAs_rollback (.raised error)
      | ok db =>
          have heffect := h world answer t hroute
          rw [← AdminTables.commit_eq_ok hcommit] at heffect
          exact heffect

/-- The step that finds the caller. -/
theorem requireRole_eq_atomic (platform : AdminPlatform) (required : AdminRole) (headers : Headers)
    (setupAllowed : Bool) :
    ∃ g, requireRole platform required headers setupAllowed = Coroutine.atomic g ∧
      (∀ world, KeepsAdmins world (g world).2) ∧
      (∀ world, (g world).1 ≠ .error (.refused lastSuperuser)) ∧
      ∀ world principal, (g world).1 = .ok principal →
        (findPrincipal platform headers world.db.val world.now.utc).1 = .ok principal := by
  refine ⟨_, Coroutine.atomic_bind_pure _ _, ?_, ?_, ?_⟩
  · intro world
    have hadmins := admins_findPrincipal platform headers world.db.val world.now.utc
    generalize findPrincipal platform headers world.db.val world.now.utc = found at hadmins ⊢
    obtain ⟨answer, t⟩ := found
    dsimp only at hadmins ⊢
    cases hcommit : t.commit with
    | error error => rfl
    | ok db =>
        obtain rfl := AdminTables.commit_eq_ok hcommit
        exact hadmins
  · intro world
    have hne := findPrincipal_ne_lastSuperuser platform headers world.db.val world.now.utc
    generalize findPrincipal platform headers world.db.val world.now.utc = found at hne ⊢
    obtain ⟨answer, t⟩ := found
    dsimp only at hne ⊢
    cases t.commit with
    | error error =>
        intro h
        cases h
    | ok db =>
        exact bind_ne_lastSuperuser hne fun _ => checkPrincipal_ne_lastSuperuser _ _ _
  · intro world principal h
    generalize findPrincipal platform headers world.db.val world.now.utc = found at h ⊢
    obtain ⟨answer, t⟩ := found
    dsimp only at h ⊢
    cases hcommit : t.commit with
    | error error =>
        rw [hcommit] at h
        cases h
    | ok db =>
        rw [hcommit] at h
        obtain ⟨found, hfound, hchecked⟩ := bind_eq_ok_iff.mp h
        rw [checkPrincipal_eq_ok hchecked]
        exact hfound

/-- The step that finds the caller, before a route that goes on with steps of its own. -/
theorem conforms_requireRole {required : AdminRole} {headers : Headers} {setupAllowed : Bool}
    {route : Principal → Coroutine AdminWorld (Except RouteError α)}
    (hstep : ∀ principal result, route principal ≠ .done result)
    (hroute : ∀ world principal,
      (findPrincipal platform headers world.db.val world.now.utc).1 = .ok principal →
        (route principal).Conforms KeepsAdmins (EndsAs platform request f) (world :: seen)) :
    ((requireRole platform required headers setupAllowed).andThen route).Conforms KeepsAdmins
      (EndsAs platform request f) seen := by
  obtain ⟨g, hg, hkeeps, hne, hok⟩ := requireRole_eq_atomic platform required headers setupAllowed
  rw [hg]
  refine Coroutine.conforms_atomic_andThen ?_ ?_
  · intro world error herror
    refine endsAs_error (hkeeps world) ?_
    rintro rfl
    exact hne world herror
  · intro world principal hprincipal
    have hrest := hroute world principal (hok world principal hprincipal)
    cases hcase : route principal with
    | done result => exact absurd hcase (hstep principal result)
    | step update next =>
        rw [hcase] at hrest
        exact ⟨hkeeps world, hrest⟩

theorem adminTransaction_ne_done {route : AdminWorld → Except RouteError (α × AdminTables)}
    (result : Except RouteError α) : adminTransaction route ≠ .done result := by
  intro h
  cases h

/-- A route that is one transaction after the caller is found. -/
theorem conforms_transaction {required : AdminRole} {headers : Headers} {setupAllowed : Bool}
    {route : Principal → AdminWorld → Except RouteError (α × AdminTables)}
    (h : ∀ seen principal world answer t, route principal world = .ok (answer, t) →
      AdminEffect platform seen world request (f answer) t) :
    ((requireRole platform required headers setupAllowed).andThen fun principal =>
      adminTransaction (route principal)).Conforms KeepsAdmins (EndsAs platform request f) seen :=
  conforms_requireRole (fun _ => adminTransaction_ne_done) fun _ principal _ =>
    conforms_adminTransaction (h _ principal)

end

/-! ### Sign-in -/

section

variable {platform : AdminPlatform} {headers : Headers} {body : LoginIn} {draw : SessionDraw}

/-- What `login` answers. -/
def LoginIn.answer (signIn : SignIn) : AdminAnswer :=
  { signIn := some signIn, factor := signIn.factor }

abbrev EndsLogin (platform : AdminPlatform) (headers : Headers) (body : LoginIn) (draw : SessionDraw) :=
  EndsAs platform (.login headers body draw) LoginIn.answer

theorem loginGate_spec (headers : Headers) (body : LoginIn) (world : AdminWorld) :
    (loginGate headers body world).2.db = world.db ∧
      (loginGate headers body world).1 ≠ .error (.refused lastSuperuser) := by
  unfold loginGate
  split
  · exact ⟨rfl, apiError_ne_lastSuperuser (by decide) _⟩
  · cases hsame : checkSameOrigin headers with
    | error error =>
        refine ⟨rfl, fun h => checkSameOrigin_ne_lastSuperuser headers ?_⟩
        rw [hsame]
        exact h
    | ok checked =>
        dsimp only
        split
        · exact ⟨rfl, apiError_ne_lastSuperuser (by decide) _⟩
        · split
          · exact ⟨rfl, apiError_ne_lastSuperuser (by decide) _⟩
          · exact ⟨rfl, ok_ne_lastSuperuser ()⟩

theorem failLogin_spec {α : Type} (name ip : String) (world : AdminWorld) :
    (failLogin (α := α) name ip world).2.db = world.db ∧
      ∃ error, (failLogin (α := α) name ip world).1 = .error error ∧
        error ≠ .refused lastSuperuser := by
  unfold failLogin
  dsimp only
  split
  · refine ⟨rfl, _, rfl, ?_⟩
    intro h
    injection h with h
    cases congrArg ApiError.status h
  · exact ⟨rfl, _, rfl, nofun⟩

theorem grantLogin_cases (platform : AdminPlatform) (name ip : String) (draw : SessionDraw)
    (admin : AdminUser) (factor : Option Factor) (world : AdminWorld) :
    (∃ error, (grantLogin platform name ip draw admin factor world).1 = .error (.raised error) ∧
        (grantLogin platform name ip draw admin factor world).2.db = world.db) ∨
      ∃ signIn session, (grantLogin platform name ip draw admin factor world).1 = .ok signIn ∧
        signIn.adminId = admin.id ∧ signIn.factor = factor ∧ session.adminId = admin.id ∧
        (grantLogin platform name ip draw admin factor world).2.db.val =
          { world.db.val.withAdmin admin with sessions := world.db.val.sessions ++ [session] } := by
  unfold grantLogin
  dsimp only
  split
  · exact .inl ⟨_, rfl, rfl⟩
  · next hcommit =>
      exact .inr ⟨_, _, rfl, rfl, rfl, rfl, AdminTables.commit_eq_ok hcommit⟩

theorem endsLogin_failLogin (seen : List AdminWorld) (world : AdminWorld) (name ip : String) :
    EndsLogin platform headers body draw seen world (failLogin name ip world).1
      (failLogin (α := SignIn) name ip world).2 := by
  obtain ⟨hdb, error, herror, hne⟩ := failLogin_spec (α := SignIn) name ip world
  rw [herror]
  refine endsAs_error ?_ hne
  simp only [KeepsAdmins, AdminWorld.admins, hdb]

/-- The sign-in of the account that was read, with a password that matched. -/
structure ReadsAccount (platform : AdminPlatform) (body : LoginIn) (seen : List AdminWorld)
    (found : AdminUser) (read : AdminWorld) : Prop where
  mem : read ∈ seen
  account : read.admins.find? (·.username = body.name) = some found
  verified : verifyPassword platform.bcrypt body.password (some found.passwordHash) = true

theorem endsLogin_grantLogin {seen : List AdminWorld} {world read : AdminWorld}
    {found admin changed : AdminUser} {factor : Option Factor} (ip : String)
    (hread : ReadsAccount platform body seen found read)
    (hadmin : world.db.val.admin? found.id = some admin)
    (hfactor : UsesFactor admin changed factor) (hid : changed.id = admin.id) :
    EndsLogin platform headers body draw seen world
      (grantLogin platform body.name ip draw changed factor world).1
      (grantLogin platform body.name ip draw changed factor world).2 := by
  have hchanged : changed.id = found.id := hid.trans (AdminTables.admin?_eq_some hadmin).2
  rcases grantLogin_cases platform body.name ip draw changed factor world with
    ⟨error, herror, hdb⟩ | ⟨signIn, session, hok, hsignIn, rfl, hsession, hdb⟩
  · rw [herror]
    refine endsAs_error ?_ nofun
    simp only [KeepsAdmins, AdminWorld.admins, hdb]
  · rw [hok]
    change AdminEffect _ _ _ _ _ _
    rw [hdb]
    exact .login hread.mem hread.account hread.verified hadmin hfactor (hsignIn.trans hchanged)
      (hsession.trans hchanged)

theorem endsLogin_spendRecoveryCode {seen : List AdminWorld} {world read : AdminWorld}
    {found : AdminUser} (ip used : String) (hread : ReadsAccount platform body seen found read) :
    EndsLogin platform headers body draw seen world
      (spendRecoveryCode platform ip body draw found.id used world).1
      (spendRecoveryCode platform ip body draw found.id used world).2 := by
  unfold spendRecoveryCode
  cases hadmin : refresh world.db.val found.id with
  | error error => exact endsAs_rollback error
  | ok admin =>
      rw [refresh_eq_ok_iff] at hadmin
      dsimp only
      split
      · next hused => exact endsLogin_grantLogin ip hread hadmin ⟨rfl, hused, rfl⟩ rfl
      · exact endsLogin_failLogin seen world body.name ip

/-- The first transaction of `_second_factor` either ends the sign-in or changes nothing. -/
def EndsFactor (platform : AdminPlatform) (headers : Headers) (body : LoginIn) (draw : SessionDraw)
    (seen : List AdminWorld) (world : AdminWorld) : SecondFactor × AdminWorld → Prop
  | (.answered answer, world') => EndsLogin platform headers body draw seen world answer world'
  | (.candidates _, world') => world' = world

theorem endsFactor_answered {seen : List AdminWorld} {world : AdminWorld}
    {done : Except RouteError SignIn × AdminWorld}
    (h : EndsLogin platform headers body draw seen world done.1 done.2) :
    EndsFactor platform headers body draw seen world
      (Prod.map SecondFactor.answered (fun world : AdminWorld => world) done) :=
  h

theorem endsFactor_checkSecondFactor {seen : List AdminWorld} {read : AdminWorld} {found : AdminUser}
    (ip : String) (hread : ReadsAccount platform body seen found read) (world : AdminWorld) :
    EndsFactor platform headers body draw seen world
      (checkSecondFactor platform ip body draw found.id world) := by
  have hfail : EndsFactor platform headers body draw seen world
      (Prod.map SecondFactor.answered (fun world : AdminWorld => world)
        (failLogin body.name ip world)) :=
    endsFactor_answered (endsLogin_failLogin seen world body.name ip)
  unfold checkSecondFactor
  dsimp only
  generalize Totp.looksLikeRecoveryCode body.totpCode = looks
  cases hadmin : refresh world.db.val found.id with
  | error error => exact endsAs_rollback error
  | ok admin =>
      rw [refresh_eq_ok_iff] at hadmin
      dsimp only
      split
      · exact hfail
      · cases hsecret : admin.secret with
        | none =>
            have hfactor : UsesFactor admin admin none := ⟨hsecret, rfl⟩
            exact endsFactor_answered (endsLogin_grantLogin ip hread hadmin hfactor rfl)
        | some secret =>
            dsimp only
            cases hmatch : Totp.matchCode platform.otp secret body.totpCode admin.totpLastStep world.now with
            | error error =>
                have hends : EndsLogin platform headers body draw seen world (.error (.raised error))
                    world := endsAs_rollback _
                exact hends
            | ok step =>
                cases step with
                | some step =>
                    have hfactor : UsesFactor admin { admin with totpLastStep := some step }
                        (some (.step admin.id secret step)) :=
                      ⟨rfl, hsecret, matchCode_eq_some hmatch, rfl⟩
                    exact endsFactor_answered (endsLogin_grantLogin ip hread hadmin hfactor rfl)
                | none =>
                    cases looks with
                    | true => exact rfl
                    | false => exact hfail

theorem ReadsAccount.cons {seen : List AdminWorld} {found : AdminUser} {read : AdminWorld}
    (h : ReadsAccount platform body seen found read) (world : AdminWorld) :
    ReadsAccount platform body (world :: seen) found read :=
  { h with mem := List.mem_cons_of_mem _ h.mem }

theorem conforms_failLogin (seen : List AdminWorld) (name ip : String) :
    (Coroutine.atomic (failLogin name ip)).Conforms KeepsAdmins (EndsLogin platform headers body draw)
      seen :=
  Coroutine.conforms_atomic fun world => endsLogin_failLogin seen world name ip

theorem conforms_signInWithFactor {seen : List AdminWorld} {found : AdminUser} {read : AdminWorld}
    (ip : String) (hread : ReadsAccount platform body seen found read) :
    (signInWithFactor platform ip body draw found.id).Conforms KeepsAdmins
      (EndsLogin platform headers body draw) seen := by
  refine Coroutine.conforms_atomic_bind fun world => ?_
  have hends : EndsFactor platform headers body draw seen world
      (checkSecondFactor platform ip body draw found.id world) :=
    endsFactor_checkSecondFactor ip hread world
  generalize checkSecondFactor platform ip body draw found.id world = done at hends ⊢
  obtain ⟨answer | hashes, world'⟩ := done
  · exact hends
  · obtain rfl : world' = world := hends
    dsimp only
    cases hashes.find? fun hashed =>
        verifyPassword platform.bcrypt (lower (strip body.totpCode)) (some hashed) with
    | some used =>
        exact ⟨rfl, Coroutine.conforms_atomic fun world =>
          endsLogin_spendRecoveryCode ip used (hread.cons _)⟩
    | none => exact ⟨rfl, conforms_failLogin _ _ _⟩

theorem conforms_signIn (seen : List AdminWorld) (ip : String) :
    (signIn platform ip body draw).Conforms KeepsAdmins (EndsLogin platform headers body draw) seen := by
  refine Coroutine.conforms_atomic_bind fun world => ?_
  dsimp only
  cases hfound : world.admins.find? (·.username = body.name) with
  | none => exact ⟨rfl, conforms_failLogin _ _ _⟩
  | some found =>
      dsimp only
      cases hverified : verifyPassword platform.bcrypt body.password (some found.passwordHash) with
      | false => exact ⟨rfl, conforms_failLogin _ _ _⟩
      | true =>
          cases found.enabled with
          | false => exact ⟨rfl, conforms_failLogin _ _ _⟩
          | true =>
              have hread : ReadsAccount platform body (world :: seen) found world :=
                ⟨List.mem_cons_self, hfound, hverified⟩
              exact ⟨rfl, conforms_signInWithFactor ip hread⟩

theorem conforms_login :
    (login platform headers body draw).Conforms KeepsAdmins (EndsLogin platform headers body draw)
      [] := by
  refine Coroutine.conforms_atomic_andThen ?_ ?_
  · intro world error herror
    obtain ⟨hdb, hne⟩ := loginGate_spec headers body world
    refine endsAs_error ?_ ?_
    · simp only [KeepsAdmins, AdminWorld.admins, hdb]
    · rintro rfl
      exact hne herror
  · intro world value hok
    obtain ⟨hdb, -⟩ := loginGate_spec headers body world
    refine ⟨?_, conforms_signIn _ _⟩
    simp only [KeepsAdmins, AdminWorld.admins, hdb]

end

/-! ### The other routes -/

section

variable (platform : AdminPlatform) (headers : Headers)

theorem SentBy.cons {platform : AdminPlatform} {headers : Headers} {seen : List AdminWorld}
    {principal : Principal} (h : SentBy platform headers seen principal) (world : AdminWorld) :
    SentBy platform headers (world :: seen) principal := by
  obtain ⟨first, hmem, hfirst⟩ := h
  exact ⟨first, List.mem_cons_of_mem _ hmem, hfirst⟩

theorem ownAdmin_ne_lastSuperuser (t : AdminTables) (principal : Principal) :
    ownAdmin t principal ≠ .error (.refused lastSuperuser) := by
  unfold ownAdmin
  split
  · split
    · exact ok_ne_lastSuperuser _
    · exact apiError_ne_lastSuperuser (by decide) _
  · exact apiError_ne_lastSuperuser (by decide) _

/-- A route on one's own account: the caller is found, the account is read and checked, and what
follows is a transaction or a refusal. -/
theorem conforms_ownRoute {α : Type} {request : AdminRequest} {f : α → AdminAnswer}
    {check : AdminUser → Except RouteError Unit}
    {route : Principal → AdminUser → Coroutine AdminWorld (Except RouteError α)}
    (hcheck : ∀ admin, check admin ≠ .error (.refused lastSuperuser))
    (hroute : ∀ seen world principal found, SentBy platform headers seen principal → world ∈ seen →
      ownAdmin world.db.val principal = .ok found →
      (∃ error, route principal found = .done (.error error) ∧ error ≠ .refused lastSuperuser) ∨
        ∃ transaction, route principal found = adminTransaction transaction ∧
          ∀ world answer t, transaction world = .ok (answer, t) →
            AdminEffect platform seen world request (f answer) t) :
    ((signedIn platform headers).andThen fun principal =>
      (readOwnAdmin principal check).andThen (route principal)).Conforms KeepsAdmins
        (EndsAs platform request f) [] := by
  refine conforms_requireRole ?_ fun first principal hfirst => ?_
  · intro principal result h
    cases h
  have hsent (world : AdminWorld) : SentBy platform headers [world, first] principal :=
    ⟨first, by simp, hfirst⟩
  refine Coroutine.conforms_atomic_andThen ?_ ?_
  · intro world error herror
    refine endsAs_error rfl ?_
    rintro rfl
    refine bind_ne_lastSuperuser (ownAdmin_ne_lastSuperuser world.db.val principal) ?_ herror
    intro admin
    exact bind_ne_lastSuperuser (hcheck admin) fun _ => ok_ne_lastSuperuser _
  · intro world found hfound
    obtain ⟨admin, hown, hadmin⟩ := bind_eq_ok_iff.mp hfound
    obtain ⟨⟨⟩, -, hadmin⟩ := bind_eq_ok_iff.mp hadmin
    obtain rfl : admin = found := Except.ok.inj hadmin
    rcases hroute [world, first] world principal admin (hsent world) (by simp) hown with
      ⟨error, herror, hne⟩ | ⟨transaction, htransaction, heffect⟩
    · rw [herror]
      exact endsAs_error rfl hne
    · rw [htransaction]
      exact ⟨rfl, conforms_adminTransaction heffect⟩

theorem checkPasswordChange_spec (bcrypt : Bcrypt) (body : PasswordIn) (hash : String) :
    (∃ error, checkPasswordChange bcrypt body hash = .error error ∧ error ≠ .refused lastSuperuser) ∨
      checkPasswordChange bcrypt body hash = .ok () ∧
        verifyPassword bcrypt body.currentPassword (some hash) = true := by
  have hrefused {status : Nat} (hstatus : status ≠ 409) (detail : String) :
      ∃ error, (apiError status detail : Except RouteError Unit) = .error error ∧
        error ≠ .refused lastSuperuser := by
    refine ⟨_, rfl, ?_⟩
    intro h
    injection h with h
    exact hstatus (congrArg ApiError.status h)
  unfold checkPasswordChange
  cases verifyPassword bcrypt body.currentPassword (some hash) with
  | false => exact .inl (hrefused (by decide) _)
  | true =>
      simp only [Bool.not_true, Bool.false_eq_true, if_false]
      split
      · exact .inl (hrefused (by decide) _)
      · split
        · exact .inl (hrefused (by decide) _)
        · exact .inr ⟨rfl, trivial⟩

theorem conforms_changePassword (body : PasswordIn) (digest : String) :
    (changePassword platform headers body digest).Conforms KeepsAdmins
      (EndsAs platform (.changePassword headers body digest) fun _ => {}) [] := by
  refine conforms_ownRoute platform headers (fun _ => ok_ne_lastSuperuser ()) ?_
  intro seen world principal found hsent hmem hown
  rcases checkPasswordChange_spec platform.bcrypt body found.passwordHash with
    ⟨error, herror, hne⟩ | ⟨hok, hverified⟩
  · exact .inl ⟨error, by rw [herror]; rfl, hne⟩
  · refine .inr ⟨_, by rw [hok]; rfl, ?_⟩
    intro world' answer t h
    obtain ⟨admin, hadmin, h⟩ := bind_eq_ok_iff.mp h
    obtain ⟨-, rfl⟩ := Prod.mk.inj (Except.ok.inj h)
    exact .changePassword ⟨hsent, hmem, hown, hverified⟩ (refresh_eq_ok_iff.mp hadmin)

theorem conforms_totpSetup (password secret : String) :
    (totpSetup platform headers password secret).Conforms KeepsAdmins
      (EndsAs platform (.totpSetup headers password secret) fun _ => {}) [] := by
  refine conforms_ownRoute platform headers ?_ ?_
  · intro admin
    split
    · exact apiError_ne_lastSuperuser (by decide) _
    · exact ok_ne_lastSuperuser ()
  intro seen world principal found hsent hmem hown
  cases hverified : verifyPassword platform.bcrypt password (some found.passwordHash) with
  | false =>
      refine .inl ⟨_, rfl, ?_⟩
      intro h
      injection h with h
      cases congrArg ApiError.status h
  | true =>
      refine .inr ⟨_, rfl, ?_⟩
      intro world' answer t h
      obtain ⟨admin, hadmin, h⟩ := bind_eq_ok_iff.mp h
      split at h
      · cases h
      · next hnone =>
          obtain ⟨-, rfl⟩ := Prod.mk.inj (Except.ok.inj h)
          exact .totpSetup ⟨hsent, hmem, hown, hverified⟩ (refresh_eq_ok_iff.mp hadmin)
            (by simpa using hnone)

theorem conforms_totpDisable (password code : String) :
    (totpDisable platform headers password code).Conforms KeepsAdmins
      (EndsAs platform (.totpDisable headers password code) fun factor => { factor := some factor })
      [] := by
  refine conforms_ownRoute platform headers ?_ ?_
  · intro admin
    split
    · intro h
      injection h with h
      injection h with h
      exact absurd (congrArg ApiError.detail h) (by decide)
    · exact ok_ne_lastSuperuser ()
  intro seen world principal found hsent hmem hown
  refine .inr ⟨_, rfl, ?_⟩
  intro world' answer t h
  obtain ⟨admin, hadmin, h⟩ := bind_eq_ok_iff.mp h
  cases hsecret : admin.secret with
  | none =>
      rw [hsecret] at h
      cases h
  | some secret =>
      rw [hsecret] at h
      dsimp only at h
      split at h
      · cases h
      · cases h
      · next step hmatch =>
          split at h
          · next hverified =>
              obtain ⟨rfl, rfl⟩ := Prod.mk.inj (Except.ok.inj h)
              exact .totpDisable ⟨hsent, hmem, hown, hverified⟩ (refresh_eq_ok_iff.mp hadmin) hsecret
                (matchCode_eq_some hmatch)
          · cases h

theorem conforms_totpConfirm (code : String) (hashes : List String) :
    (totpConfirm platform headers code hashes).Conforms KeepsAdmins
      (EndsAs platform (.totpConfirm headers code hashes) fun factor => { factor := some factor })
      [] := by
  refine conforms_requireRole ?_ fun first principal hfirst => ?_
  · intro principal result h
    cases h
  refine Coroutine.conforms_atomic_andThen ?_ ?_
  · intro world error herror
    refine endsAs_error rfl ?_
    rintro rfl
    refine bind_ne_lastSuperuser (ownAdmin_ne_lastSuperuser world.db.val principal) ?_ herror
    intro admin
    split
    · intro h
      injection h with h
      injection h with h
      exact absurd (congrArg ApiError.detail h) (by decide)
    · split
      · intro h
        cases h
      · exact apiError_ne_lastSuperuser (by decide) _
      · exact ok_ne_lastSuperuser _
  · rintro world ⟨id, pending, step⟩ hfound
    obtain ⟨admin, hown, hadmin⟩ := bind_eq_ok_iff.mp hfound
    split at hadmin
    · cases hadmin
    next found hpending =>
    split at hadmin
    · cases hadmin
    · cases hadmin
    next found' hmatch =>
    obtain ⟨rfl, rfl, rfl⟩ : admin.id = id ∧ found = pending ∧ found' = step := by
      simpa using Except.ok.inj hadmin
    have hne : found ≠ "" := by
      simpa using (Option.mem_filter_iff.mp (Option.mem_def.mpr hpending)).2
    refine ⟨rfl, conforms_adminTransaction ?_⟩
    intro world' answer t h
    obtain ⟨admin', hadmin', h⟩ := bind_eq_ok_iff.mp h
    split at h
    · cases h
    · next hsame =>
        obtain ⟨rfl, rfl⟩ := Prod.mk.inj (Except.ok.inj h)
        refine .totpConfirm (refresh_eq_ok_iff.mp hadmin') ?_
        simp only [not_not] at hsame
        rw [AdminUser.pendingSecret, hsame]
        simp [hne]

theorem conforms_createAdmin (body : AdminCreate) (digest : String) :
    (createAdmin platform headers body digest).Conforms KeepsAdmins
      (EndsAs platform (.createAdmin headers body digest) fun _ => {}) [] := by
  refine conforms_transaction ?_
  intro seen principal world answer t h
  dsimp only at h
  split at h
  · cases h
  · obtain ⟨-, rfl⟩ := Prod.mk.inj (Except.ok.inj h)
    exact .createAdmin

/-- The administrator a request is about is one of the rows. -/
theorem targetAdmin_eq_ok {t : AdminTables} {principal : Principal} {id : Nat} {admin : AdminUser}
    (h : targetAdmin t principal id = .ok admin) : t.admin? id = some admin := by
  obtain ⟨found, hfound, h⟩ := bind_eq_ok_iff.mp h
  obtain ⟨⟨⟩, -, h⟩ := bind_eq_ok_iff.mp h
  obtain rfl : found = admin := Except.ok.inj h
  exact getOr404_eq_ok_iff.mp hfound

theorem conforms_updateAdmin (id : Nat) (body : AdminUpdate) :
    (updateAdmin platform headers id body).Conforms KeepsAdmins
      (EndsAs platform (.updateAdmin headers id body) fun _ => {}) [] := by
  refine conforms_transaction ?_
  intro seen principal world answer t h
  obtain ⟨admin, hadmin, h⟩ := bind_eq_ok_iff.mp h
  dsimp only at h
  split at h
  · cases h
  · next hkept =>
      obtain ⟨-, rfl⟩ := Prod.mk.inj (Except.ok.inj h)
      have hother : admin.role = .superuser →
          (body.apply admin).role = .superuser ∧ (body.apply admin).enabled = true ∨
            0 < otherSuperusers world.db.val id := by
        intro hrole
        rw [or_iff_not_imp_right]
        intro hnone
        by_contra hlost
        refine hkept ⟨⟨hrole, ?_⟩, by omega⟩
        rcases not_and_or.mp hlost with hrole | henabled
        · exact .inl hrole
        · exact .inr (by simpa using henabled)
      split
      · exact .updateAdmin (targetAdmin_eq_ok hadmin) hother
      · exact .updateAdmin (targetAdmin_eq_ok hadmin) hother

theorem conforms_resetAdminPassword (id : Nat) (digest : String) :
    (resetAdminPassword platform headers id digest).Conforms KeepsAdmins
      (EndsAs platform (.resetAdminPassword headers id digest) fun _ => {}) [] := by
  refine conforms_transaction ?_
  intro seen principal world answer t h
  obtain ⟨admin, hadmin, h⟩ := bind_eq_ok_iff.mp h
  obtain ⟨-, rfl⟩ := Prod.mk.inj (Except.ok.inj h)
  exact .resetAdminPassword (targetAdmin_eq_ok hadmin)

theorem conforms_resetAdminTotp (id : Nat) :
    (resetAdminTotp platform headers id).Conforms KeepsAdmins
      (EndsAs platform (.resetAdminTotp headers id) fun _ => {}) [] := by
  refine conforms_transaction ?_
  intro seen principal world answer t h
  obtain ⟨admin, hadmin, h⟩ := bind_eq_ok_iff.mp h
  obtain ⟨-, rfl⟩ := Prod.mk.inj (Except.ok.inj h)
  exact .resetAdminTotp (targetAdmin_eq_ok hadmin)

theorem conforms_deleteAdmin (id : Nat) :
    (deleteAdmin platform headers id).Conforms KeepsAdmins
      (EndsAs platform (.deleteAdmin headers id) fun _ => {}) [] := by
  refine conforms_transaction ?_
  intro seen principal world answer t h
  obtain ⟨admin, hadmin, h⟩ := bind_eq_ok_iff.mp h
  split at h
  · cases h
  · next hkept =>
      obtain ⟨-, rfl⟩ := Prod.mk.inj (Except.ok.inj h)
      refine .deleteAdmin (targetAdmin_eq_ok hadmin) fun hrole henabled => ?_
      by_contra hnone
      exact hkept ⟨hrole, henabled, by omega⟩

theorem namedAdmin_eq_ok {t : AdminTables} {username : String} {admin : AdminUser}
    (h : namedAdmin t username = .ok admin) :
    t.admins.find? (·.username = lower username) = some admin := by
  unfold namedAdmin at h
  split at h
  · next found hfound =>
      rw [← Except.ok.inj h]
      exact hfound
  · cases h

theorem conforms_ctlResetPassword (username digest : String) :
    (ctlResetPassword username digest).Conforms KeepsAdmins
      (EndsAs platform (.ctlResetPassword username digest) fun _ => {}) [] := by
  refine conforms_adminTransaction ?_
  intro world answer t h
  obtain ⟨admin, hadmin, h⟩ := bind_eq_ok_iff.mp h
  obtain ⟨-, rfl⟩ := Prod.mk.inj (Except.ok.inj h)
  exact .ctlResetPassword (namedAdmin_eq_ok hadmin)

theorem conforms_ctlResetTotp (username : String) :
    (ctlResetTotp username).Conforms KeepsAdmins
      (EndsAs platform (.ctlResetTotp username) fun _ => {}) [] := by
  refine conforms_adminTransaction ?_
  intro world answer t h
  obtain ⟨admin, hadmin, h⟩ := bind_eq_ok_iff.mp h
  obtain ⟨-, rfl⟩ := Prod.mk.inj (Except.ok.inj h)
  exact .ctlResetTotp (namedAdmin_eq_ok hadmin)

end

/-! ### All requests -/

theorem AdminRequest.conforms_body (platform : AdminPlatform) (request : AdminRequest) :
    (request.body platform).Conforms KeepsAdmins (AdminEnds platform request) [] := by
  cases request with
  | login headers body draw => exact Coroutine.Conforms.map conforms_login
  | changePassword headers body digest =>
      exact Coroutine.Conforms.map (conforms_changePassword platform headers body digest)
  | totpSetup headers password secret =>
      exact Coroutine.Conforms.map (conforms_totpSetup platform headers password secret)
  | totpConfirm headers code hashes =>
      exact Coroutine.Conforms.map (conforms_totpConfirm platform headers code hashes)
  | totpDisable headers password code =>
      exact Coroutine.Conforms.map (conforms_totpDisable platform headers password code)
  | createAdmin headers body digest =>
      exact Coroutine.Conforms.map (conforms_createAdmin platform headers body digest)
  | updateAdmin headers id body =>
      exact Coroutine.Conforms.map (conforms_updateAdmin platform headers id body)
  | resetAdminPassword headers id digest =>
      exact Coroutine.Conforms.map (conforms_resetAdminPassword platform headers id digest)
  | resetAdminTotp headers id =>
      exact Coroutine.Conforms.map (conforms_resetAdminTotp platform headers id)
  | deleteAdmin headers id => exact Coroutine.Conforms.map (conforms_deleteAdmin platform headers id)
  | ctlResetPassword username digest =>
      exact Coroutine.Conforms.map (conforms_ctlResetPassword platform username digest)
  | ctlResetTotp username => exact Coroutine.Conforms.map (conforms_ctlResetTotp platform username)

abbrev AdminMove := Move AdminRequest AdminEvent

abbrev AdminReturn := Return AdminWorld AdminRequest (Except RouteError AdminAnswer)

abbrev AdminLoop := Loop AdminWorld AdminRequest (Except RouteError AdminAnswer)

namespace AdminLoop

def step (platform : AdminPlatform) (loop : AdminLoop) (m : AdminMove) : AdminLoop :=
  loop.move (AdminRequest.body platform) AdminEvent.react m

/-- A schedule from a state in which no request is in progress. -/
def runFrom (platform : AdminPlatform) (world : AdminWorld) (schedule : List AdminMove) : AdminLoop :=
  Loop.run (AdminRequest.body platform) AdminEvent.react { state := world } schedule

/-- A schedule from the first start, on tables that have no administrator yet. -/
def sinceStart (platform : AdminPlatform) (empty : AdminWorld) (digest : String)
    (schedule : List AdminMove) : AdminLoop :=
  runFrom platform ((ensureAdmin digest).runAlone empty).2 schedule

/-- The moves of a schedule: a move changes administrators only by the return of a request. -/
inductive Step (platform : AdminPlatform) (loop loop' : AdminLoop) : Prop
  | quiet (hreturned : loop'.returned = loop.returned) (hkeeps : KeepsAdmins loop.state loop'.state)
  | returned (ret : AdminReturn) (hreturned : loop'.returned = ret :: loop.returned)
      (hmoment : ret.moment = loop.now)
      (hends : AdminEnds platform ret.request (ret.seen.map (·.state)) loop.state ret.result loop'.state)

end AdminLoop

theorem admins_react (event : AdminEvent) (world : AdminWorld) :
    KeepsAdmins world (event.react world) := by
  cases event with
  | clock now monotonic => rfl
  | throttle guesses perIp => rfl
  | commit sessions tokens =>
      simp only [AdminEvent.react]
      split
      · next hcommit =>
          simp only [KeepsAdmins, AdminWorld.admins, AdminTables.commit_eq_ok hcommit]
      · rfl

namespace AdminLoop

variable {platform : AdminPlatform} {world : AdminWorld}

theorem step_of_progress {loop loop' : AdminLoop}
    (h : Loop.Progress (AdminRequest.body platform) AdminEvent.react (fun _ => KeepsAdmins)
      (AdminEnds platform) loop loop') : Step platform loop loop' := by
  rcases h.cases_returned with ⟨hreturned, hstate⟩ | ⟨ret, hreturned, hmoment, hends⟩
  · refine .quiet hreturned ?_
    rcases hstate with hstate | ⟨event, hstate⟩ | ⟨-, hkeeps⟩
    · rw [hstate]
      rfl
    · rw [hstate]
      exact admins_react event loop.state
    · exact hkeeps
  · exact .returned ret hreturned hmoment hends

theorem step_runFrom (schedule : List AdminMove) (m : AdminMove) :
    Step platform (runFrom platform world schedule)
      ((runFrom platform world schedule).step platform m) := by
  have hloop : (runFrom platform world schedule).Conforming (fun _ => KeepsAdmins)
      (AdminEnds platform) :=
    Loop.conforming_run (AdminRequest.conforms_body platform) (fun call hcall => absurd hcall (by simp)) schedule
  exact step_of_progress (Loop.progress_move (AdminRequest.conforms_body platform) hloop m).1

/-- Only the move that a request succeeds with changes administrators. -/
theorem admins_step (schedule : List AdminMove) (m : AdminMove) :
    let loop := runFrom platform world schedule
    (loop.step platform m).state.admins = loop.state.admins ∨
      ∃ ret answer, (loop.step platform m).returned = ret :: loop.returned ∧ ret.result = .ok answer := by
  intro loop
  have hstep : Step platform loop (loop.step platform m) := step_runFrom schedule m
  cases hstep with
  | quiet _ hkeeps => exact .inl hkeeps
  | returned ret hreturned _ hends =>
      cases hresult : ret.result with
      | error error =>
          rw [hresult] at hends
          exact .inl hends.1
      | ok answer => exact .inr ⟨ret, answer, hreturned, hresult⟩

/-- What every move preserves holds after every schedule. -/
theorem runFrom_invariant {I : AdminLoop → Prop}
    (hstep : ∀ loop loop', I loop → Step platform loop loop' → I loop')
    (hinit : I { state := world }) (schedule : List AdminMove) :
    I (runFrom platform world schedule) := by
  refine Loop.run_invariant (AdminRequest.conforms_body platform) ?_ (fun call hcall => absurd hcall (by simp)) hinit
    schedule
  intro loop loop' hloop hprogress
  exact hstep loop loop' hloop (step_of_progress hprogress)

end AdminLoop

end Naco
