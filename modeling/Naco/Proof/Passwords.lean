import Naco.Proof.Factors

/-!
# The hash that a password was checked against

A password is checked between two transactions. The hash it is checked against is read in the first,
and the second does not read it again: it is still the stored one unless another request has stored a
password meanwhile.
-/

namespace Naco

open Py

/-! ### What requests check and store -/

/-- The password that a request must be sent with. -/
def AdminRequest.password? : AdminRequest → Option String
  | .login _ body _ => some body.password
  | .changePassword _ body _ => some body.currentPassword
  | .totpSetup _ password _ => some password
  | .totpDisable _ password _ => some password
  | _ => none

/-- The account whose hash the password is checked against, in a state that the request saw. -/
def AdminRequest.ChecksHashOf (platform : AdminPlatform) (seen : List AdminWorld) (read : AdminWorld)
    (found : AdminUser) : AdminRequest → Prop
  | .login _ body _ => read.admins.find? (·.username = body.name) = some found
  | .changePassword headers _ _ | .totpSetup headers _ _ | .totpDisable headers _ _ =>
      ∃ principal, SentBy platform headers seen principal ∧ ownAdmin read.db.val principal = .ok found
  | _ => False

/-- The password that was sent matched the hash of this account, at this moment. -/
structure VerifiedAt (platform : AdminPlatform) (ret : AdminReturn) (read : Moment AdminWorld)
    (found : AdminUser) : Prop where
  mem : read ∈ ret.seen
  checks : ret.request.ChecksHashOf platform (ret.seen.map (·.state)) read.state found
  verified : ∃ password ∈ ret.request.password?,
    verifyPassword platform.bcrypt password (some found.passwordHash) = true

/-- The return of a request that stored a password for an account. -/
def StoresPassword (platform : AdminPlatform) (id : Nat) (ret : AdminReturn) : Prop :=
  (∃ answer, ret.result = .ok answer) ∧
    match ret.request with
    | .changePassword headers _ _ =>
        ∃ principal, SentBy platform headers (ret.seen.map (·.state)) principal ∧
          principal.adminId = some id
    | .resetAdminPassword _ id' _ => id' = id
    | .ctlResetPassword username _ =>
        ∃ admin ∈ ret.moment.state.admins, admin.username = lower username ∧ admin.id = id
    | .createAdmin _ _ _ => nextId (ret.moment.state.admins.map (·.id)) = id
    | _ => False

/-- The returns since a moment. -/
def returnsSince (moment : Moment AdminWorld) (returned : List AdminReturn) : List AdminReturn :=
  returned.take (returned.length - moment.returns)

theorem mem_returnsSince_cons {moment : Moment AdminWorld} {ret : AdminReturn}
    {returned : List AdminReturn} (h : moment.returns ≤ returned.length) {other : AdminReturn} :
    other ∈ returnsSince moment (ret :: returned) ↔ other = ret ∨ other ∈ returnsSince moment returned := by
  unfold returnsSince
  rw [List.length_cons, Nat.succ_sub h, List.take_succ_cons, List.mem_cons]

/-! ### Effects on hashes -/

theorem UsesFactor.passwordHash {admin changed : AdminUser} {factor : Option Factor}
    (h : UsesFactor admin changed factor) : changed.passwordHash = admin.passwordHash := by
  match factor, h with
  | none, ⟨_, h⟩ => exact h ▸ rfl
  | some (.step _ _ _), ⟨_, _, _, h⟩ => exact h ▸ rfl
  | some (.recoveryCode _ _), ⟨_, _, h⟩ => exact h ▸ rfl

/-- The account that one reads is the caller's. -/
theorem adminId_of_ownAdmin {t : AdminTables} {principal : Principal} {found : AdminUser}
    (h : ownAdmin t principal = .ok found) : principal.adminId = some found.id := by
  unfold ownAdmin at h
  split at h
  · next id _ hid =>
      split at h
      · next admin hadmin =>
          obtain rfl := Except.ok.inj h
          rw [hid, (AdminTables.admin?_eq_some hadmin).2]
      · cases h
  · cases h

/-- The row was there with that hash. -/
def HadHash (world : AdminWorld) (row : AdminUser) : Prop :=
  ∃ old ∈ world.admins, old.id = row.id ∧ old.passwordHash = row.passwordHash

theorem hadHash_of_mem {world : AdminWorld} {row : AdminUser} (h : row ∈ world.admins) :
    HadHash world row :=
  ⟨row, h, rfl, rfl⟩

theorem hadHash_withAdmin {world : AdminWorld} {id : Nat} {admin changed row : AdminUser}
    (hrow : row ∈ (world.db.val.withAdmin changed).admins)
    (hadmin : world.db.val.admin? id = some admin) (hid : changed.id = admin.id)
    (hhash : changed.passwordHash = admin.passwordHash) : HadHash world row := by
  rcases mem_withAdmin hrow with rfl | ⟨hold, -⟩
  · exact ⟨admin, (AdminTables.admin?_eq_some hadmin).1, hid.symm, hhash.symm⟩
  · exact hadHash_of_mem hold

/-- The row that a password is stored in is the only one that changes. -/
theorem hadHash_withAdmin_of_ne {world : AdminWorld} {changed row : AdminUser}
    (hrow : row ∈ (world.db.val.withAdmin changed).admins) (hne : row.id ≠ changed.id) :
    HadHash world row := by
  rcases mem_withAdmin hrow with rfl | ⟨hold, -⟩
  · exact absurd rfl hne
  · exact hadHash_of_mem hold

/-- A request that stores no password for an account leaves its hash. -/
theorem AdminEffect.hadHash {platform : AdminPlatform} {ret : AdminReturn} {answer : AdminAnswer}
    {t : AdminTables} (hok : ret.result = .ok answer)
    (heffect : AdminEffect platform (ret.seen.map (·.state)) ret.moment.state ret.request answer t)
    {row : AdminUser} (hrow : row ∈ t.admins) (hstores : ¬ StoresPassword platform row.id ret) :
    HadHash ret.moment.state row := by
  have ht := ret.moment.state.db.property
  have hnot : ¬ StoresPassword platform row.id ret := hstores
  unfold StoresPassword at hnot
  generalize ret.request = request at heffect hnot
  replace hnot := not_and.mp hnot ⟨answer, hok⟩
  cases heffect with
  | login _ _ _ hadmin hfactor =>
      exact hadHash_withAdmin hrow hadmin hfactor.same.1 hfactor.passwordHash
  | changePassword hread hadmin =>
      refine hadHash_withAdmin_of_ne hrow fun hid => hnot ⟨_, hread.sent, ?_⟩
      rw [adminId_of_ownAdmin hread.own, hid, (AdminTables.admin?_eq_some hadmin).2]
  | totpSetup _ hadmin => exact hadHash_withAdmin hrow hadmin rfl rfl
  | totpConfirm hadmin => exact hadHash_withAdmin hrow hadmin rfl rfl
  | totpDisable _ hadmin => exact hadHash_withAdmin hrow hadmin rfl rfl
  | createAdmin =>
      rcases List.mem_append.mp hrow with hold | hnew
      · exact hadHash_of_mem hold
      · rw [List.mem_singleton.mp hnew] at hnot
        exact absurd rfl hnot
  | updateAdmin hadmin => exact hadHash_withAdmin hrow hadmin rfl rfl
  | resetAdminPassword hadmin =>
      refine hadHash_withAdmin_of_ne hrow fun hid => hnot ?_
      rw [hid, (AdminTables.admin?_eq_some hadmin).2]
  | resetAdminTotp hadmin => exact hadHash_withAdmin hrow hadmin rfl rfl
  | deleteAdmin => exact hadHash_of_mem (List.mem_filter.mp hrow).1
  | ctlResetPassword hadmin =>
      refine hadHash_withAdmin_of_ne hrow fun hid => hnot ?_
      exact ⟨_, List.mem_of_find?_eq_some hadmin, by simpa using List.find?_some hadmin, hid.symm⟩
  | ctlResetTotp hadmin =>
      have hmem := AdminTables.admin?_of_mem ht (List.mem_of_find?_eq_some hadmin)
      exact hadHash_withAdmin hrow hmem rfl rfl

/-! ### Calls in progress -/

/-- Since a moment, a hash has changed only where a request stored a password. -/
structure HashesSince (platform : AdminPlatform) (loop : AdminLoop) (moment : Moment AdminWorld) :
    Prop where
  returns : moment.returns ≤ loop.returned.length
  same : ∀ found ∈ moment.state.admins,
    (∀ other ∈ returnsSince moment loop.returned, ¬ StoresPassword platform found.id other) →
      ∀ row ∈ loop.state.admins, row.id = found.id → row.passwordHash = found.passwordHash

def HashesFollowed (platform : AdminPlatform) (loop : AdminLoop) : Prop :=
  ∀ call ∈ loop.calls, ∀ moment ∈ call.seen, HashesSince platform loop moment

section

variable {platform : AdminPlatform} {loop loop' : AdminLoop} {moment : Moment AdminWorld}

theorem hashesSince_now (hkeeps : KeepsAdmins loop.state loop'.state)
    (hreturned : loop'.returned = loop.returned) : HashesSince platform loop' loop.now := by
  refine ⟨by rw [hreturned]; exact le_rfl, ?_⟩
  intro found hfound _ row hrow hid
  rw [hkeeps] at hrow
  rw [Rows.eq_of_key loop.state.db.property.adminIds hrow hfound hid]

theorem HashesSince.quiet (h : HashesSince platform loop moment)
    (hkeeps : KeepsAdmins loop.state loop'.state) (hreturned : loop'.returned = loop.returned) :
    HashesSince platform loop' moment := by
  refine ⟨hreturned ▸ h.returns, ?_⟩
  rw [hkeeps, hreturned]
  exact h.same

theorem HashesSince.returned (h : HashesSince platform loop moment) {ret : AdminReturn}
    (hreturned : loop'.returned = ret :: loop.returned) (hmoment : ret.moment = loop.now)
    (hends : AdminEnds platform ret.request (ret.seen.map (·.state)) loop.state ret.result loop'.state) :
    HashesSince platform loop' moment := by
  refine ⟨by rw [hreturned]; exact h.returns.trans (Nat.le_succ _), ?_⟩
  intro found hfound hstores row hrow hid
  rw [hreturned] at hstores
  have hbefore (old : AdminUser) (hold : old ∈ loop.state.admins) (holdid : old.id = found.id) :
      old.passwordHash = found.passwordHash := by
    refine h.same found hfound (fun other hother => ?_) old hold holdid
    exact hstores other ((mem_returnsSince_cons h.returns).mpr (.inr hother))
  have hret := hstores ret ((mem_returnsSince_cons h.returns).mpr (.inl rfl))
  cases hresult : ret.result with
  | error error =>
      rw [hresult] at hends
      rw [hends.1] at hrow
      exact hbefore row hrow hid
  | ok answer =>
      rw [hresult] at hends
      have hstate : loop.state = ret.moment.state := by rw [hmoment, Loop.state_now]
      have heffect : AdminEffect platform (ret.seen.map (·.state)) ret.moment.state ret.request answer
          loop'.state.db.val := hstate ▸ hends
      obtain ⟨old, hold, holdid, hhash⟩ := heffect.hadHash hresult hrow (hid ▸ hret)
      rw [← hstate] at hold
      exact hhash.symm.trans (hbefore old hold (holdid.trans hid))

theorem HashesFollowed.progress (h : HashesFollowed platform loop)
    (hprogress : Loop.Progress (AdminRequest.body platform) AdminEvent.react (fun _ => KeepsAdmins)
      (AdminEnds platform) loop loop') : HashesFollowed platform loop' := by
  cases hprogress with
  | idle => exact h
  | outside event =>
      intro call hcall moment hmoment
      exact (h call hcall moment hmoment).quiet (admins_react event loop.state) rfl
  | called request =>
      intro call hcall moment hmoment
      rcases List.mem_append.mp hcall with hold | hnew
      · exact (h call hold moment hmoment).quiet rfl rfl
      · rw [List.mem_singleton.mp hnew] at hmoment
        cases hmoment
  | paused rest hcall hstep =>
      intro found hfound moment hmoment
      rcases List.mem_or_eq_of_mem_set hfound with hold | rfl
      · exact (h found hold moment hmoment).quiet hstep rfl
      · rcases List.mem_cons.mp hmoment with rfl | hold
        · exact hashesSince_now hstep rfl
        · exact (h _ hcall moment hold).quiet hstep rfl
  | returned hcall hlast =>
      intro found hfound moment hmoment
      exact (h found (List.mem_of_mem_eraseIdx hfound) moment hmoment).returned rfl rfl hlast

/-- The moments that a request saw have been followed up to its last step. -/
theorem hashesSince_seen (platform : AdminPlatform) (world : AdminWorld) (schedule : List AdminMove)
    (m : AdminMove) {ret : AdminReturn}
    (hret : ((AdminLoop.runFrom platform world schedule).step platform m).returned =
      ret :: (AdminLoop.runFrom platform world schedule).returned) :
    ∀ moment ∈ ret.seen, HashesSince platform (AdminLoop.runFrom platform world schedule) moment := by
  have hempty : Loop.Conforming (fun _ => KeepsAdmins) (AdminEnds platform) { state := world } :=
    fun call hcall => absurd hcall (by simp)
  have hfollowed : HashesFollowed platform (AdminLoop.runFrom platform world schedule) :=
    Loop.run_invariant (AdminRequest.conforms_body platform) (fun _ _ h hprogress => h.progress hprogress)
      hempty (fun call hcall => absurd hcall (by simp)) schedule
  have hconforming : (AdminLoop.runFrom platform world schedule).Conforming (fun _ => KeepsAdmins)
      (AdminEnds platform) :=
    Loop.conforming_run (AdminRequest.conforms_body platform) hempty schedule
  obtain ⟨hprogress, -⟩ : Loop.Progress (AdminRequest.body platform) AdminEvent.react
      (fun _ => KeepsAdmins) (AdminEnds platform) (AdminLoop.runFrom platform world schedule)
      ((AdminLoop.runFrom platform world schedule).step platform m) ∧ _ :=
    Loop.progress_move (AdminRequest.conforms_body platform) hconforming m
  generalize (AdminLoop.runFrom platform world schedule).step platform m = loop' at hret hprogress
  generalize AdminLoop.runFrom platform world schedule = loop at *
  cases hprogress with
  | idle => exact absurd hret (List.cons_ne_self _ _).symm
  | outside event => exact absurd hret (List.cons_ne_self _ _).symm
  | called request => exact absurd hret (List.cons_ne_self _ _).symm
  | paused rest hcall hstep => exact absurd hret (List.cons_ne_self _ _).symm
  | returned hcall hlast =>
      obtain rfl := (List.cons.inj hret).1
      exact hfollowed _ hcall

end

/-! ### Commits -/

theorem mem_admins_of_ownAdmin {t : AdminTables} {principal : Principal} {found : AdminUser}
    (h : ownAdmin t principal = .ok found) : found ∈ t.admins := by
  unfold ownAdmin at h
  split at h
  · split at h
    · next hadmin =>
        obtain rfl := Except.ok.inj h
        exact (AdminTables.admin?_eq_some hadmin).1
    · cases h
  · cases h

/-- A request on one's own account checked a password if it succeeds. -/
theorem ReadsOwn.verifiedAt {platform : AdminPlatform} {headers : Headers} {principal : Principal}
    {password : String} {read : AdminWorld} {found : AdminUser} {ret : AdminReturn}
    (h : ReadsOwn platform headers (ret.seen.map (·.state)) principal password read found)
    (hpassword : ret.request.password? = some password)
    (hchecks : ∀ read, ret.request.ChecksHashOf platform (ret.seen.map (·.state)) read found ↔
      ∃ principal, SentBy platform headers (ret.seen.map (·.state)) principal ∧
        ownAdmin read.db.val principal = .ok found) :
    ∃ moment, VerifiedAt platform ret moment found ∧ found ∈ moment.state.admins := by
  obtain ⟨moment, hmoment, rfl⟩ := List.mem_map.mp h.mem
  refine ⟨moment, ⟨hmoment, ?_, password, hpassword, h.verified⟩, mem_admins_of_ownAdmin h.own⟩
  exact (hchecks moment.state).mpr ⟨principal, h.sent, h.own⟩

/-- A request that must be sent with a password checked it if it succeeds. -/
theorem AdminEffect.verifiedAt {platform : AdminPlatform} {ret : AdminReturn} {answer : AdminAnswer}
    {t : AdminTables}
    (heffect : AdminEffect platform (ret.seen.map (·.state)) ret.moment.state ret.request answer t)
    (hpassword : ret.request.password?.isSome = true) :
    ∃ read found admin, VerifiedAt platform ret read found ∧ found ∈ read.state.admins ∧
      ret.moment.state.db.val.admin? found.id = some admin := by
  obtain ⟨request, result, moment, seen⟩ := ret
  cases heffect with
  | login hread hfound hverified hadmin =>
      obtain ⟨read, hmem, rfl⟩ := List.mem_map.mp hread
      exact ⟨read, _, _, ⟨hmem, hfound, _, rfl, hverified⟩, List.mem_of_find?_eq_some hfound, hadmin⟩
  | changePassword hread hadmin =>
      obtain ⟨read, hverified, hmem⟩ := ReadsOwn.verifiedAt hread rfl fun _ => Iff.rfl
      exact ⟨read, _, _, hverified, hmem, hadmin⟩
  | totpSetup hread hadmin =>
      obtain ⟨read, hverified, hmem⟩ := ReadsOwn.verifiedAt hread rfl fun _ => Iff.rfl
      exact ⟨read, _, _, hverified, hmem, hadmin⟩
  | totpDisable hread hadmin =>
      obtain ⟨read, hverified, hmem⟩ := ReadsOwn.verifiedAt hread rfl fun _ => Iff.rfl
      exact ⟨read, _, _, hverified, hmem, hadmin⟩
  | _ => cases hpassword

theorem mem_revokeAll {t : AdminTables} {id : Nat} {keep : Option Nat} {session : AdminSession}
    (h : session ∈ (t.revokeAll id keep).sessions) (hid : session.adminId = id) :
    keep = some session.id := by
  obtain ⟨-, hkept⟩ := List.mem_filter.mp h
  simpa [hid] using hkept

/-- The sessions that are left by a request that stores a password: none of the account after a reset,
the one it was sent from after a change. -/
def EndsSessions (platform : AdminPlatform) (seen : List AdminWorld) (left : List AdminSession) :
    AdminRequest → Prop
  | .resetAdminPassword _ id _ => ∀ session ∈ left, session.adminId ≠ id
  | .changePassword headers _ _ =>
      ∃ principal, SentBy platform headers seen principal ∧
        ∀ session ∈ left, principal.adminId = some session.adminId →
          principal.sessionId = some session.id
  | _ => True

theorem AdminEffect.endsSessions {platform : AdminPlatform} {seen : List AdminWorld}
    {world : AdminWorld} {request : AdminRequest} {answer : AdminAnswer} {t : AdminTables}
    (heffect : AdminEffect platform seen world request answer t) :
    EndsSessions platform seen t.sessions request := by
  cases heffect with
  | resetAdminPassword =>
      intro session hsession hid
      exact absurd (mem_revokeAll hsession hid) nofun
  | changePassword hread =>
      refine ⟨_, hread.sent, fun session hsession hid => mem_revokeAll hsession ?_⟩
      rw [adminId_of_ownAdmin hread.own] at hid
      exact (Option.some_inj.mp hid).symm
  | _ => trivial

/-- A request that must be sent with a password and commits has checked the password against a hash
that it read before; unless another request stored a password for the account since then, that hash is
the stored one. A reset ends every session of the account, a change all but the one it was sent from. -/
theorem checked_hash_is_stored (platform : AdminPlatform) (world : AdminWorld)
    (schedule : List AdminMove) (m : AdminMove) {ret : AdminReturn} {answer : AdminAnswer} :
    let loop := AdminLoop.runFrom platform world schedule
    (loop.step platform m).returned = ret :: loop.returned → ret.result = .ok answer →
      (ret.request.password?.isSome = true →
        ∃ read found admin, VerifiedAt platform ret read found ∧
          loop.state.db.val.admin? found.id = some admin ∧
          ((∀ other ∈ returnsSince read loop.returned, ¬ StoresPassword platform found.id other) →
            admin.passwordHash = found.passwordHash)) ∧
      EndsSessions platform (ret.seen.map (·.state)) (loop.step platform m).state.db.val.sessions
        ret.request := by
  intro loop hret hok
  have hseen := hashesSince_seen platform world schedule m hret
  have hstep : AdminLoop.Step platform loop (loop.step platform m) := AdminLoop.step_runFrom schedule m
  generalize loop.step platform m = loop' at hret hstep ⊢
  cases hstep with
  | quiet hreturned _ =>
      rw [hreturned] at hret
      exact absurd hret (List.cons_ne_self _ _).symm
  | returned ret' hreturned hmoment hends =>
      obtain rfl : ret' = ret := (List.cons.inj (hreturned.symm.trans hret)).1
      rw [hok] at hends
      have hstate : ret'.moment.state = loop.state := by rw [hmoment, Loop.state_now]
      have heffect : AdminEffect platform (ret'.seen.map (·.state)) ret'.moment.state ret'.request answer
          loop'.state.db.val := hstate ▸ hends
      refine ⟨fun hpassword => ?_, heffect.endsSessions⟩
      obtain ⟨read, found, admin, hverified, hfound, hadmin⟩ := heffect.verifiedAt hpassword
      rw [hstate] at hadmin
      refine ⟨read, found, admin, hverified, hadmin, fun hstores => ?_⟩
      obtain ⟨hmem, hid⟩ := AdminTables.admin?_eq_some hadmin
      exact (hseen read hverified.mem).same found hfound hstores admin hmem hid

/-- An administrator with a password, and an API token of a SUPERUSER. -/
def aliceWorld : AdminWorld where
  db := ⟨{ admins := [{ id := 1, username := "alice", passwordHash := "old password",
                        role := .superuser }],
           tokens := [{ id := 1, name := "ops", tokenHash := "naco_ops", role := .superuser }] },
    by decide⟩
  now := ⟨Totp.unixEpoch, Totp.inRange_unixEpoch⟩
  monotonic := 0
  guesses := GuessGuard.new 3
  perIp := { limit := 20, window := 300 }

def aliceLogin : AdminRequest :=
  .login { contentType := "application/json" } ⟨"alice", "old password", ""⟩ ⟨"cookie", "csrf"⟩

/-- A sign-in up to its last step. -/
def almostSignedIn : List AdminMove :=
  [.call aliceLogin, .resume 0, .resume 0]

/-- A move that adds a successful request to the record. -/
theorem exists_returned (platform : AdminPlatform) (world : AdminWorld) (schedule : List AdminMove)
    (m : AdminMove) :
    let loop := AdminLoop.runFrom platform world schedule
    loop.returned.length < (loop.step platform m).returned.length →
      ((loop.step platform m).returned.head?.any fun ret => ret.result.isOk) = true →
      ∃ ret answer, (loop.step platform m).returned = ret :: loop.returned ∧
        ret.result = .ok answer := by
  intro loop hlength hok
  have hstep : AdminLoop.Step platform loop (loop.step platform m) := AdminLoop.step_runFrom schedule m
  cases hstep with
  | quiet hreturned _ =>
      rw [hreturned] at hlength
      exact absurd hlength (lt_irrefl _)
  | returned ret hreturned _ _ =>
      rw [hreturned] at hok
      cases hresult : ret.result with
      | error error => simp [hresult, Except.isOk, Except.toBool] at hok
      | ok answer => exact ⟨ret, answer, hreturned, hresult⟩

theorem VerifiedAt.mem_admins {platform : AdminPlatform} {ret : AdminReturn}
    {read : Moment AdminWorld} {found : AdminUser} (h : VerifiedAt platform ret read found) :
    found ∈ read.state.admins := by
  obtain ⟨request, result, moment, seen⟩ := ret
  have hchecks := h.checks
  cases request with
  | login headers body draw => exact List.mem_of_find?_eq_some hchecks
  | changePassword headers body digest =>
      obtain ⟨principal, -, hown⟩ := hchecks
      exact mem_admins_of_ownAdmin hown
  | totpSetup headers password secret =>
      obtain ⟨principal, -, hown⟩ := hchecks
      exact mem_admins_of_ownAdmin hown
  | totpDisable headers password code =>
      obtain ⟨principal, -, hown⟩ := hchecks
      exact mem_admins_of_ownAdmin hown
  | _ => cases hchecks

/-- Alice, who signs in from two places, and another administrator. -/
def twoAdmins : AdminWorld :=
  { aliceWorld with
    db := ⟨{ aliceWorld.db.val with
      admins := aliceWorld.db.val.admins ++
        [{ id := 2, username := "bob", passwordHash := "another password", role := .operator }] },
      by decide⟩ }

/-- Alice changes her password from one of her sessions; before its last step Bob's is reset. -/
def changeAndReset : List AdminMove :=
  [.call aliceLogin, .resume 0, .resume 0, .resume 0,
    .call (.login { contentType := "application/json" } ⟨"alice", "old password", ""⟩ ⟨"other", "csrf"⟩),
    .resume 0, .resume 0, .resume 0,
    .call (.changePassword { cookie := some "cookie", csrfToken := "csrf" }
      ⟨"old password", "chosen password"⟩ "chosen password"),
    .resume 0,
    .call (.resetAdminPassword { authorization := "Bearer naco_ops" } 2 "temporary password"),
    .resume 1, .resume 1, .resume 0]

theorem checked_hash_is_stored_alice :
    let loop := AdminLoop.runFrom plainPlatform twoAdmins changeAndReset
    let loop' := loop.step plainPlatform (.resume 0)
    loop.state.db.val.sessions.length = 2 ∧ loop'.state.db.val.sessions.length = 1 ∧
      loop'.state.admins.map (·.passwordHash) = ["chosen password", "temporary password"] ∧
      ∃ ret answer read found admin, loop'.returned = ret :: loop.returned ∧ ret.result = .ok answer ∧
        VerifiedAt plainPlatform ret read found ∧ loop.state.db.val.admin? found.id = some admin ∧
        admin.passwordHash = found.passwordHash ∧
        EndsSessions plainPlatform (ret.seen.map (·.state)) loop'.state.db.val.sessions ret.request := by
  refine ⟨by decide +kernel, by decide +kernel, by decide +kernel, ?_⟩
  obtain ⟨ret, answer, hret, hok⟩ :=
    exists_returned plainPlatform twoAdmins changeAndReset (.resume 0) (by decide +kernel)
      (by decide +kernel)
  obtain ⟨hverifies, hends⟩ :=
    checked_hash_is_stored plainPlatform twoAdmins changeAndReset (.resume 0) hret hok
  have hrequest : (((AdminLoop.runFrom plainPlatform twoAdmins changeAndReset).step plainPlatform
      (.resume 0)).returned.head?.all fun ret => ret.request.password? = some "old password" &&
        ret.seen.all fun read => read.state.admins.all fun admin => admin.id = 1 ||
          !verifyPassword plainPlatform.bcrypt "old password" (some admin.passwordHash)) = true := by
    decide +kernel
  rw [hret, List.head?_cons, Option.all_some, Bool.and_eq_true, decide_eq_true_eq] at hrequest
  obtain ⟨hpassword, halice⟩ := hrequest
  obtain ⟨read, found, admin, hverified, hadmin, hsame⟩ := hverifies (by rw [hpassword]; rfl)
  -- only Alice has the password that was checked
  have hid : found.id = 1 := by
    obtain ⟨password, hmem, hmatches⟩ := hverified.verified
    rw [hpassword] at hmem
    obtain rfl := Option.some_inj.mp hmem
    have hfound := List.all_eq_true.mp (List.all_eq_true.mp halice read hverified.mem) found
      hverified.mem_admins
    rw [hmatches] at hfound
    simpa using hfound
  -- and no request since has stored one for her
  have hothers : ((AdminLoop.runFrom plainPlatform twoAdmins changeAndReset).returned.all fun other =>
      match other.request with
      | .login _ _ _ => true
      | .resetAdminPassword _ id _ => id ≠ 1
      | _ => false) = true := by decide +kernel
  refine ⟨ret, answer, read, found, admin, hret, hok, hverified, hadmin, hsame ?_, hends⟩
  rintro other hother ⟨-, hstores⟩
  have hkind := List.all_eq_true.mp hothers other (List.mem_of_mem_take hother)
  cases hrequest : other.request <;> rw [hrequest] at hkind hstores <;> simp_all

/-- The password is reset before the last step of the sign-in. -/
def resetMeanwhile : List AdminMove :=
  almostSignedIn ++
    [.call (.resetAdminPassword { authorization := "Bearer naco_ops" } 1 "temporary password"),
      .resume 1, .resume 1]

/-- A sign-in, and then a change of the password with the session it gave. -/
def changeOwn : List AdminMove :=
  [.call aliceLogin, .resume 0, .resume 0, .resume 0,
    .call (.changePassword { cookie := some "cookie", csrfToken := "csrf" }
      ⟨"old password", "chosen password"⟩ "chosen password"),
    .resume 0, .resume 0, .resume 0]

/-- A sign-in with the old password commits after a reset; and the session that a password is changed
from, which the old password gave, is left. -/
theorem old_password_outlives_reset :
    (let loop := AdminLoop.runFrom plainPlatform aliceWorld resetMeanwhile
      ∃ ret answer, (loop.step plainPlatform (.resume 0)).returned = ret :: loop.returned ∧
        ret.result = .ok answer ∧ ret.request.password?.isSome = true ∧
        ∀ read found admin, VerifiedAt plainPlatform ret read found →
          loop.state.db.val.admin? found.id = some admin →
            admin.passwordHash ≠ found.passwordHash) ∧
      (AdminLoop.runFrom plainPlatform aliceWorld changeOwn).state.admins.map (·.passwordHash) =
        ["chosen password"] ∧
      (AdminLoop.runFrom plainPlatform aliceWorld changeOwn).state.db.val.sessions.map (·.adminId) =
        [1] := by
  refine ⟨?_, by decide +kernel, by decide +kernel⟩
  intro loop
  obtain ⟨ret, answer, hret, hok⟩ :=
    exists_returned plainPlatform aliceWorld resetMeanwhile (.resume 0) (by decide +kernel)
      (by decide +kernel)
  have hseen : ((loop.step plainPlatform (.resume 0)).returned.head?.all fun ret =>
      ret.request.password?.isSome && ret.seen.all fun read =>
        read.state.admins.all (·.passwordHash = "old password")) = true := by decide +kernel
  have hnow : (loop.state.admins.all (·.passwordHash = "temporary password")) = true := by decide +kernel
  rw [hret, List.head?_cons, Option.all_some, Bool.and_eq_true] at hseen
  refine ⟨ret, answer, hret, hok, hseen.1, fun read found admin hverified hadmin => ?_⟩
  have hold := List.all_eq_true.mp (List.all_eq_true.mp hseen.2 read hverified.mem) found
    hverified.mem_admins
  have hnew := List.all_eq_true.mp hnow admin (AdminTables.admin?_eq_some hadmin).1
  rw [of_decide_eq_true hold, of_decide_eq_true hnew]
  decide

end Naco
