import Naco.Proof.Passwords

/-!
# Sign-ins that fail

Every refusal of a sign-in is the same answer and one counted failure, whichever of name, password and
code was wrong. The exception is a code of six digits that are not all ASCII: comparing it raises, and
it is compared only after a correct password.
-/

namespace Naco

open Py

/-! ### Running a sign-in -/

/-- The gate reads nothing of the tables. -/
theorem loginGate_db (headers : Headers) (body : LoginIn) (world : AdminWorld) (db : AdminDb) :
    loginGate headers body { world with db } =
      ((loginGate headers body world).1, { (loginGate headers body world).2 with db }) := by
  unfold loginGate
  split
  · rfl
  · cases checkSameOrigin headers with
    | error error => rfl
    | ok checked =>
        dsimp only
        split
        · rfl
        · split <;> rfl

section

variable {platform : AdminPlatform} {ip : String} {body : LoginIn} {draw : SessionDraw}
  {world : AdminWorld} {found : AdminUser}

theorem signIn_of_none (h : world.admins.find? (·.username = body.name) = none) :
    (signIn platform ip body draw).runAlone world = failLogin body.name ip world := by
  rw [signIn, Coroutine.read, Coroutine.runAlone_atomic_bind]
  dsimp only
  rw [h]
  rfl

theorem signIn_of_some (h : world.admins.find? (·.username = body.name) = some found) :
    (signIn platform ip body draw).runAlone world =
      if verifyPassword platform.bcrypt body.password (some found.passwordHash) && found.enabled then
        (signInWithFactor platform ip body draw found.id).runAlone world
      else failLogin body.name ip world := by
  rw [signIn, Coroutine.read, Coroutine.runAlone_atomic_bind]
  dsimp only
  rw [h]
  dsimp only
  split <;> rfl

/-- The second factor, where nobody else changes the account: it is the one that was read. -/
theorem signInWithFactor_eq (hmem : found ∈ world.admins) (henabled : found.enabled = true) :
    (signInWithFactor platform ip body draw found.id).runAlone world =
      match found.secret with
      | none => grantLogin platform body.name ip draw found none world
      | some secret =>
          match Totp.matchCode platform.otp secret body.totpCode found.totpLastStep world.now with
          | .error error => (.error (.raised error), world)
          | .ok (some step) =>
              grantLogin platform body.name ip draw { found with totpLastStep := some step }
                (some (.step found.id secret step)) world
          | .ok none =>
              match if Totp.looksLikeRecoveryCode body.totpCode then found.recoveryCodes.find?
                fun hashed => verifyPassword platform.bcrypt (lower (strip body.totpCode)) (some hashed)
                else none with
              | some used =>
                  grantLogin platform body.name ip draw
                    { found with recoveryCodes := found.recoveryCodes.filter (· ≠ used) }
                    (some (.recoveryCode found.id used)) world
              | none => failLogin body.name ip world := by
  have hadmin := AdminTables.admin?_of_mem world.db.property hmem
  have hrefresh := refresh_eq_ok_iff.mpr hadmin
  rw [signInWithFactor, Coroutine.runAlone_atomic_bind, checkSecondFactor]
  generalize Totp.looksLikeRecoveryCode body.totpCode = looks
  generalize lower (strip body.totpCode) = code
  simp only [hrefresh, henabled, Bool.not_true, Bool.false_eq_true, if_false]
  cases found.secret with
  | none => rfl
  | some secret =>
      dsimp only
      cases Totp.matchCode platform.otp secret body.totpCode found.totpLastStep world.now with
      | error error => rfl
      | ok step =>
          cases step with
          | some step => rfl
          | none =>
              cases looks with
              | false => rfl
              | true =>
                  simp only [if_true]
                  cases hused : found.recoveryCodes.find? fun hashed =>
                      verifyPassword platform.bcrypt code (some hashed) with
                  | none => rfl
                  | some used =>
                      have hcodes := List.mem_of_find?_eq_some hused
                      simp only [Coroutine.runAlone_atomic, spendRecoveryCode, hrefresh, hcodes, if_true,
                        henabled]

/-! ### Granted and refused -/

/-- No session has the hash of the cookie that was drawn. -/
def SessionDraw.Fresh (platform : AdminPlatform) (draw : SessionDraw) (db : AdminDb) : Prop :=
  ∀ session ∈ db.val.sessions, session.tokenHash ≠ platform.sha256 draw.raw

theorem AdminTables.commit_of_consistent {t : AdminTables} (h : t.Consistent) : t.commit = .ok ⟨t, h⟩ :=
  dif_pos h

/-- The tables with a changed row and a new session are consistent. -/
theorem consistent_grant {t : AdminTables} (ht : t.Consistent) {changed : AdminUser}
    (hmem : found ∈ t.admins) (hid : changed.id = found.id) (hname : changed.username = found.username)
    {session : AdminSession} (hadmin : session.adminId = changed.id)
    (hsession : session.id = nextId (t.sessions.map (·.id)))
    (hfresh : ∀ old ∈ t.sessions, old.tokenHash ≠ session.tokenHash) :
    AdminTables.Consistent { t.withAdmin changed with sessions := t.sessions ++ [session] } := by
  have hsame (row : AdminUser) (hrow : row ∈ t.admins) (hrowid : row.id = changed.id) : row = found :=
    Rows.eq_of_key ht.adminIds hrow hmem (hrowid.trans hid)
  have hids : ∀ row ∈ t.admins, (if row.id = changed.id then changed else row).id = row.id := by
    intro row _
    split
    · next hrowid => exact hrowid.symm
    · rfl
  have hnames : ∀ row ∈ t.admins,
      (if row.id = changed.id then changed else row).username = row.username := by
    intro row hrow
    split
    · next hrowid => rw [hsame row hrow hrowid, hname]
    · rfl
  have hsome {id : Nat} (h : ∃ admin ∈ t.admins, admin.id = id) :
      ∃ admin ∈ (t.withAdmin changed).admins, admin.id = id := by
    obtain ⟨row, hrow, rfl⟩ := h
    exact ⟨_, List.mem_map_of_mem hrow, hids row hrow⟩
  refine ⟨?_, ?_, ?_, ?_, ?_, ht.tokenIds, ht.tokenNames, ht.tokenHashes⟩
  · rw [AdminTables.withAdmin, replaceRow, Rows.map_replace hids]
    exact ht.adminIds
  · rw [AdminTables.withAdmin, replaceRow, Rows.map_replace hnames]
    exact ht.usernames
  · rw [List.map_append, List.map_singleton, hsession]
    exact nodup_concat_nextId ht.sessionIds
  · exact Rows.nodup_concat ht.sessionHashes hfresh
  · intro old hold
    rcases List.mem_append.mp hold with hold | hnew
    · exact hsome (ht.sessionAdmins old hold)
    · rw [List.mem_singleton.mp hnew, hadmin, hid]
      exact hsome ⟨found, hmem, rfl⟩

/-- A sign-in that comes to its end is granted. -/
theorem grantLogin_not_denied {changed : AdminUser} {factor : Option Factor} {name : String}
    (hdenied : ∀ granted, (grantLogin platform name ip draw changed factor world).1 ≠ .ok granted)
    (hmem : found ∈ world.admins) (hid : changed.id = found.id)
    (hname : changed.username = found.username) (hfresh : draw.Fresh platform world.db) : False := by
  have hconsistent : AdminTables.Consistent { world.db.val.withAdmin changed with
      sessions := world.db.val.sessions ++
        [newAdminSession platform (world.db.val.withAdmin changed) world.now.utc changed.id draw] } :=
    consistent_grant world.db.property hmem hid hname rfl rfl hfresh
  have hcommit := AdminTables.commit_of_consistent hconsistent
  unfold grantLogin at hdenied
  dsimp only at hdenied
  split at hdenied
  · next herror => exact absurd (herror.symm.trans hcommit) nofun
  · exact hdenied _ rfl

/-- The answer to a sign-in that fails, and the throttle with one failure more. -/
def Refuses (guesses : GuessGuard) (name ip : String) (now : ℚ)
    (done : Except RouteError SignIn × AdminWorld) : Prop :=
  done.1 = .error (.refused loginRefusal) ∧ done.2.guesses = (guesses.failure name ip now).2

/-- The throttle can count one failure more: the wait it doubles fits in a float. -/
def CanCount (guesses : GuessGuard) (name ip : String) (now : ℚ) : Prop :=
  (guesses.failure name ip now).1 = .ok ()

theorem refuses_failLogin_iff {name : String} :
    Refuses world.guesses name ip world.monotonic (failLogin name ip world) ↔
      CanCount world.guesses name ip world.monotonic := by
  unfold Refuses CanCount failLogin
  dsimp only
  split
  · next hok => simp [hok]
  · next herror => simp [herror]

theorem compareDigest_eq_ok {a b : String} (ha : isAsciiText a = true) (hb : isAsciiText b = true) :
    compareDigest a b = .ok (decide (a = b)) := by
  simp [compareDigest, ha, hb]

theorem firstMatching_of_ascii {otp : Totp.GenerateOtp}
    (hotp : ∀ secret step, isAsciiText (otp secret step) = true) {secret code : String} (hcode : isAsciiText code = true) (lastStep : Option Int)
    (candidates : List Int) : ∃ step, Totp.firstMatching otp secret code lastStep candidates = .ok step := by
  induction candidates with
  | nil => exact ⟨none, rfl⟩
  | cons candidate candidates ih =>
      unfold Totp.firstMatching
      split
      · exact ih
      · rw [compareDigest_eq_ok (hotp secret candidate) hcode]
        by_cases hsame : otp secret candidate = code
        · rw [decide_eq_true hsame]
          exact ⟨some candidate, rfl⟩
        · rw [decide_eq_false hsame]
          exact ih

/-- A code is compared only if it is six digits, and comparing raises only if one is not ASCII. -/
def Comparable (code : String) : Prop :=
  Totp.isSixDigits (Totp.typedCode code) = true → isAsciiText (Totp.typedCode code) = true

theorem matchCode_of_comparable {otp : Totp.GenerateOtp}
    (hotp : ∀ secret step, isAsciiText (otp secret step) = true) {code : String} (hcode : Comparable code)
    (secret : String) (lastStep : Option Int) (now : ClockReading) :
    ∃ step, Totp.matchCode otp secret code lastStep now = .ok step := by
  unfold Totp.matchCode
  dsimp only
  split
  · exact ⟨none, rfl⟩
  · next hdigits => exact firstMatching_of_ascii hotp (hcode (by simpa using hdigits)) lastStep _

/-- A code that cannot be compared raises for an account that has not accepted a step yet. -/
theorem matchCode_of_not_comparable (otp : Totp.GenerateOtp) {code : String} (hcode : ¬ Comparable code)
    (secret : String) (now : ClockReading) :
    ∃ error, Totp.matchCode otp secret code none now = .error error := by
  obtain ⟨hdigits, hascii⟩ := Classical.not_imp.mp hcode
  simp only [Totp.matchCode, hdigits, Bool.not_true, Bool.false_eq_true, if_false]
  simp only [Totp.firstMatching, Option.any_none, Bool.false_eq_true, if_false, compareDigest,
    Bool.and_eq_true, hascii, and_false]
  exact ⟨_, rfl⟩

/-! ### The route -/

/-- Whatever the state of the account, a sign-in that is not granted is refused with one answer, and
counted. -/
def FailsAlike (platform : AdminPlatform) (headers : Headers) (body : LoginIn) (draw : SessionDraw)
    (world : AdminWorld) : Prop :=
  ∀ db : AdminDb, draw.Fresh platform db →
    (∀ signIn, ((login platform headers body draw).runAlone { world with db }).1 ≠ .ok signIn) →
      Refuses (loginGate headers body world).2.guesses body.name headers.ip world.monotonic
        ((login platform headers body draw).runAlone { world with db })

theorem loginGate_monotonic (headers : Headers) (body : LoginIn) (world : AdminWorld) :
    (loginGate headers body world).2.monotonic = world.monotonic := by
  unfold loginGate
  split
  · rfl
  · cases checkSameOrigin headers with
    | error error => rfl
    | ok checked =>
        dsimp only
        split
        · rfl
        · split <;> rfl

theorem runAlone_login {headers : Headers} (hgate : (loginGate headers body world).1 = .ok ())
    (db : AdminDb) :
    (login platform headers body draw).runAlone { world with db } =
      (signIn platform headers.ip body draw).runAlone { (loginGate headers body world).2 with db } := by
  have hpassed : loginGate headers body { world with db } =
      (.ok (), { (loginGate headers body world).2 with db }) := by
    rw [loginGate_db, hgate]
  exact Coroutine.runAlone_atomic_andThen hpassed

/-- A sign-in that is not granted is refused, if its code can be compared. -/
theorem refuses_signIn (hotp : ∀ secret step, isAsciiText (platform.otp secret step) = true)
    (hfresh : draw.Fresh platform world.db)
    (hcount : CanCount world.guesses body.name ip world.monotonic)
    (hcode : (∀ hash, verifyPassword platform.bcrypt body.password (some hash) = false) ∨
      Comparable body.totpCode)
    (hdenied : ∀ granted, ((signIn platform ip body draw).runAlone world).1 ≠ .ok granted) :
    Refuses world.guesses body.name ip world.monotonic
      ((signIn platform ip body draw).runAlone world) := by
  have hfail := refuses_failLogin_iff.mpr hcount
  cases hfound : world.admins.find? (·.username = body.name) with
  | none =>
      rw [signIn_of_none hfound]
      exact hfail
  | some found =>
      rw [signIn_of_some hfound] at hdenied ⊢
      split at hdenied
      · next hverified =>
          rw [if_pos hverified]
          rw [Bool.and_eq_true] at hverified
          have hmem := List.mem_of_find?_eq_some hfound
          have hcomparable : Comparable body.totpCode := by
            refine hcode.resolve_left fun hnone => ?_
            rw [hnone] at hverified
            cases hverified.1
          rw [signInWithFactor_eq hmem hverified.2] at hdenied ⊢
          cases hsecret : found.secret with
          | none =>
              rw [hsecret] at hdenied
              exact (grantLogin_not_denied hdenied hmem rfl rfl hfresh).elim
          | some secret =>
              rw [hsecret] at hdenied
              obtain ⟨step, hstep⟩ :=
                matchCode_of_comparable hotp hcomparable secret found.totpLastStep world.now
              simp only [hstep] at hdenied ⊢
              cases step with
              | some step =>
                  dsimp only at hdenied
                  exact (grantLogin_not_denied hdenied hmem rfl rfl hfresh).elim
              | none =>
                  dsimp only at hdenied ⊢
                  split at hdenied
                  · exact (grantLogin_not_denied hdenied hmem rfl rfl hfresh).elim
                  · exact hfail
      · next hverified =>
          rw [if_neg hverified]
          exact hfail

end

def noAdmins : AdminDb :=
  ⟨{}, AdminTables.consistent_empty⟩

/-- An account with this name and this hash, with two factors and no step accepted yet. -/
def enrolledDb (name hash : String) : AdminDb :=
  ⟨{ admins := [{ id := 1, username := name, passwordHash := hash, totpSecret := some "SECRET" }] },
    ⟨List.nodup_singleton _, List.nodup_singleton _, List.nodup_nil, List.nodup_nil,
      fun _ h => absurd h (by simp), List.nodup_nil, List.nodup_nil, List.nodup_nil⟩⟩

/-- Nobody signs in without an account, so the refusal must count. -/
theorem canCount_of_refuses {platform : AdminPlatform} {ip : String} {body : LoginIn}
    {draw : SessionDraw} {world : AdminWorld}
    (h : (∀ granted, ((signIn platform ip body draw).runAlone { world with db := noAdmins }).1 ≠
        .ok granted) →
      Refuses world.guesses body.name ip world.monotonic
        ((signIn platform ip body draw).runAlone { world with db := noAdmins })) :
    CanCount world.guesses body.name ip world.monotonic := by
  have hnone : (signIn platform ip body draw).runAlone { world with db := noAdmins } =
      failLogin body.name ip { world with db := noAdmins } :=
    signIn_of_none rfl
  obtain ⟨-, error, herror, -⟩ :=
    failLogin_spec (α := SignIn) body.name ip { world with db := noAdmins }
  rw [hnone] at h
  have hrefuses := h fun granted hok => absurd (herror.symm.trans hok) nofun
  have hcount : CanCount ({ world with db := noAdmins } : AdminWorld).guesses body.name ip _ :=
    refuses_failLogin_iff.mp hrefuses
  exact hcount

/-- A code that cannot be compared, after a correct password: the sign-in ends in an error of its own. -/
theorem signIn_enrolledDb_raises {platform : AdminPlatform} {ip : String} {body : LoginIn}
    (draw : SessionDraw) {hash : String}
    (hverified : verifyPassword platform.bcrypt body.password (some hash) = true)
    (hcode : ¬ Comparable body.totpCode) (world : AdminWorld) :
    ∃ error, ((signIn platform ip body draw).runAlone
      { world with db := enrolledDb body.name hash }).1 = .error (.raised error) := by
  obtain ⟨error, herror⟩ := matchCode_of_not_comparable platform.otp hcode "SECRET" world.now
  have hmem : ({ id := 1, username := body.name, passwordHash := hash, totpSecret := some "SECRET" } :
      AdminUser) ∈ ({ world with db := enrolledDb body.name hash } : AdminWorld).admins :=
    List.mem_singleton_self _
  have hfound : ({ world with db := enrolledDb body.name hash } : AdminWorld).admins.find?
      (·.username = body.name) = some { id := 1, username := body.name, passwordHash := hash,
                                        totpSecret := some "SECRET" } :=
    List.find?_cons_of_pos (by simp)
  refine ⟨error, ?_⟩
  rw [signIn_of_some hfound, if_pos (by simp [hverified]), signInWithFactor_eq hmem rfl]
  have hsecret : ({ id := 1, username := body.name, passwordHash := hash,
                    totpSecret := some "SECRET" } : AdminUser).secret = some "SECRET" := rfl
  simp only [hsecret, herror]

/-- Failed sign-ins look the same if and only if the failure can be counted, and the password matches
no hash at all or the code can be compared. -/
theorem sign_ins_fail_alike_iff {platform : AdminPlatform}
    (hotp : ∀ secret step, isAsciiText (platform.otp secret step) = true) {headers : Headers}
    {body : LoginIn} (draw : SessionDraw) {world : AdminWorld}
    (hgate : (loginGate headers body world).1 = .ok ()) :
    FailsAlike platform headers body draw world ↔
      CanCount (loginGate headers body world).2.guesses body.name headers.ip world.monotonic ∧
        ((∀ hash, verifyPassword platform.bcrypt body.password (some hash) = false) ∨
          Comparable body.totpCode) := by
  have hmonotonic := loginGate_monotonic headers body world
  unfold FailsAlike
  simp only [runAlone_login hgate]
  generalize (loginGate headers body world).2 = gated at hmonotonic ⊢
  rw [← hmonotonic]
  constructor
  · intro halike
    refine ⟨?_, ?_⟩
    · have hfresh : draw.Fresh platform noAdmins := fun _ h => absurd h (by simp [noAdmins])
      exact canCount_of_refuses (halike noAdmins hfresh)
    · rw [or_iff_not_imp_right]
      intro hcode hash
      by_contra hverified
      have hfresh : draw.Fresh platform (enrolledDb body.name hash) :=
        fun _ h => absurd h (by simp [enrolledDb])
      obtain ⟨error, herror⟩ : ∃ error, ((signIn platform headers.ip body draw).runAlone
          { gated with db := enrolledDb body.name hash }).1 = .error (.raised error) :=
        signIn_enrolledDb_raises draw (Bool.of_not_eq_false hverified) hcode gated
      obtain ⟨hanswer, -⟩ := halike (enrolledDb body.name hash) hfresh
        fun signIn hok => absurd (herror.symm.trans hok) nofun
      exact absurd (herror.symm.trans hanswer) nofun
  · rintro ⟨hcount, hcode⟩ db hfresh hdenied
    exact refuses_signIn hotp hfresh hcount hcode hdenied

def jsonHeaders : Headers :=
  { contentType := "application/json" }

theorem eq_ok_of_isOk {ε : Type} {call : Except ε Unit} (h : call.isOk = true) : call = .ok () := by
  cases call with
  | error error => cases h
  | ok value => rfl

theorem sign_ins_fail_alike_alice :
    let body : LoginIn := ⟨"alice", "old password", "000000"⟩
    (∀ secret step, isAsciiText (plainPlatform.otp secret step) = true) ∧
      (loginGate jsonHeaders body aliceWorld).1 = .ok () ∧
      FailsAlike plainPlatform jsonHeaders body ⟨"cookie", "csrf"⟩ aliceWorld := by
  intro body
  have hotp (secret : String) (step : Int) : isAsciiText (plainPlatform.otp secret step) = true :=
    (by decide +kernel : isAsciiText "123456" = true)
  have hgate : (loginGate jsonHeaders body aliceWorld).1 = .ok () := eq_ok_of_isOk (by decide +kernel)
  have hcount : CanCount (loginGate jsonHeaders body aliceWorld).2.guesses body.name jsonHeaders.ip
      aliceWorld.monotonic := eq_ok_of_isOk (by decide +kernel)
  have hcode : Comparable body.totpCode := fun _ => by decide +kernel
  exact ⟨hotp, hgate, (sign_ins_fail_alike_iff hotp _ hgate).mpr ⟨hcount, .inr hcode⟩⟩

/-- Six digits that are not ASCII, after a correct password. -/
theorem unicode_digits_fail_otherwise :
    let body : LoginIn := ⟨"alice", "old password", "١٢٣٤٥٦"⟩
    body.InLimits ∧ (loginGate jsonHeaders body aliceWorld).1 = .ok () ∧
      ¬ FailsAlike plainPlatform jsonHeaders body ⟨"cookie", "csrf"⟩ aliceWorld := by
  intro body
  have hgate : (loginGate jsonHeaders body aliceWorld).1 = .ok () := eq_ok_of_isOk (by decide +kernel)
  refine ⟨by unfold LoginIn.InLimits; decide +kernel, hgate, fun halike => ?_⟩
  have hcode : ¬ Comparable body.totpCode := by
    unfold Comparable
    decide +kernel
  obtain ⟨error, herror⟩ : ∃ error, ((signIn plainPlatform jsonHeaders.ip body ⟨"cookie", "csrf"⟩).runAlone
      { (loginGate jsonHeaders body aliceWorld).2 with db := enrolledDb body.name "old password" }).1 =
        .error (.raised error) :=
    signIn_enrolledDb_raises _ (by decide +kernel) hcode _
  have hrefuses := halike (enrolledDb body.name "old password") (fun _ h => absurd h (by simp [enrolledDb]))
  rw [runAlone_login hgate] at hrefuses
  obtain ⟨hanswer, -⟩ := hrefuses fun signIn hok => absurd (herror.symm.trans hok) nofun
  exact absurd (herror.symm.trans hanswer) nofun

end Naco
