import Naco.Proof.SignIns
import Naco.SessionLife

/-!
# Admin sessions live as long as promised

The row of a session remembers an instant less than a minute before its last accepted request. So a
request is accepted only while the last one is less than the idle time ago, and is accepted as long as
the last one is a minute less than that ago; maintenance deletes a session only once it has run out.
-/

namespace Naco

open Py

variable {platform : AdminPlatform} {raw : String} {t : AdminTables} {now : Int}

/-! ### One lookup -/

def AdminPlatform.idle (platform : AdminPlatform) : Int :=
  platform.security.sessionIdleMinutes * 60000000

/-- The session is one that `resolve` accepts. -/
def AdminSession.Live (platform : AdminPlatform) (now : Int) (admin : AdminUser)
    (session : AdminSession) : Prop :=
  now < session.expiresAt ∧ now < session.lastSeenAt + platform.idle ∧ admin.enabled = true

/-- The row of a session that was used. -/
def AdminSession.touch (session : AdminSession) (now : Int) : AdminSession :=
  if 60000000 ≤ now - session.lastSeenAt then { session with lastSeenAt := now } else session

theorem csrfToken_touch (session : AdminSession) (now : Int) :
    (session.touch now).csrfToken = session.csrfToken := by
  unfold AdminSession.touch
  split <;> rfl

/-- What a cookie is looked up for. -/
def CookieText (raw : String) : Prop :=
  raw ≠ "" ∧ raw.toList.length ≤ 128

/-- How a lookup ends, and what it leaves of the row. -/
inductive Resolved (platform : AdminPlatform) (raw : String) (now : Int) (t : AdminTables) :
    Option (AdminSession × AdminUser) × AdminTables → Prop
  | unknown (h : CookieText raw → t.sessionOf platform raw = none) : Resolved platform raw now t (none, t)
  | ended {session : AdminSession} {admin : AdminUser} {t' : AdminTables}
      (hrow : t.sessionOf platform raw = some session) (hadmin : t.admin? session.adminId = some admin)
      (hlive : ¬ session.Live platform now admin) (hconsistent : t'.Consistent)
      (hgone : t'.sessionOf platform raw = none) : Resolved platform raw now t (none, t')
  | found {session : AdminSession} {admin : AdminUser} {t' : AdminTables}
      (hrow : t.sessionOf platform raw = some session) (hadmin : t.admin? session.adminId = some admin)
      (hlive : session.Live platform now admin) (hconsistent : t'.Consistent)
      (hkept : t'.sessionOf platform raw = some (session.touch now)) :
      Resolved platform raw now t (some (session.touch now, admin), t')

section

variable {session : AdminSession}

theorem sessionOf_eq_some_iff (ht : t.Consistent) :
    t.sessionOf platform raw = some session ↔
      session ∈ t.sessions ∧ session.tokenHash = platform.sha256 raw :=
  Rows.find?_eq_some_iff ht.sessionHashes

theorem sessionOf_eq_none_iff :
    t.sessionOf platform raw = none ↔
      ∀ session ∈ t.sessions, session.tokenHash ≠ platform.sha256 raw :=
  Rows.find?_eq_none_iff

theorem consistent_deleteSession (ht : t.Consistent) (id : Nat) :
    AdminTables.Consistent { t with sessions := deleteRow t.sessions (·.id) id } :=
  { ht with
    sessionIds := ht.sessionIds.sublist (List.filter_sublist.map _)
    sessionHashes := ht.sessionHashes.sublist (List.filter_sublist.map _)
    sessionAdmins := fun session hsession =>
      ht.sessionAdmins session (List.mem_of_mem_filter hsession) }

theorem sessionOf_deleteSession (ht : t.Consistent) (hrow : t.sessionOf platform raw = some session) :
    AdminTables.sessionOf { t with sessions := deleteRow t.sessions (·.id) session.id } platform raw =
      none := by
  obtain ⟨hmem, hhash⟩ := (sessionOf_eq_some_iff ht).mp hrow
  refine sessionOf_eq_none_iff.mpr fun other hother hotherHash => ?_
  obtain ⟨hother, hid⟩ := List.mem_filter.mp hother
  have hsame := Rows.eq_of_key ht.sessionHashes hother hmem (hotherHash.trans hhash.symm)
  simp [hsame] at hid

theorem replaced_key {β : Type} {key : AdminSession → β} (ht : t.Consistent) (hmem : session ∈ t.sessions)
    {changed : AdminSession} (hid : changed.id = session.id) (hkey : key changed = key session) :
    (replaceRow t.sessions (·.id) changed).map key = t.sessions.map key := by
  refine Rows.map_replace fun row hrow => ?_
  by_cases hsame : row.id = changed.id
  · rw [if_pos hsame, hkey, Rows.eq_of_key ht.sessionIds hrow hmem (hsame.trans hid)]
  · rw [if_neg hsame]

theorem consistent_replaceSession (ht : t.Consistent) (hmem : session ∈ t.sessions)
    {changed : AdminSession} (hid : changed.id = session.id)
    (hhash : changed.tokenHash = session.tokenHash) (hadmin : changed.adminId = session.adminId) :
    AdminTables.Consistent { t with sessions := replaceRow t.sessions (·.id) changed } := by
  refine { ht with sessionIds := ?_, sessionHashes := ?_, sessionAdmins := ?_ }
  · rw [replaced_key ht hmem hid hid]
    exact ht.sessionIds
  · rw [replaced_key ht hmem hid hhash]
    exact ht.sessionHashes
  · intro row hrow
    rcases mem_replaceRow hrow with rfl | hrow
    · rw [hadmin]
      exact ht.sessionAdmins session hmem
    · exact ht.sessionAdmins row hrow

theorem sessionOf_replaceSession (ht : t.Consistent) (hrow : t.sessionOf platform raw = some session)
    {changed : AdminSession} (hid : changed.id = session.id)
    (hhash : changed.tokenHash = session.tokenHash) (hadmin : changed.adminId = session.adminId) :
    AdminTables.sessionOf { t with sessions := replaceRow t.sessions (·.id) changed } platform raw =
      some changed := by
  obtain ⟨hmem, hraw⟩ := (sessionOf_eq_some_iff ht).mp hrow
  refine (sessionOf_eq_some_iff (consistent_replaceSession ht hmem hid hhash hadmin)).mpr
    ⟨?_, hhash.trans hraw⟩
  exact List.mem_map.mpr ⟨session, hmem, if_pos hid.symm⟩

end

theorem resolved_found (ht : t.Consistent) {session : AdminSession} {admin : AdminUser}
    (hrow : t.sessionOf platform raw = some session) (hadmin : t.admin? session.adminId = some admin)
    (hlive : session.Live platform now admin) :
    Resolved platform raw now t
      (if 60000000 ≤ now - session.lastSeenAt then
        (some ({ session with lastSeenAt := now }, admin),
          { t with sessions := replaceRow t.sessions (·.id) { session with lastSeenAt := now } })
      else (some (session, admin), t)) := by
  obtain ⟨hmem, -⟩ := (sessionOf_eq_some_iff ht).mp hrow
  by_cases hold : 60000000 ≤ now - session.lastSeenAt
  · have htouch : session.touch now = { session with lastSeenAt := now } := if_pos hold
    rw [if_pos hold, ← htouch]
    refine .found hrow hadmin hlive ?_ ?_
    · rw [htouch]
      exact consistent_replaceSession ht hmem rfl rfl rfl
    · rw [htouch]
      exact sessionOf_replaceSession ht hrow rfl rfl rfl
  · have htouch : session.touch now = session := if_neg hold
    rw [if_neg hold]
    have hfound := @Resolved.found platform raw now t session admin t hrow hadmin hlive ht
      (by rw [htouch]; exact hrow)
    rwa [htouch] at hfound

theorem resolved_resolveSession (ht : t.Consistent) (now : Int) :
    Resolved platform raw now t (resolveSession platform t now (some raw)) := by
  unfold resolveSession
  by_cases hraw : CookieText raw
  · have hfilter : ((some raw).filter fun raw => raw ≠ "" && decide (raw.toList.length ≤ 128)) =
        some raw := by simp [Option.filter, hraw.1, hraw.2]
    rw [hfilter]
    dsimp only
    cases hrow : t.sessionOf platform raw with
    | none =>
        rw [AdminTables.sessionOf] at hrow
        rw [hrow]
        exact .unknown fun _ => hrow
    | some session =>
        obtain ⟨hmem, hhash⟩ := (sessionOf_eq_some_iff ht).mp hrow
        obtain ⟨found, hfound, hid⟩ := ht.sessionAdmins session hmem
        have hadmin : t.admin? session.adminId = some found :=
          (Rows.find?_eq_some_iff ht.adminIds).mpr ⟨hfound, hid⟩
        have hfind := hrow
        rw [AdminTables.sessionOf] at hfind
        rw [hfind]
        dsimp only
        rw [hadmin]
        dsimp only
        by_cases hlive : session.Live platform now found
        · rw [if_neg (by
            rw [not_or, not_or]
            exact ⟨Int.not_le.mpr hlive.1, Int.not_le.mpr hlive.2.1, by simp [hlive.2.2]⟩)]
          exact resolved_found ht hrow hadmin hlive
        · rw [if_pos (by
            by_contra hends
            rw [not_or, not_or] at hends
            exact hlive ⟨Int.not_le.mp hends.1, Int.not_le.mp hends.2.1, by simpa using hends.2.2⟩)]
          exact .ended hrow hadmin hlive (consistent_deleteSession ht session.id)
            (sessionOf_deleteSession ht hrow)
  · have hfilter : ((some raw).filter fun raw => raw ≠ "" && decide (raw.toList.length ≤ 128)) =
        none := by
      simp only [Option.filter, CookieText] at hraw ⊢
      rw [if_neg (by simpa using hraw)]
    rw [hfilter]
    exact .unknown fun h => absurd h hraw

/-! ### One request -/

/-- What a request does to its session. -/
inductive Used (platform : AdminPlatform) (raw : String) (request : CookieRequest) (world : AdminWorld) :
    Bool × AdminWorld → Prop
  | refused {world' : AdminWorld} (hnow : world'.now = world.now)
      (hkept : world'.db.val.sessionOf platform raw = world.db.val.sessionOf platform raw) :
      Used platform raw request world (false, world')
  | ended {world' : AdminWorld} {session : AdminSession} {admin : AdminUser}
      (hnow : world'.now = world.now)
      (hrow : world.db.val.sessionOf platform raw = some session)
      (hadmin : world.db.val.admin? session.adminId = some admin)
      (hlive : ¬ session.Live platform world.now.utc admin)
      (hgone : world'.db.val.sessionOf platform raw = none) :
      Used platform raw request world (false, world')
  | accepted {world' : AdminWorld} {session : AdminSession} {admin : AdminUser}
      (hnow : world'.now = world.now)
      (hrow : world.db.val.sessionOf platform raw = some session)
      (hadmin : world.db.val.admin? session.adminId = some admin)
      (hlive : session.Live platform world.now.utc admin) (hpasses : request.Passes session.csrfToken)
      (hkept : world'.db.val.sessionOf platform raw = some (session.touch world.now.utc)) :
      Used platform raw request world (true, world')

/-- The answer of `current_principal` with its tables, once they are committed. -/
def committed (world : AdminWorld) (answered : Except RouteError Principal × AdminTables) :
    Bool × AdminWorld :=
  match answered.2.commit with
  | .ok db =>
      (match answered.1 with
        | .ok principal => principal.kind = .session
        | .error _ => false, { world with db })
  | .error _ => (false, world)

theorem run_api (headers : Headers) (world : AdminWorld) :
    CookieRequest.run platform raw (.api headers) world =
      committed world (findPrincipal platform { headers with cookie := some raw } world.db.val
        world.now.utc) := by
  dsimp only [CookieRequest.run, currentPrincipal, Coroutine.runAlone_atomic, committed]
  generalize findPrincipal platform { headers with cookie := some raw } world.db.val
    world.now.utc = answered
  cases answered.2.commit with
  | ok db => rfl
  | error error => rfl

theorem committed_of_consistent (world : AdminWorld) (answer : Except RouteError Principal)
    (ht : t.Consistent) :
    committed world (answer, t) =
      (match answer with
        | .ok principal => principal.kind = .session
        | .error _ => false, { world with db := ⟨t, ht⟩ }) := by
  rw [committed, AdminTables.commit_of_consistent ht]

/-- A token is no session, and leaves the sessions alone. -/
theorem tokenPrincipal_spec {token ip : String} {principal : Principal} {t' : AdminTables}
    (h : tokenPrincipal platform t now token ip = .ok (principal, t')) :
    principal.kind = .token ∧ t'.sessions = t.sessions := by
  unfold tokenPrincipal at h
  split at h
  · cases h
  · split at h
    · cases h
    · split at h
      · cases h
      · dsimp only at h
        obtain ⟨rfl, rfl⟩ := Prod.mk.inj (Except.ok.inj h)
        refine ⟨rfl, ?_⟩
        split <;> rfl

theorem findPrincipal_of_bearer {headers : Headers} (hbearer : headers.bearer = true)
    (t : AdminTables) (now : Int) :
    (∃ error, findPrincipal platform headers t now = (.error error, t)) ∨
      ∃ principal t', findPrincipal platform headers t now = (.ok principal, t') ∧
        principal.kind = .token ∧ t'.sessions = t.sessions := by
  unfold findPrincipal
  dsimp only
  rw [if_pos (by simpa [Headers.bearer] using hbearer)]
  cases htoken : tokenPrincipal platform t now
      (strip ((partition ' ' headers.authorization).2.getD "")) headers.ip with
  | error error => exact .inl ⟨error, rfl⟩
  | ok answered =>
      obtain ⟨hkind, hsessions⟩ := tokenPrincipal_spec htoken
      exact .inr ⟨answered.1, answered.2, rfl, hkind, hsessions⟩

theorem used_token (headers : Headers) (world : AdminWorld) (hbearer : headers.bearer = true) :
    Used platform raw (.api headers) world (CookieRequest.run platform raw (.api headers) world) := by
  have hcookie : ({ headers with cookie := some raw } : Headers).bearer = true := hbearer
  rw [run_api]
  rcases findPrincipal_of_bearer hcookie world.db.val world.now.utc with
    ⟨error, hfound⟩ | ⟨principal, t', hfound, hkind, hsessions⟩
  · rw [hfound, committed_of_consistent world _ world.db.property]
    exact .refused rfl rfl
  · rw [hfound, committed]
    dsimp only
    cases hcommit : t'.commit with
    | error error => exact .refused rfl rfl
    | ok db =>
        obtain rfl := AdminTables.commit_eq_ok hcommit
        dsimp only
        rw [hkind]
        refine .refused rfl ?_
        rw [AdminTables.sessionOf, hsessions]
        rfl

/-! ### A request with the cookie -/

theorem sessionPrincipal_eq_ok {headers : Headers} {session : AdminSession} {admin : AdminUser}
    {principal : Principal} (h : sessionPrincipal platform headers session admin = .ok principal) :
    principal.kind = .session ∧ (headers.safeMethod = true ∨ headers.csrfToken ≠ "" ∧
      headers.csrfToken = session.csrfToken ∧ checkSameOrigin headers = .ok ()) := by
  unfold sessionPrincipal at h
  dsimp only at h
  split at h
  · split at h
    · obtain ⟨_, hrefused, _⟩ := bind_eq_ok_iff.mp h
      cases hrefused
    · next hcsrf =>
        obtain ⟨_, horigin, h⟩ := bind_eq_ok_iff.mp h
        rw [not_or, not_not] at hcsrf
        cases h
        exact ⟨rfl, .inr ⟨hcsrf.1, hcsrf.2, horigin⟩⟩
  · next hmethod =>
      cases h
      exact ⟨rfl, .inl (by simpa using hmethod)⟩

theorem sessionPrincipal_of_passes {headers : Headers} {session : AdminSession} {admin : AdminUser}
    (h : headers.safeMethod = true ∨ headers.csrfToken ≠ "" ∧ headers.csrfToken = session.csrfToken ∧
      checkSameOrigin headers = .ok ()) :
    ∃ principal, sessionPrincipal platform headers session admin = .ok principal := by
  unfold sessionPrincipal
  rcases h with hsafe | ⟨hsent, hcsrf, horigin⟩
  · rw [hsafe]
    exact ⟨_, rfl⟩
  · cases headers.safeMethod with
    | true => exact ⟨_, rfl⟩
    | false =>
        have hnot : ¬ (headers.csrfToken = "" ∨ headers.csrfToken ≠ session.csrfToken) := by
          rw [not_or, not_not]
          exact ⟨hsent, hcsrf⟩
        simp only [Bool.not_false, if_true, if_neg hnot]
        rw [horigin]
        exact ⟨_, rfl⟩

theorem findPrincipal_of_cookie {headers : Headers} (hbearer : headers.bearer = false)
    (t : AdminTables) (now : Int) :
    findPrincipal platform headers t now =
      match resolveSession platform t now headers.cookie with
      | (none, t) => (apiError 401 "not signed in", t)
      | (some (session, admin), touched) =>
          match sessionPrincipal platform headers session admin with
          | .ok principal => (.ok principal, touched)
          | .error error => (.error error, t) := by
  unfold findPrincipal
  dsimp only
  exact if_neg (by simpa [Headers.bearer] using hbearer)

theorem used_cookie (headers : Headers) (world : AdminWorld) (hbearer : headers.bearer = false) :
    Used platform raw (.api headers) world (CookieRequest.run platform raw (.api headers) world) := by
  have hresolved := @resolved_resolveSession platform raw _ world.db.property world.now.utc
  have hcookie : ({ headers with cookie := some raw } : Headers).bearer = false := hbearer
  rw [run_api, findPrincipal_of_cookie hcookie]
  dsimp only
  generalize resolveSession platform world.db.val world.now.utc (some raw) = resolved at hresolved
  cases hresolved with
  | unknown h =>
      rw [committed_of_consistent world _ world.db.property]
      exact .refused rfl rfl
  | ended hrow hadmin hlive hconsistent hgone =>
      rw [committed_of_consistent world _ hconsistent]
      exact .ended rfl hrow hadmin hlive hgone
  | @found session admin t' hrow hadmin hlive hconsistent hkept =>
      dsimp only
      cases hprincipal : sessionPrincipal platform { headers with cookie := some raw }
          (session.touch world.now.utc) admin with
      | error error =>
          rw [committed_of_consistent world _ world.db.property]
          exact .refused rfl rfl
      | ok principal =>
          rw [committed_of_consistent world _ hconsistent]
          obtain ⟨hkind, hchecks⟩ := sessionPrincipal_eq_ok hprincipal
          rw [csrfToken_touch] at hchecks
          dsimp only
          rw [hkind]
          exact .accepted rfl hrow hadmin hlive ⟨hbearer, hchecks⟩ hkept

theorem used_page (headers : Headers) (world : AdminWorld) :
    Used platform raw (.page headers) world (CookieRequest.run platform raw (.page headers) world) := by
  have hresolved := @resolved_resolveSession platform raw _ world.db.property world.now.utc
  dsimp only [CookieRequest.run, pagePrincipal, Coroutine.runAlone_atomic]
  generalize resolveSession platform world.db.val world.now.utc (some raw) = resolved at hresolved
  cases hresolved with
  | unknown h =>
      rw [AdminTables.commit_of_consistent world.db.property]
      exact .refused rfl rfl
  | ended hrow hadmin hlive hconsistent hgone =>
      rw [AdminTables.commit_of_consistent hconsistent]
      exact .ended rfl hrow hadmin hlive hgone
  | found hrow hadmin hlive hconsistent hkept =>
      rw [AdminTables.commit_of_consistent hconsistent]
      exact .accepted rfl hrow hadmin hlive trivial hkept

theorem used_run (request : CookieRequest) (world : AdminWorld) :
    Used platform raw request world (request.run platform raw world) := by
  cases request with
  | page headers => exact used_page headers world
  | api headers =>
      cases hbearer : headers.bearer with
      | true => exact used_token headers world hbearer
      | false => exact used_cookie headers world hbearer

theorem resolveSession_of_live (ht : t.Consistent) {session : AdminSession} {admin : AdminUser}
    (hraw : CookieText raw) (hrow : t.sessionOf platform raw = some session)
    (hadmin : t.admin? session.adminId = some admin) (hlive : session.Live platform now admin) :
    ∃ t', t'.Consistent ∧
      resolveSession platform t now (some raw) = (some (session.touch now, admin), t') := by
  have hresolved := @resolved_resolveSession platform raw t ht now
  generalize resolveSession platform t now (some raw) = resolved at hresolved ⊢
  cases hresolved with
  | unknown h =>
      rw [h hraw] at hrow
      cases hrow
  | ended hrow' hadmin' hends hconsistent hgone =>
      obtain rfl := Option.some.inj (hrow'.symm.trans hrow)
      obtain rfl := Option.some.inj (hadmin'.symm.trans hadmin)
      exact absurd hlive hends
  | found hrow' hadmin' hlive' hconsistent hkept =>
      obtain rfl := Option.some.inj (hrow'.symm.trans hrow)
      obtain rfl := Option.some.inj (hadmin'.symm.trans hadmin)
      exact ⟨_, hconsistent, rfl⟩

/-- A live session is accepted with a request that passes its own checks. -/
theorem run_of_live {world : AdminWorld} {session : AdminSession} {admin : AdminUser}
    (hraw : CookieText raw) (hrow : world.db.val.sessionOf platform raw = some session)
    (hadmin : world.db.val.admin? session.adminId = some admin)
    (hlive : session.Live platform world.now.utc admin) {request : CookieRequest}
    (hpasses : request.Passes session.csrfToken) :
    (request.run platform raw world).1 = true := by
  obtain ⟨t', hconsistent, hresolve⟩ :=
    resolveSession_of_live world.db.property hraw hrow hadmin hlive
  cases request with
  | page headers =>
      dsimp only [CookieRequest.run, pagePrincipal, Coroutine.runAlone_atomic]
      rw [hresolve, AdminTables.commit_of_consistent hconsistent]
      rfl
  | api headers =>
      obtain ⟨hbearer, hchecks⟩ := hpasses
      have hcookie : ({ headers with cookie := some raw } : Headers).bearer = false := hbearer
      rw [← csrfToken_touch session world.now.utc] at hchecks
      obtain ⟨principal, hprincipal⟩ := @sessionPrincipal_of_passes platform
        { headers with cookie := some raw } (session.touch world.now.utc) admin hchecks
      rw [run_api, findPrincipal_of_cookie hcookie]
      dsimp only
      rw [hresolve]
      dsimp only
      rw [hprincipal, committed_of_consistent world _ hconsistent]
      exact decide_eq_true (sessionPrincipal_eq_ok hprincipal).1

/-! ### The history of a session -/

/-- The last instant at which the session was accepted, or its creation. -/
def SessionLife.last (created : Int) (life : SessionLife) : Int :=
  life.accepted.headD created

def AdminPlatform.lifetime (platform : AdminPlatform) : Int :=
  platform.security.sessionMaxHours * 3600000000

/-- The row of a session that was created at this instant, after requests were accepted at these, the
latest first. -/
structure AdminSession.Remembers (platform : AdminPlatform) (adminId : Nat) (csrf : String)
    (created : Int) (accepted : List Int) (session : AdminSession) : Prop where
  adminId : session.adminId = adminId
  csrf : session.csrfToken = csrf
  expires : session.expiresAt = created + platform.lifetime
  seen : session.lastSeenAt ∈ created :: accepted
  recent : accepted.headD created < session.lastSeenAt + 60000000

structure SessionLife.Tracked (platform : AdminPlatform) (raw : String) (adminId : Nat) (csrf : String)
    (created : Int) (life : SessionLife) : Prop where
  row : ∀ session, life.world.db.val.sessionOf platform raw = some session →
    session.Remembers platform adminId csrf created life.accepted
  ordered : life.last created ≤ life.world.now.utc
  /-- A session that is gone was revoked or has run out. -/
  gone : life.world.db.val.sessionOf platform raw = none → life.revoked = false →
    created + platform.lifetime ≤ life.world.now.utc ∨
      life.last created + (platform.idle - 60000000) < life.world.now.utc

section

variable {adminId : Nat} {csrf : String} {created : Int} {accepted : List Int}
  {session : AdminSession} {admin : AdminUser} {life : SessionLife}

theorem AdminSession.Remembers.touch (h : session.Remembers platform adminId csrf created accepted)
    (now : Int) :
    (session.touch now).Remembers platform adminId csrf created (now :: accepted) := by
  unfold AdminSession.touch
  by_cases hold : 60000000 ≤ now - session.lastSeenAt
  · rw [if_pos hold]
    refine ⟨h.adminId, h.csrf, h.expires, by simp, ?_⟩
    change now < now + 60000000
    omega
  · rw [if_neg hold]
    refine ⟨h.adminId, h.csrf, h.expires, ?_, ?_⟩
    · have hseen := h.seen
      rw [List.mem_cons] at hseen ⊢
      exact hseen.imp_right (List.mem_cons_of_mem now)
    · change now < session.lastSeenAt + 60000000
      omega

/-- A session that has run out for the code was not used for almost the idle time, or is too old. -/
theorem AdminSession.Remembers.ended (h : session.Remembers platform adminId csrf created accepted)
    (henabled : admin.enabled = true) {now : Int} (hlive : ¬ session.Live platform now admin) :
    created + platform.lifetime ≤ now ∨
      accepted.headD created + (platform.idle - 60000000) < now := by
  have hrecent := h.recent
  by_cases hexpires : now < session.expiresAt
  · by_cases hidle : now < session.lastSeenAt + platform.idle
    · exact absurd ⟨hexpires, hidle, henabled⟩ hlive
    · right
      omega
  · left
    rw [← h.expires]
    exact Int.not_lt.mp hexpires

/-- Conversely, the code accepts the session. -/
theorem AdminSession.Remembers.live (h : session.Remembers platform adminId csrf created accepted)
    (henabled : admin.enabled = true) {now : Int} (hage : now < created + platform.lifetime)
    (hused : now ≤ accepted.headD created + (platform.idle - 60000000)) :
    session.Live platform now admin := by
  have hrecent := h.recent
  refine ⟨?_, by omega, henabled⟩
  rw [h.expires]
  exact hage

theorem SessionLife.Tracked.wait (h : life.Tracked platform raw adminId csrf created) {now : ClockReading}
    (hnow : life.world.now.utc ≤ now.utc) :
    ({ life with world := { life.world with now } } : SessionLife).Tracked platform raw adminId csrf
      created := by
  refine ⟨h.row, h.ordered.trans hnow, fun hrow hrevoked => ?_⟩
  rcases h.gone hrow hrevoked with hold | hidle
  · exact .inl (hold.trans hnow)
  · exact .inr (hidle.trans_le hnow)

theorem enabled_of_admin? {t : AdminTables} (hadmin : t.admin? adminId = some admin) :
    t.enabled adminId = admin.enabled := by
  rw [AdminTables.enabled, hadmin]
  rfl

theorem SessionLife.Tracked.request (h : life.Tracked platform raw adminId csrf created)
    (request : CookieRequest) :
    (life.step platform raw adminId (.request request)).Tracked platform raw adminId csrf created := by
  have hused := @used_run platform raw request life.world
  dsimp only [SessionLife.step]
  generalize request.run platform raw life.world = outcome at hused
  cases hused with
  | refused hnow hkept =>
      refine ⟨?_, ?_, ?_⟩
      · rw [hkept]
        exact h.row
      · rw [hnow]
        exact h.ordered
      · rw [hkept, hnow]
        intro hrow hrevoked
        exact h.gone hrow (Bool.or_eq_false_iff.mp hrevoked).1
  | @ended world' session admin hnow hrow hadmin hlive hgone =>
      refine ⟨?_, ?_, ?_⟩
      · rw [hgone]
        intro session hsession
        cases hsession
      · rw [hnow]
        exact h.ordered
      · rw [hnow]
        intro _ hrevoked
        have hremembers := h.row session hrow
        rw [hremembers.adminId] at hadmin
        obtain ⟨-, hlost⟩ := Bool.or_eq_false_iff.mp hrevoked
        rw [SessionLife.lost, hrow, hgone, enabled_of_admin? hadmin] at hlost
        exact hremembers.ended (by simpa using hlost) hlive
  | @accepted world' session admin hnow hrow hadmin hlive hpasses hkept =>
      refine ⟨?_, ?_, ?_⟩
      · rw [hkept]
        intro touched htouched
        rw [← Option.some.inj htouched]
        exact (h.row session hrow).touch life.world.now.utc
      · rw [hnow]
        exact le_rfl
      · rw [hkept]
        intro hrow
        cases hrow

/-- What the sweep leaves of a session. -/
theorem sessionOf_sweep {config : HouseConfig} {house : HouseTables} {now : Int} {world : AdminWorld}
    (hrow : world.db.val.sessionOf platform raw = some session) :
    (SessionLife.sweep platform config house now world).db.val.sessionOf platform raw =
      if session.expiresAt < now ∨ session.lastSeenAt < now - platform.idle then none
      else some session := by
  obtain ⟨hmem, hhash⟩ := (sessionOf_eq_some_iff world.db.property).mp hrow
  by_cases hends : session.expiresAt < now ∨ session.lastSeenAt < now - platform.idle
  · rw [if_pos hends]
    refine sessionOf_eq_none_iff.mpr fun other hother hotherHash => ?_
    obtain ⟨hother, hkept⟩ := List.mem_filter.mp hother
    obtain rfl := Rows.eq_of_key world.db.property.sessionHashes hother hmem
      (hotherHash.trans hhash.symm)
    exact of_decide_eq_true hkept hends
  · rw [if_neg hends]
    refine (sessionOf_eq_some_iff (SessionLife.sweep platform config house now world).db.property).mpr
      ⟨List.mem_filter.mpr ⟨hmem, decide_eq_true hends⟩, hhash⟩

theorem sessionOf_sweep_of_none {config : HouseConfig} {house : HouseTables} {now : Int}
    {world : AdminWorld} (hrow : world.db.val.sessionOf platform raw = none) :
    (SessionLife.sweep platform config house now world).db.val.sessionOf platform raw = none :=
  sessionOf_eq_none_iff.mpr fun other hother =>
    sessionOf_eq_none_iff.mp hrow other (List.mem_of_mem_filter hother)

theorem SessionLife.Tracked.maintenance (h : life.Tracked platform raw adminId csrf created)
    (micros : Nat) (config : HouseConfig) (house : HouseTables) :
    (life.step platform raw adminId (.maintenance micros config house)).Tracked platform raw adminId csrf
      created := by
  dsimp only [SessionLife.step]
  cases hrow : life.world.db.val.sessionOf platform raw with
  | none =>
      have hnone := @sessionOf_sweep_of_none platform raw config house
        (life.world.now.utc - micros) life.world hrow
      refine ⟨?_, h.ordered, fun _ => h.gone hrow⟩
      dsimp only
      rw [hnone]
      intro session hsession
      cases hsession
  | some session =>
      have hremembers := h.row session hrow
      have hswept := @sessionOf_sweep platform raw session config house
        (life.world.now.utc - micros) life.world hrow
      by_cases hends : session.expiresAt < life.world.now.utc - micros ∨
          session.lastSeenAt < life.world.now.utc - micros - platform.idle
      · rw [if_pos hends] at hswept
        refine ⟨?_, h.ordered, fun _ _ => ?_⟩
        · dsimp only
          rw [hswept]
          intro session hsession
          cases hsession
        · have hexpires := hremembers.expires
          have hrecent := hremembers.recent
          change created + platform.lifetime ≤ life.world.now.utc ∨
            life.accepted.headD created + (platform.idle - 60000000) < life.world.now.utc
          omega
      · rw [if_neg hends] at hswept
        refine ⟨?_, h.ordered, ?_⟩
        · dsimp only
          rw [hswept]
          intro found hfound
          rw [← Option.some.inj hfound]
          exact hremembers
        · dsimp only
          rw [hswept]
          intro hnone
          cases hnone

theorem SessionLife.Tracked.other (h : life.Tracked platform raw adminId csrf created)
    (world : AdminWorld) :
    (life.step platform raw adminId (.other world)).Tracked platform raw adminId csrf created := by
  dsimp only [SessionLife.step]
  split
  · exact h
  · next hwritten =>
      refine ⟨fun session hsession => ?_, h.ordered, fun hrow hrevoked => ?_⟩
      · have hrow : world.db.val.sessionOf platform raw = some session := hsession
        have hsame : world.db.val.sessionOf platform raw = life.world.db.val.sessionOf platform raw := by
          by_contra hne
          exact hwritten ⟨Option.isSome_iff_exists.mpr ⟨session, hrow⟩, hne⟩
        exact h.row session (hsame.symm.trans hrow)
      · obtain ⟨hrevoked, hlost⟩ := Bool.or_eq_false_iff.mp hrevoked
        refine h.gone ?_ hrevoked
        have hgone : world.db.val.sessionOf platform raw = none := hrow
        rw [SessionLife.lost, hgone] at hlost
        simpa using hlost

theorem SessionLife.Tracked.step (h : life.Tracked platform raw adminId csrf created)
    (event : SessionEvent) :
    (life.step platform raw adminId event).Tracked platform raw adminId csrf created := by
  cases event with
  | wait now =>
      dsimp only [SessionLife.step]
      split
      · next hnow => exact h.wait hnow
      · exact h
  | request request => exact h.request request
  | maintenance micros config house => exact h.maintenance micros config house
  | other world => exact h.other world

theorem SessionLife.Tracked.run (h : life.Tracked platform raw adminId csrf created)
    (events : List SessionEvent) :
    (life.run platform raw adminId events).Tracked platform raw adminId csrf created := by
  induction events generalizing life with
  | nil => exact h
  | cons event events ih => exact ih (h.step event)

end

/-! ### The promise -/

section

variable {adminId : Nat} {draw : SessionDraw} {created : Int} {world : AdminWorld}

/-- A session that was created a while ago, before its first request. -/
theorem tracked_created {before : AdminTables}
    (hcreated : newAdminSession platform before created adminId draw ∈ world.db.val.sessions)
    (hnow : created ≤ world.now.utc) :
    ({ world } : SessionLife).Tracked platform draw.raw adminId draw.csrf created := by
  have hrow : world.db.val.sessionOf platform draw.raw =
      some (newAdminSession platform before created adminId draw) :=
    (sessionOf_eq_some_iff world.db.property).mpr ⟨hcreated, rfl⟩
  refine ⟨fun session hsession => ?_, hnow, fun hnone => ?_⟩
  · obtain rfl := Option.some.inj (hrow.symm.trans hsession)
    refine ⟨rfl, rfl, rfl, List.mem_cons_self, ?_⟩
    change created < created + 60000000
    omega
  · cases hrow.symm.trans hnone

/-- What is promised for the session at any moment of its life. A request that comes early enough is
accepted if it passes the checks that have nothing to do with the age of the session. -/
structure SessionLife.AsPromised (platform : AdminPlatform) (draw : SessionDraw) (adminId : Nat)
    (created : Int) (life : SessionLife) : Prop where
  accepted : ∀ request : CookieRequest, (request.run platform draw.raw life.world).1 = true →
    life.world.now.utc < created + platform.lifetime ∧
      ∃ earlier ∈ created :: life.accepted, life.world.now.utc < earlier + platform.idle
  accepts : life.revoked = false → life.world.db.val.enabled adminId = true →
    life.world.now.utc < created + platform.lifetime →
    life.world.now.utc ≤ life.last created + (platform.idle - 60000000) →
    ∀ request : CookieRequest,
      (request.run platform draw.raw life.world).1 = true ↔ request.Passes draw.csrf
  swept : ∀ (request : CookieRequest) (micros : Nat) (config : HouseConfig) (house : HouseTables),
    (request.run platform draw.raw life.world).1 = true →
    (SessionLife.sweep platform config house (life.world.now.utc - micros) life.world).db.val.sessionOf
        platform draw.raw = life.world.db.val.sessionOf platform draw.raw

theorem SessionLife.Tracked.asPromised {life : SessionLife}
    (h : life.Tracked platform draw.raw adminId draw.csrf created) (hraw : CookieText draw.raw) :
    life.AsPromised platform draw adminId created := by
  have haccepted (request : CookieRequest)
      (haccepts : (request.run platform draw.raw life.world).1 = true) :
      ∃ session admin, life.world.db.val.sessionOf platform draw.raw = some session ∧
        session.Live platform life.world.now.utc admin ∧ request.Passes session.csrfToken := by
    have hused := @used_run platform draw.raw request life.world
    generalize request.run platform draw.raw life.world = outcome at haccepts hused
    cases hused with
    | refused hnow hkept => cases haccepts
    | ended hnow hrow hadmin hlive hgone => cases haccepts
    | accepted hnow hrow hadmin hlive hpasses hkept => exact ⟨_, _, hrow, hlive, hpasses⟩
  refine ⟨fun request haccepts => ?_, fun hrevoked henabled hage hused request => ⟨fun haccepts => ?_,
    fun hpasses => ?_⟩, fun request micros config house haccepts => ?_⟩
  · obtain ⟨session, admin, hrow, ⟨hexpires, hidle, -⟩, -⟩ := haccepted request haccepts
    have hremembers := h.row session hrow
    rw [hremembers.expires] at hexpires
    exact ⟨hexpires, session.lastSeenAt, hremembers.seen, hidle⟩
  · obtain ⟨session, admin, hrow, -, hpasses⟩ := haccepted request haccepts
    rwa [(h.row session hrow).csrf] at hpasses
  · cases hrow : life.world.db.val.sessionOf platform draw.raw with
    | none =>
        rcases h.gone hrow hrevoked with hold | hidle
        · omega
        · omega
    | some session =>
        have hremembers := h.row session hrow
        cases hadmin : life.world.db.val.admin? adminId with
        | none =>
            rw [AdminTables.enabled, hadmin] at henabled
            cases henabled
        | some admin =>
            rw [enabled_of_admin? hadmin] at henabled
            rw [← hremembers.csrf] at hpasses
            rw [← hremembers.adminId] at hadmin
            exact run_of_live hraw hrow hadmin (hremembers.live henabled hage hused) hpasses
  · obtain ⟨session, admin, hrow, ⟨hexpires, hidle, -⟩, -⟩ := haccepted request haccepts
    rw [sessionOf_sweep hrow, if_neg (by omega), hrow]

theorem sessions_live_as_promised {before : AdminTables} (hraw : CookieText draw.raw)
    (hcreated : newAdminSession platform before created adminId draw ∈ world.db.val.sessions)
    (hnow : created ≤ world.now.utc) (events : List SessionEvent) :
    (SessionLife.run platform draw.raw adminId { world } events).AsPromised platform draw adminId
      created :=
  ((tracked_created hcreated hnow).run events).asPromised hraw

end

/-- An administrator who has just signed in. -/
def aliceSignedIn : AdminWorld :=
  { aliceWorld with
    db := ⟨{ aliceWorld.db.val with
      sessions := [newAdminSession plainPlatform {} aliceWorld.now.utc 1 ⟨"cookie", "csrf"⟩] },
      by decide⟩ }

/-- So many minutes later. -/
def waitUntil (minutes : Nat) (h : minutes < 600) : SessionEvent :=
  .wait ⟨Totp.unixEpoch + minutes * 60000000, by
    unfold Totp.unixEpoch Py.representableDays Py.microsPerDay Py.microsPerMinute
    omega⟩

/-- The sweep of a pass that started a minute ago. -/
def sweepSessions : SessionEvent :=
  .maintenance 60000000 { platform := ⟨.utc, fun _ => none, id⟩ }
    { db := ⟨{}, Tables.consistent_empty⟩, admins := aliceWorld.db }

/-- Alice comes back within the idle time, twice, and then after it. -/
def aliceEvents : List SessionEvent :=
  [.request (.page {}), waitUntil 10 (by decide), .request (.page {}), waitUntil 20 (by decide),
    sweepSessions, waitUntil 39 (by decide), .request (.page {}), waitUntil 70 (by decide),
    .request (.page {})]

theorem sessions_live_as_promised_alice :
    let life := SessionLife.run plainPlatform "cookie" 1 { world := aliceSignedIn }
    (∀ events, (life events).AsPromised plainPlatform ⟨"cookie", "csrf"⟩ 1 aliceWorld.now.utc) ∧
      (life aliceEvents).accepted =
        [Totp.unixEpoch + 2340000000, Totp.unixEpoch + 600000000, Totp.unixEpoch] ∧
      (life (aliceEvents.take 6)).world.db.val.sessions.length = 1 ∧
      (life (aliceEvents ++ [sweepSessions])).world.db.val.sessions = [] := by
  intro life
  have hraw : CookieText (SessionDraw.mk "cookie" "csrf").raw := by
    unfold CookieText
    decide
  refine ⟨fun events => ?_, by decide +kernel, by decide +kernel, by decide +kernel⟩
  exact @sessions_live_as_promised plainPlatform 1 ⟨"cookie", "csrf"⟩ aliceWorld.now.utc aliceSignedIn {}
    hraw (List.mem_singleton_self _) le_rfl events

end Naco
