import Naco.Proof.Admins

/-!
# The last SUPERUSER

Demoting, disabling or deleting an enabled SUPERUSER needs another one, and the others are counted in
the transaction that makes the change. So one is left after every schedule of requests, whoever sends
them and however long ago their callers were checked.
-/

namespace Naco

open Py

def HasSuperuser (admins : List AdminUser) : Prop :=
  ∃ admin ∈ admins, admin.role = .superuser ∧ admin.enabled = true

instance (admins : List AdminUser) : Decidable (HasSuperuser admins) :=
  inferInstanceAs (Decidable (∃ admin ∈ admins, _))

/-! ### Rows that are left -/

theorem mem_replaceRow_of_ne {rows : List AdminUser} {row new : AdminUser} (hrow : row ∈ rows)
    (hne : row.id ≠ new.id) : row ∈ replaceRow rows (·.id) new :=
  List.mem_map.mpr ⟨row, hrow, if_neg hne⟩

theorem new_mem_replaceRow {rows : List AdminUser} {row new : AdminUser} (hrow : row ∈ rows)
    (hid : row.id = new.id) : new ∈ replaceRow rows (·.id) new :=
  List.mem_map.mpr ⟨row, hrow, if_pos hid⟩

theorem exists_of_otherSuperusers {t : AdminTables} {id : Nat} (h : 0 < otherSuperusers t id) :
    ∃ admin ∈ t.admins, (admin.role = .superuser ∧ admin.enabled = true) ∧ admin.id ≠ id := by
  simpa using List.countP_pos_iff.mp h

/-- Two rows with one id are one row. -/
theorem AdminTables.eq_of_admin? {t : AdminTables} (ht : t.Consistent) {id : Nat} {admin row : AdminUser}
    (hadmin : t.admin? id = some admin) (hrow : row ∈ t.admins) (hid : row.id = id) : row = admin := by
  obtain ⟨hmem, hadmin⟩ := AdminTables.admin?_eq_some hadmin
  exact Rows.eq_of_key ht.adminIds hrow hmem (hid.trans hadmin.symm)

theorem AdminTables.admin?_of_mem {t : AdminTables} (ht : t.Consistent) {admin : AdminUser}
    (hmem : admin ∈ t.admins) : t.admin? admin.id = some admin :=
  (Rows.find?_eq_some_iff ht.adminIds).mpr ⟨hmem, rfl⟩

section

variable {t : AdminTables} {admin changed : AdminUser}

/-- The changed row is an enabled SUPERUSER if the old one was, or there is another. -/
theorem hasSuperuser_withAdmin (ht : t.Consistent) (hadmin : t.admin? changed.id = some admin)
    (hkept : admin.role = .superuser → admin.enabled = true →
      changed.role = .superuser ∧ changed.enabled = true ∨ 0 < otherSuperusers t changed.id)
    (h : HasSuperuser t.admins) : HasSuperuser (t.withAdmin changed).admins := by
  obtain ⟨row, hrow, hsuper⟩ := h
  by_cases hid : row.id = changed.id
  · obtain rfl := AdminTables.eq_of_admin? ht hadmin hrow hid
    rcases hkept hsuper.1 hsuper.2 with hchanged | hother
    · exact ⟨changed, new_mem_replaceRow hrow hid, hchanged⟩
    · obtain ⟨other, hmem, hsuper, hne⟩ := exists_of_otherSuperusers hother
      exact ⟨other, mem_replaceRow_of_ne hmem hne, hsuper⟩
  · exact ⟨row, mem_replaceRow_of_ne hrow hid, hsuper⟩

theorem hasSuperuser_withAdmin_same (ht : t.Consistent) {id : Nat} (hadmin : t.admin? id = some admin)
    (hid : changed.id = admin.id) (hrole : changed.role = admin.role)
    (henabled : admin.enabled = true → changed.enabled = true) (h : HasSuperuser t.admins) :
    HasSuperuser (t.withAdmin changed).admins := by
  obtain ⟨-, rfl⟩ := AdminTables.admin?_eq_some hadmin
  rw [← hid] at hadmin
  refine hasSuperuser_withAdmin ht hadmin ?_ h
  intro hsuper hadminEnabled
  exact .inl ⟨hrole.trans hsuper, henabled hadminEnabled⟩

theorem hasSuperuser_deleteRow (ht : t.Consistent) {id : Nat} (hadmin : t.admin? id = some admin)
    (hother : admin.role = .superuser → admin.enabled = true → 0 < otherSuperusers t id)
    (h : HasSuperuser t.admins) : HasSuperuser (deleteRow t.admins (·.id) id) := by
  have hleft {row : AdminUser} (hrow : row ∈ t.admins) (hne : row.id ≠ id) :
      row ∈ deleteRow t.admins (·.id) id :=
    List.mem_filter.mpr ⟨hrow, by simpa using hne⟩
  obtain ⟨row, hrow, hsuper⟩ := h
  by_cases hid : row.id = id
  · obtain rfl := AdminTables.eq_of_admin? ht hadmin hrow hid
    obtain ⟨other, hmem, hothersuper, hne⟩ :=
      exists_of_otherSuperusers (hother hsuper.1 hsuper.2)
    exact ⟨other, hleft hmem hne, hothersuper⟩
  · exact ⟨row, hleft hrow hid, hsuper⟩

end

theorem UsesFactor.same {admin changed : AdminUser} {factor : Option Factor}
    (h : UsesFactor admin changed factor) :
    changed.id = admin.id ∧ changed.role = admin.role ∧ changed.enabled = admin.enabled := by
  match factor, h with
  | none, ⟨_, h⟩ => exact h ▸ ⟨rfl, rfl, rfl⟩
  | some (.step _ _ _), ⟨_, _, _, h⟩ => exact h ▸ ⟨rfl, rfl, rfl⟩
  | some (.recoveryCode _ _), ⟨_, _, h⟩ => exact h ▸ ⟨rfl, rfl, rfl⟩

/-! ### Every request -/

/-- A request that succeeds leaves an enabled SUPERUSER if there was one. -/
theorem AdminEffect.hasSuperuser {platform : AdminPlatform} {seen : List AdminWorld}
    {world : AdminWorld} {request : AdminRequest} {answer : AdminAnswer} {t : AdminTables}
    (heffect : AdminEffect platform seen world request answer t) (h : HasSuperuser world.admins) :
    HasSuperuser t.admins := by
  have ht := world.db.property
  cases heffect with
  | login _ _ _ hadmin hfactor =>
      obtain ⟨hid, hrole, henabled⟩ := hfactor.same
      exact hasSuperuser_withAdmin_same ht hadmin hid hrole (fun hold => henabled.trans hold) h
  | changePassword _ hadmin => exact hasSuperuser_withAdmin_same ht hadmin rfl rfl (fun hold => hold) h
  | totpSetup _ hadmin => exact hasSuperuser_withAdmin_same ht hadmin rfl rfl (fun hold => hold) h
  | totpConfirm hadmin => exact hasSuperuser_withAdmin_same ht hadmin rfl rfl (fun hold => hold) h
  | totpDisable _ hadmin => exact hasSuperuser_withAdmin_same ht hadmin rfl rfl (fun hold => hold) h
  | createAdmin =>
      obtain ⟨row, hrow, hsuper⟩ := h
      exact ⟨row, List.mem_append_left _ hrow, hsuper⟩
  | updateAdmin hadmin hother =>
      obtain ⟨-, rfl⟩ := AdminTables.admin?_eq_some hadmin
      refine hasSuperuser_withAdmin ht hadmin ?_ h
      exact fun hrole _ => hother hrole
  | resetAdminPassword hadmin =>
      exact hasSuperuser_withAdmin_same ht hadmin rfl rfl (fun hold => hold) h
  | resetAdminTotp hadmin => exact hasSuperuser_withAdmin_same ht hadmin rfl rfl (fun hold => hold) h
  | deleteAdmin hadmin hother => exact hasSuperuser_deleteRow ht hadmin hother h
  | ctlResetPassword hadmin =>
      have hmem := AdminTables.admin?_of_mem ht (List.mem_of_find?_eq_some hadmin)
      exact hasSuperuser_withAdmin_same ht hmem rfl rfl (fun _ => rfl) h
  | ctlResetTotp hadmin =>
      have hmem := AdminTables.admin?_of_mem ht (List.mem_of_find?_eq_some hadmin)
      exact hasSuperuser_withAdmin_same ht hmem rfl rfl (fun hold => hold) h

/-! ### First start -/

theorem runAlone_adminTransaction {α : Type} {route : AdminWorld → Except RouteError (α × AdminTables)}
    (world : AdminWorld) {answer : α} {t : AdminTables} {db : AdminDb}
    (hroute : route world = .ok (answer, t)) (hcommit : t.commit = .ok db) :
    (adminTransaction route).runAlone world = (.ok answer, { world with db }) := by
  simp only [adminTransaction, Coroutine.atomic, Coroutine.runAlone, hroute, hcommit]

/-- `ensure_admin` on tables without administrators. -/
theorem admins_ensureAdmin {world : AdminWorld} (hempty : world.admins = []) (digest : String) :
    ((ensureAdmin digest).runAlone world).2.admins = [firstAdmin digest] := by
  obtain ⟨⟨t, ht⟩, now, monotonic, guesses, perIp⟩ := world
  obtain ⟨admins, sessions, tokens⟩ := t
  obtain rfl : admins = [] := hempty
  have hsessions : sessions = [] := by
    rw [List.eq_nil_iff_forall_not_mem]
    intro session hsession
    obtain ⟨admin, hadmin, -⟩ := ht.sessionAdmins session hsession
    cases hadmin
  subst hsessions
  have hcommit : AdminTables.commit { admins := [firstAdmin digest], tokens } = .ok
      ⟨{ admins := [firstAdmin digest], tokens },
        ⟨List.nodup_singleton _, List.nodup_singleton _, List.nodup_nil, List.nodup_nil,
          fun _ h => absurd h (by simp), ht.tokenIds, ht.tokenNames, ht.tokenHashes⟩⟩ :=
    dif_pos _
  have hstart : (adminTransaction fun world => .ok ((), { world.db.val with
      admins := world.admins ++ [{ firstAdmin digest with id := nextId (world.admins.map (·.id)) }] })
      : Coroutine AdminWorld (Except RouteError Unit)).runAlone
        ⟨⟨{ tokens }, ht⟩, now, monotonic, guesses, perIp⟩ = (.ok (), _) :=
    runAlone_adminTransaction _ rfl hcommit
  exact congrArg (fun done => done.2.admins) hstart

theorem hasSuperuser_step {platform : AdminPlatform} {loop loop' : AdminLoop}
    (h : HasSuperuser loop.state.admins) (hstep : AdminLoop.Step platform loop loop') :
    HasSuperuser loop'.state.admins := by
  cases hstep with
  | quiet _ hkeeps =>
      rw [hkeeps]
      exact h
  | returned ret _ _ hends =>
      cases hresult : ret.result with
      | error error =>
          rw [hresult] at hends
          rw [hends.1]
          exact h
      | ok answer =>
          rw [hresult] at hends
          exact AdminEffect.hasSuperuser hends h

/-- A SUPERUSER is left after every schedule. A request that is refused because there would be none
changes nothing; whatever the request, only the step it succeeds with changes administrators. -/
theorem superuser_remains (platform : AdminPlatform) {empty : AdminWorld} (hempty : empty.admins = [])
    (digest : String) (schedule : List AdminMove) :
    let loop := AdminLoop.sinceStart platform empty digest schedule
    HasSuperuser loop.state.admins ∧
      ∀ m : AdminMove,
        (∀ ret, (loop.step platform m).returned = ret :: loop.returned →
          ret.result = .error (.refused lastSuperuser) → (loop.step platform m).state = loop.state) ∧
        ((loop.step platform m).state.admins = loop.state.admins ∨
          ∃ ret answer, (loop.step platform m).returned = ret :: loop.returned ∧
            ret.result = .ok answer) := by
  intro loop
  refine ⟨?_, fun m => ?_⟩
  · refine AdminLoop.runFrom_invariant (I := fun loop => HasSuperuser loop.state.admins) ?_ ?_ schedule
    · exact fun _ _ => hasSuperuser_step
    · rw [admins_ensureAdmin hempty]
      exact ⟨_, List.mem_singleton_self _, rfl, rfl⟩
  · refine ⟨fun ret hret hlast => ?_, AdminLoop.admins_step schedule m⟩
    have hstep : AdminLoop.Step platform loop (loop.step platform m) := AdminLoop.step_runFrom schedule m
    cases hstep with
    | quiet hreturned _ =>
        rw [hreturned] at hret
        exact absurd hret (List.cons_ne_self _ _).symm
    | returned ret' hreturned _ hends =>
        obtain rfl : ret' = ret := (List.cons.inj (hreturned.symm.trans hret)).1
        rw [hlast] at hends
        exact hends.2 rfl

/-- A platform on which a hash is the text it is of. -/
def plainPlatform : AdminPlatform where
  bcrypt := { checkpw := fun raw hash => .ok (raw = encode hash), dummyHash := "$2b$12$" }
  sha256 := fun text => text
  otp := fun _ _ => "123456"

/-- No administrator yet, and an API token of a SUPERUSER. -/
def tokenWorld : AdminWorld where
  db := ⟨{ tokens := [{ id := 1, name := "ops", tokenHash := "naco_ops", role := .superuser }] },
    by decide⟩
  now := ⟨Totp.unixEpoch, Totp.inRange_unixEpoch⟩
  monotonic := 0
  guesses := GuessGuard.new 3
  perIp := { limit := 20, window := 300 }

/-- Two SUPERUSERs are demoted at a time: both callers are checked before either change. -/
def mutualDemotion : List AdminMove :=
  let headers : Headers := { authorization := "Bearer naco_ops" }
  [.call (.createAdmin headers ⟨"bob", .superuser⟩ "hash"), .resume 0, .resume 0,
    .call (.updateAdmin headers 1 { role := some .viewer }),
    .call (.updateAdmin headers 2 { role := some .viewer }), .resume 0, .resume 1, .resume 0, .resume 0]

theorem superuser_remains_mutualDemotion :
    tokenWorld.admins = [] ∧
      (AdminLoop.sinceStart plainPlatform tokenWorld "hash" mutualDemotion).state.admins.map (·.role) =
        [.viewer, .superuser] ∧
      HasSuperuser
        (AdminLoop.sinceStart plainPlatform tokenWorld "hash" mutualDemotion).state.admins :=
  ⟨rfl, by decide +kernel, (superuser_remains plainPlatform rfl "hash" mutualDemotion).1⟩

end Naco
