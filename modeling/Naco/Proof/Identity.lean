import Naco.Identity

/-!
# Accepted credentials

Whatever else is committed while `authenticateUser` runs: a user it accepts is enabled, as one of its
transactions read the row.
-/

namespace Naco

open Py Coroutine

variable {other : Database → Database → Prop} {db last : Database}
  {trace : List (Departure Database)}

/-- The row of this user is that of one of the states that a run left, and the group is the one that
the row had in one of them. -/
def Loaded (trace : List (Departure Database)) (name : String) (user : UserInfo) : Prop :=
  ∃ wrote ∈ trace, ∃ read ∈ trace, ∃ row row', wrote.state.val.users.find? (·.username = name) = some row ∧
    read.state.val.users.find? (·.username = name) = some row' ∧ row'.id = row.id ∧
    user = UserInfo.ofRow row (groupOf read.state.val row')

theorem Loaded.mono {trace trace' : List (Departure Database)} {name : String} {user : UserInfo}
    (h : Loaded trace name user) (hsub : trace ⊆ trace') : Loaded trace' name user := by
  obtain ⟨wrote, hwrote, read, hread, hrows⟩ := h
  exact ⟨wrote, hsub hwrote, read, hsub hread, hrows⟩

/-- A state that one transaction read. -/
theorem loaded_of_loadUser {departure : Departure Database} (hmem : departure ∈ trace) {name : String}
    {user : UserInfo} {hash : Option String}
    (h : loadUser departure.state.val name = some (user, hash)) : Loaded trace name user := by
  obtain ⟨row, hrow, huser⟩ := Option.map_eq_some_iff.mp h
  exact ⟨departure, hmem, departure, hmem, row, row, hrow, hrow, rfl, (Prod.mk.inj huser).1.symm⟩

/-- A run that leaves a state at all leaves its first state. -/
theorem exists_first_departure {α : Type} {c : Coroutine Database α} {result : α}
    (h : Run other c db trace result last) (hne : trace ≠ []) :
    ∃ departure ∈ trace, departure.state = db := by
  cases h with
  | done => exact absurd rfl hne
  | step rest => exact ⟨_, List.mem_cons_self, rfl⟩
  | other change rest => exact ⟨_, List.mem_cons_self, rfl⟩

/-- The row that the session keeps is committed. -/
theorem find?_of_writeProvisioned {cfg : LdapConfig} {name : String} {entry : LdapUser} {kept : User}
    (h : (writeProvisioned cfg name entry db).1 = some (some kept)) :
    (writeProvisioned cfg name entry db).2.val.users.find? (·.username = name) = some kept := by
  unfold writeProvisioned at h ⊢
  split at h
  · cases h
  · next t ht =>
      split at h
      · next db' hcommit =>
          rw [commit_eq_ok hcommit]
          exact Option.some.inj h
      · cases h

theorem loaded_of_provision {cfg : LdapConfig} {name : String} {entry : LdapUser} {user : UserInfo}
    (h : Run other (provision cfg name entry) db trace (some user) last) :
    Loaded trace name user := by
  obtain ⟨first, before, after, rfl, -, hrest⟩ := Run.of_step h
  dsimp only [Coroutine.bind] at hrest
  cases hwritten : (writeProvisioned cfg name entry first).1 with
  | none =>
      rw [hwritten] at hrest
      cases Run.of_done hrest
  | some kept =>
      rw [hwritten] at hrest
      obtain ⟨second, between, rest, rfl, -, hdone⟩ := Run.of_step hrest
      obtain ⟨row, hrow, huser⟩ := Option.map_eq_some_iff.mp (Run.of_done hdone)
      obtain ⟨wrote, hwrote, hstate⟩ := exists_first_departure hrest (by simp)
      have hsecond : Departure.own second ∈ before ++ .own first :: (between ++ .own second :: rest) := by
        simp
      cases hfilter : kept.filter (·.id = row.id) with
      | none =>
          rw [hfilter] at huser
          exact ⟨.own second, hsecond, .own second, hsecond, row, row, hrow, hrow, rfl, huser.symm⟩
      | some written =>
          rw [hfilter] at huser
          obtain ⟨hwrite, hid⟩ := Option.filter_eq_some_iff.mp hfilter
          refine ⟨wrote, List.mem_append_right _ (List.mem_cons_of_mem _ hwrote), .own second, hsecond,
            written, row, ?_, hrow, (of_decide_eq_true hid).symm, huser.symm⟩
          rw [hstate]
          rw [hwrite] at hwritten
          exact find?_of_writeProvisioned hwritten

theorem accepted_of_authenticateLdap {cfg : LdapConfig} {directory : Directory}
    {name password : String} {info : Option UserInfo} {result : IdentityResult}
    (h : Run other (authenticateLdap cfg directory name password info) db trace result last)
    (hok : result.ok = true) :
    ∃ user, result.user = some user ∧ user.enabled = true ∧ Loaded trace name user := by
  unfold authenticateLdap at h
  split at h
  · cases Run.of_done h
    cases hok
  · cases Run.of_done h
    cases hok
  · obtain ⟨provisioned, middle, before, after, rfl, hprovision, hrest⟩ := Run.of_bind h
    split at hrest
    · next henabled =>
        cases Run.of_done hrest
        cases provisioned with
        | none => cases henabled
        | some user => exact ⟨user, rfl, henabled, (loaded_of_provision hprovision).mono (by simp)⟩
    · cases Run.of_done hrest
      cases hok

theorem accepted_of_authenticateFound {creds : Credentials} {directory : Directory}
    {name password : String} {found : Option (UserInfo × Option String)} {result : IdentityResult}
    (h : Run other (authenticateFound creds directory name password found) db trace result last)
    (hok : result.ok = true) :
    ∃ user, result.user = some user ∧ user.enabled = true ∧
      ((∃ hash, found = some (user, hash)) ∨ Loaded trace name user) := by
  unfold authenticateFound at h
  dsimp only at h
  split at h
  · cases Run.of_done h
    cases hok
  · next henabled =>
      split at h
      · next hlocal =>
          split at h
          · obtain ⟨_, _, _, _, _, _, hrest⟩ := Run.of_bind h
            cases Run.of_done hrest
            cases found with
            | none => cases hlocal
            | some found =>
                refine ⟨found.1, rfl, ?_, .inl ⟨found.2, rfl⟩⟩
                simpa using henabled
          · cases Run.of_done h
            cases hok
      · split at h
        · cases Run.of_done h
          cases hok
        · obtain ⟨user, huser, henabled, hloaded⟩ := accepted_of_authenticateLdap h hok
          exact ⟨user, huser, henabled, .inr hloaded⟩

/-- A user that is accepted is enabled in one of the states that the call read. -/
theorem accepted_of_authenticateUser {creds : Credentials} {directory : Directory}
    {username password : String} {result : IdentityResult}
    (h : Run other (authenticateUser creds directory username password) db trace result last)
    (hok : result.ok = true) :
    ∃ user, result.user = some user ∧ user.enabled = true ∧
      Loaded trace (canonicalUsername (some username)) user := by
  unfold authenticateUser at h
  dsimp only at h
  split at h
  · cases Run.of_done h
    cases hok
  · obtain ⟨first, before, after, rfl, -, hrest⟩ := Run.of_step h
    obtain ⟨user, huser, henabled, hfound⟩ := accepted_of_authenticateFound hrest hok
    refine ⟨user, huser, henabled, ?_⟩
    rcases hfound with ⟨hash, hload⟩ | hloaded
    · have hfirst : Departure.own first ∈ before ++ .own first :: after := by simp
      exact loaded_of_loadUser hfirst hload
    · exact hloaded.mono (by simp)

/-! The credentials of Alice, a local user. -/

def aliceHash : String := "$2b$12$CIjVkpVXvgvVVfKeQ0yqnOBNFdC4T7t7g4ZfqsKwtnc56S8uX7MlS"

def aliceCredentials : Credentials where
  bcrypt :=
    { checkpw := fun raw hashed => .ok (raw = encode "correct horse" ∧ hashed = aliceHash)
      dummyHash := "$2b$12$wcMYh5lZpX4DCw5bKjO4COOF4wfP2bhOx5H4BnJrl7ANp9lk.g1C." }
  ldap := {}

end Naco
