import Naco.Proof.Superusers

/-!
# Second factors

A code is good for one request. Where a transaction is given up between reading a row and writing it,
the row is read again, and what the first reading found is checked against the second. So the steps
accepted for one enrolled secret increase, and a recovery code is spent once.
-/

namespace Naco

open Py

def Factor.adminId : Factor → Nat
  | .step id _ _ => id
  | .recoveryCode id _ => id

/-! ### The record -/

namespace AdminReturn

/-- The return of a `totp_setup` that drew this secret. -/
def draws (secret : String) (ret : AdminReturn) : Bool :=
  match ret.request, ret.result with
  | .totpSetup _ _ drawn, .ok _ => drawn = secret
  | _, _ => false

/-- The return of a `totp_confirm` that stored this hash. -/
def stores (hashed : String) (ret : AdminReturn) : Bool :=
  match ret.request, ret.result with
  | .totpConfirm _ _ hashes, .ok _ => hashed ∈ hashes
  | _, _ => false

/-- The factor that a committed request used up. -/
def factor (ret : AdminReturn) : Option Factor :=
  match ret.result with
  | .ok answer => answer.factor
  | .error _ => none

/-- The step of this secret, if that is what the request used up. -/
def acceptedStep (id : Nat) (secret : String) (ret : AdminReturn) : Option Int :=
  match ret.factor with
  | some (.step id' secret' step) => if id' = id ∧ secret' = secret then some step else none
  | _ => none

end AdminReturn

/-- The steps accepted for an enrolled secret, the latest first: those since it was drawn. -/
def acceptedSteps (id : Nat) (secret : String) (returned : List AdminReturn) : List Int :=
  (returned.takeWhile fun ret => !ret.draws secret).filterMap (·.acceptedStep id secret)

/-- How many requests spent a stored recovery code: those since it was stored. -/
def timesSpent (id : Nat) (hashed : String) (returned : List AdminReturn) : Nat :=
  (returned.takeWhile fun ret => !ret.stores hashed).countP (·.factor = some (.recoveryCode id hashed))

theorem acceptedSteps_cons (id : Nat) (secret : String) (ret : AdminReturn)
    (older : List AdminReturn) :
    acceptedSteps id secret (ret :: older) =
      if ret.draws secret then [] else
        (ret.acceptedStep id secret).toList ++ acceptedSteps id secret older := by
  unfold acceptedSteps
  cases hdraws : ret.draws secret with
  | true => simp [hdraws]
  | false =>
      rw [List.takeWhile_cons_of_pos (by simpa using hdraws)]
      cases hstep : ret.acceptedStep id secret with
      | none => simp [hstep]
      | some step => simp [hstep]

theorem timesSpent_cons (id : Nat) (hashed : String) (ret : AdminReturn) (older : List AdminReturn) :
    timesSpent id hashed (ret :: older) =
      if ret.stores hashed then 0 else
        timesSpent id hashed older + if ret.factor = some (.recoveryCode id hashed) then 1 else 0 := by
  unfold timesSpent
  cases hstores : ret.stores hashed with
  | true => simp [hstores]
  | false =>
      rw [List.takeWhile_cons_of_pos (by simpa using hstores), List.countP_cons]
      simp

/-! ### Enrolments -/

/-- What an account has of a second factor. -/
structure Enrolment where
  secret : Option String := none
  pending : Option String := none
  last : Option Int := none
  codes : List String := []

def AdminUser.enrolment (admin : AdminUser) : Enrolment where
  secret := admin.secret
  pending := admin.pendingSecret
  last := admin.totpLastStep
  codes := admin.recoveryCodes

/-- What a request does to the enrolment of one account, and the factor of it that it uses up. -/
inductive Enrolment.Step (request : AdminRequest) (e : Enrolment) : Option Factor → Enrolment → Prop
  | keep : Step request e none e
  | setup {headers : Headers} {password drawn : String}
      (hrequest : request = .totpSetup headers password drawn) (hsecret : e.secret = none) :
      Step request e none { e with pending := (some drawn).filter (· ≠ "") }
  | confirm {headers : Headers} {code secret : String} {hashes : List String} {id : Nat} {step : Int}
      (hrequest : request = .totpConfirm headers code hashes) (hpending : e.pending = some secret) :
      Step request e (some (.step id secret step)) ⟨some secret, none, some step, hashes⟩
  | accept {id : Nat} {secret : String} {step : Int} (hsecret : e.secret = some secret)
      (hnewer : ∀ last ∈ e.last, last < step) :
      Step request e (some (.step id secret step)) { e with last := some step }
  | spend {id : Nat} {hashed : String} (hcodes : hashed ∈ e.codes) :
      Step request e (some (.recoveryCode id hashed)) { e with codes := e.codes.filter (· ≠ hashed) }
  | disable {id : Nat} {secret : String} {step : Int} (hsecret : e.secret = some secret)
      (hnewer : ∀ last ∈ e.last, last < step) :
      Step request e (some (.step id secret step)) { pending := e.pending }

/-- The account has this factor to use up. -/
def Enrolment.Has (e : Enrolment) : Factor → Prop
  | .step _ secret step =>
      e.pending = some secret ∨ e.secret = some secret ∧ ∀ last ∈ e.last, last < step
  | .recoveryCode _ hashed => hashed ∈ e.codes

/-! ### Effects on enrolments -/

/-- The part of a factor that is of one account. -/
def Factor.of (id : Nat) (factor : Option Factor) : Option Factor :=
  factor.filter (·.adminId = id)

@[simp]
theorem Factor.of_none (id : Nat) : Factor.of id none = none :=
  rfl

theorem Factor.of_some {factor : Factor} {id : Nat} (h : factor.adminId = id) :
    Factor.of id (some factor) = some factor :=
  Option.filter_eq_some_iff.mpr ⟨rfl, by simpa using h⟩

theorem Factor.of_step (id : Nat) (secret : String) (step : Int) :
    Factor.of id (some (.step id secret step)) = some (.step id secret step) :=
  Factor.of_some rfl

theorem Factor.of_recoveryCode (id : Nat) (hashed : String) :
    Factor.of id (some (.recoveryCode id hashed)) = some (.recoveryCode id hashed) :=
  Factor.of_some rfl

theorem Factor.of_ne {factor : Option Factor} {id : Nat} (h : ∀ found ∈ factor, found.adminId ≠ id) :
    Factor.of id factor = none := by
  rw [Factor.of, Option.filter_eq_none_iff]
  intro found hfound
  simpa using h found hfound

theorem mem_withAdmin {t : AdminTables} {changed row : AdminUser}
    (h : row ∈ (t.withAdmin changed).admins) :
    row = changed ∨ row ∈ t.admins ∧ row.id ≠ changed.id := by
  obtain ⟨old, hold, hrow⟩ := List.mem_map.mp h
  split at hrow
  · exact .inl hrow.symm
  · next hne => exact .inr (hrow ▸ ⟨hold, hne⟩)

/-- What a request does to the enrolments: an account is new, or it makes a step. -/
def EnrolmentsStep (world : AdminWorld) (request : AdminRequest) (factor : Option Factor)
    (admins : List AdminUser) : Prop :=
  ∀ row' ∈ admins, row'.enrolment = {} ∨
    ∃ row ∈ world.admins, row.id = row'.id ∧
      Enrolment.Step request row.enrolment (Factor.of row.id factor) row'.enrolment

section

variable {world : AdminWorld} {request : AdminRequest} {admin changed : AdminUser}

theorem enrolmentsStep_subset {admins : List AdminUser} (h : ∀ row ∈ admins, row ∈ world.admins) :
    EnrolmentsStep world request none admins :=
  fun row hrow => .inr ⟨row, h row hrow, rfl, .keep⟩

/-- The row of one account is changed. -/
theorem enrolmentsStep_withAdmin {id : Nat} {factor : Option Factor}
    (hadmin : world.db.val.admin? id = some admin) (hid : changed.id = admin.id)
    (hfactor : ∀ found ∈ factor, found.adminId = id)
    (hstep : Enrolment.Step request admin.enrolment factor changed.enrolment) :
    EnrolmentsStep world request factor (world.db.val.withAdmin changed).admins := by
  obtain ⟨hmem, rfl⟩ := AdminTables.admin?_eq_some hadmin
  intro row hrow
  rcases mem_withAdmin hrow with rfl | ⟨hold, hne⟩
  · refine .inr ⟨admin, hmem, hid.symm, ?_⟩
    cases factor with
    | none => exact hstep
    | some found =>
        rw [Factor.of_some (hfactor found rfl)]
        exact hstep
  · refine .inr ⟨row, hold, rfl, ?_⟩
    rw [Factor.of_ne]
    · exact .keep
    · intro found hfound hother
      exact hne (hother.symm.trans ((hfactor found hfound).trans hid.symm))

theorem enrolmentsStep_cleared (hcleared : changed.enrolment = {}) :
    EnrolmentsStep world request none (world.db.val.withAdmin changed).admins := by
  intro row hrow
  rcases mem_withAdmin hrow with rfl | ⟨hold, -⟩
  · exact .inl hcleared
  · exact .inr ⟨row, hold, rfl, .keep⟩

end

theorem UsesFactor.enrolmentStep {request : AdminRequest} {admin changed : AdminUser}
    {factor : Option Factor} (h : UsesFactor admin changed factor) :
    (∀ found ∈ factor, found.adminId = admin.id) ∧
      Enrolment.Step request admin.enrolment factor changed.enrolment := by
  match factor, h with
  | none, ⟨_, h⟩ =>
      subst h
      exact ⟨nofun, .keep⟩
  | some (.step id secret step), ⟨hid, hsecret, hnewer, h⟩ =>
      subst h
      refine ⟨?_, .accept hsecret hnewer⟩
      rintro found ⟨⟩
      exact hid
  | some (.recoveryCode id hashed), ⟨hid, hcodes, h⟩ =>
      subst h
      refine ⟨?_, .spend hcodes⟩
      rintro found ⟨⟩
      exact hid

/-- Every request makes a step of one account at most, and uses up a factor of that account only. -/
theorem AdminEffect.enrolmentsStep {platform : AdminPlatform} {seen : List AdminWorld}
    {world : AdminWorld} {request : AdminRequest} {answer : AdminAnswer} {t : AdminTables}
    (heffect : AdminEffect platform seen world request answer t) :
    EnrolmentsStep world request answer.factor t.admins := by
  have ht := world.db.property
  have hnone : ∀ {id : Nat}, ∀ found ∈ (none : Option Factor), found.adminId = id := nofun
  cases heffect with
  | login _ _ _ hadmin hfactor =>
      obtain ⟨hid, hstep⟩ := hfactor.enrolmentStep
      rw [(AdminTables.admin?_eq_some hadmin).2] at hid
      exact enrolmentsStep_withAdmin hadmin hfactor.same.1 hid hstep
  | changePassword _ hadmin => exact enrolmentsStep_withAdmin hadmin rfl hnone .keep
  | totpSetup _ hadmin hsecret =>
      exact enrolmentsStep_withAdmin hadmin rfl hnone (.setup rfl hsecret)
  | @totpConfirm _ _ _ _ _ _ pending _ hadmin hpending =>
      have hne : (some pending).filter (· ≠ "") = some pending := by
        rw [← hpending, AdminUser.pendingSecret, Option.filter_filter]
        simp
      refine enrolmentsStep_withAdmin hadmin rfl ?_ ?_
      · rintro found ⟨⟩
        rfl
      · simp only [AdminUser.enrolment, AdminUser.secret, hne]
        exact .confirm rfl hpending
  | totpDisable _ hadmin hsecret hnewer =>
      refine enrolmentsStep_withAdmin hadmin rfl ?_ (.disable hsecret hnewer)
      rintro found ⟨⟩
      rfl
  | createAdmin =>
      intro row hrow
      rcases List.mem_append.mp hrow with hold | hnew
      · exact .inr ⟨row, hold, rfl, .keep⟩
      · rw [List.mem_singleton.mp hnew]
        exact .inl rfl
  | updateAdmin hadmin => exact enrolmentsStep_withAdmin hadmin rfl hnone .keep
  | resetAdminPassword hadmin => exact enrolmentsStep_withAdmin hadmin rfl hnone .keep
  | resetAdminTotp => exact enrolmentsStep_cleared rfl
  | deleteAdmin => exact enrolmentsStep_subset fun row hrow => (List.mem_filter.mp hrow).1
  | ctlResetPassword hadmin =>
      have hmem := AdminTables.admin?_of_mem ht (List.mem_of_find?_eq_some hadmin)
      exact enrolmentsStep_withAdmin hmem rfl hnone .keep
  | ctlResetTotp => exact enrolmentsStep_cleared rfl

theorem UsesFactor.has {admin changed : AdminUser} {factor : Factor}
    (h : UsesFactor admin changed (some factor)) :
    factor.adminId = admin.id ∧ admin.enrolment.Has factor := by
  match factor, h with
  | .step id secret step, ⟨hid, hsecret, hnewer, _⟩ => exact ⟨hid, .inr ⟨hsecret, hnewer⟩⟩
  | .recoveryCode id hashed, ⟨hid, hcodes, _⟩ => exact ⟨hid, hcodes⟩

/-- A factor that is used up is one that its account has. -/
theorem AdminEffect.hasFactor {platform : AdminPlatform} {seen : List AdminWorld} {world : AdminWorld}
    {request : AdminRequest} {answer : AdminAnswer} {t : AdminTables}
    (heffect : AdminEffect platform seen world request answer t) {factor : Factor}
    (h : answer.factor = some factor) :
    ∃ row ∈ world.admins, row.id = factor.adminId ∧ row.enrolment.Has factor := by
  cases heffect with
  | login _ _ _ hadmin hfactor =>
      dsimp only at h
      rw [h] at hfactor
      obtain ⟨hid, hhas⟩ := hfactor.has
      exact ⟨_, (AdminTables.admin?_eq_some hadmin).1, hid.symm, hhas⟩
  | totpConfirm hadmin hpending =>
      obtain ⟨hmem, hid⟩ := AdminTables.admin?_eq_some hadmin
      cases h
      exact ⟨_, hmem, hid, .inl hpending⟩
  | totpDisable _ hadmin hsecret hnewer =>
      obtain ⟨hmem, hid⟩ := AdminTables.admin?_eq_some hadmin
      cases h
      exact ⟨_, hmem, hid, .inr ⟨hsecret, hnewer⟩⟩
  | _ => cases h

/-! ### One account -/

/-- The enrolment goes with what was accepted for the account: what was used up is not to be had
again. -/
structure Enrolment.Fits (e : Enrolment) (steps : String → List Int) (spent : String → Nat) :
    Prop where
  pending : ∀ secret, e.pending = some secret → e.secret = none ∧ steps secret = []
  newest : ∀ secret, e.secret = some secret → ∀ step ∈ steps secret, ∃ last ∈ e.last, step ≤ last
  codes : ∀ hashed ∈ e.codes, spent hashed = 0

section

variable {older : List AdminReturn} {ret : AdminReturn} {id : Nat}

/-- The record of one account. -/
abbrev Enrolment.FitsRecord (e : Enrolment) (id : Nat) (returned : List AdminReturn) : Prop :=
  e.Fits (fun secret => acceptedSteps id secret returned) fun hashed => timesSpent id hashed returned

theorem Enrolment.fits_empty (steps : String → List Int) (spent : String → Nat) :
    Enrolment.Fits {} steps spent where
  pending := nofun
  newest := nofun
  codes := nofun

theorem acceptedStep_eq_some_iff {secret : String} {step : Int} :
    ret.acceptedStep id secret = some step ↔ ret.factor = some (.step id secret step) := by
  unfold AdminReturn.acceptedStep
  split
  · next id' secret' step' hfactor => simp [hfactor, and_assoc]
  · next hfactor =>
      constructor
      · nofun
      · intro h
        exact absurd h (hfactor id secret step)

theorem mem_acceptedSteps_cons {secret : String} {step : Int}
    (h : step ∈ acceptedSteps id secret (ret :: older)) :
    ret.factor = some (.step id secret step) ∨ step ∈ acceptedSteps id secret older := by
  rw [acceptedSteps_cons] at h
  split at h
  · cases h
  · rcases List.mem_append.mp h with hnew | hold
    · exact .inl (acceptedStep_eq_some_iff.mp (by simpa using hnew))
    · exact .inr hold

theorem mem_acceptedSteps_of_ne {secret : String} {label : Option Factor}
    (hlabel : Factor.of id ret.factor = label) (hne : ∀ step, label ≠ some (.step id secret step))
    {step : Int} (h : step ∈ acceptedSteps id secret (ret :: older)) :
    step ∈ acceptedSteps id secret older := by
  rcases mem_acceptedSteps_cons h with hnew | hold
  · rw [hnew, Factor.of_step] at hlabel
    exact absurd hlabel.symm (hne step)
  · exact hold

theorem acceptedSteps_cons_eq_nil {secret : String} {label : Option Factor}
    (hlabel : Factor.of id ret.factor = label) (hne : ∀ step, label ≠ some (.step id secret step))
    (h : acceptedSteps id secret older = []) : acceptedSteps id secret (ret :: older) = [] := by
  rw [List.eq_nil_iff_forall_not_mem] at h ⊢
  exact fun step hstep => h step (mem_acceptedSteps_of_ne hlabel hne hstep)

theorem timesSpent_cons_eq_zero {hashed : String} {label : Option Factor}
    (hlabel : Factor.of id ret.factor = label) (hne : label ≠ some (.recoveryCode id hashed))
    (h : timesSpent id hashed older = 0) : timesSpent id hashed (ret :: older) = 0 := by
  have hnew : ret.factor ≠ some (.recoveryCode id hashed) := by
    intro hfactor
    rw [hfactor, Factor.of_recoveryCode] at hlabel
    exact hne hlabel.symm
  rw [timesSpent_cons, h]
  simp [hnew]

/-- A step of an account keeps its enrolment in line with the record. -/
theorem Enrolment.Step.fits {e e' : Enrolment} {answer : AdminAnswer} (hok : ret.result = .ok answer)
    (h : e.Step ret.request (Factor.of id ret.factor) e') (hfits : e.FitsRecord id older) :
    e'.FitsRecord id (ret :: older) := by
  generalize hlabel : Factor.of id ret.factor = label at h
  cases h with
  | keep =>
      refine ⟨?_, ?_, ?_⟩
      · intro secret hpending
        obtain ⟨hnone, hsteps⟩ := hfits.pending secret hpending
        exact ⟨hnone, acceptedSteps_cons_eq_nil hlabel nofun hsteps⟩
      · intro secret hsecret step hstep
        exact hfits.newest secret hsecret step (mem_acceptedSteps_of_ne hlabel nofun hstep)
      · intro hashed hcodes
        exact timesSpent_cons_eq_zero hlabel nofun (hfits.codes hashed hcodes)
  | setup hrequest hsecret =>
      refine ⟨?_, ?_, ?_⟩
      · intro secret hpending
        have hdraws : ret.draws secret = true := by
          dsimp only at hpending
          obtain ⟨hdrawn, -⟩ := Option.filter_eq_some_iff.mp hpending
          cases hdrawn
          simp [AdminReturn.draws, hrequest, hok]
        refine ⟨hsecret, ?_⟩
        rw [acceptedSteps_cons, if_pos hdraws]
      · intro secret hsome
        exact absurd (hsecret.symm.trans hsome) nofun
      · intro hashed hcodes
        exact timesSpent_cons_eq_zero hlabel nofun (hfits.codes hashed hcodes)
  | @confirm headers code secret hashes id' step hrequest hpending =>
      refine ⟨nofun, ?_, ?_⟩
      · rintro _ ⟨⟩ found hfound
        rcases mem_acceptedSteps_cons hfound with hnew | hold
        · rw [hnew, Factor.of_step] at hlabel
          cases hlabel
          exact ⟨step, rfl, le_rfl⟩
        · rw [(hfits.pending secret hpending).2] at hold
          cases hold
      · intro hashed hcodes
        have hstores : ret.stores hashed = true := by
          simpa [AdminReturn.stores, hrequest, hok] using hcodes
        rw [timesSpent_cons, if_pos hstores]
  | @accept id' secret step hsecret hnewer =>
      refine ⟨?_, ?_, ?_⟩
      · intro pending hpending
        exact absurd (hsecret.symm.trans (hfits.pending pending hpending).1) nofun
      · intro secret' hsecret' accepted haccepted
        obtain rfl : secret = secret' := Option.some_inj.mp (hsecret.symm.trans hsecret')
        refine ⟨step, rfl, ?_⟩
        rcases mem_acceptedSteps_cons haccepted with hnew | hold
        · rw [hnew, Factor.of_step] at hlabel
          cases hlabel
          exact le_rfl
        · obtain ⟨last, hlast, hle⟩ := hfits.newest secret hsecret accepted hold
          exact hle.trans (hnewer last hlast).le
      · intro hashed hcodes
        exact timesSpent_cons_eq_zero hlabel nofun (hfits.codes hashed hcodes)
  | @spend id' hashed hcodes =>
      refine ⟨?_, ?_, ?_⟩
      · intro secret hpending
        obtain ⟨hnone, hsteps⟩ := hfits.pending secret hpending
        exact ⟨hnone, acceptedSteps_cons_eq_nil hlabel nofun hsteps⟩
      · intro secret hsecret step hstep
        exact hfits.newest secret hsecret step (mem_acceptedSteps_of_ne hlabel nofun hstep)
      · intro other hother
        obtain ⟨hmem, hne⟩ := List.mem_filter.mp hother
        refine timesSpent_cons_eq_zero hlabel ?_ (hfits.codes other hmem)
        rintro ⟨⟩
        simp at hne
  | @disable id' secret step hsecret hnewer =>
      refine ⟨?_, nofun, nofun⟩
      intro pending hpending
      exact absurd (hsecret.symm.trans (hfits.pending pending hpending).1) nofun

end

/-! ### All accounts -/

/-- Every enrolment goes with the record, and the record has no factor twice. -/
structure FactorsUsedOnce (loop : AdminLoop) : Prop where
  fits : ∀ row ∈ loop.state.admins, row.enrolment.FitsRecord row.id loop.returned
  increase : ∀ id secret, (acceptedSteps id secret loop.returned).Pairwise (· > ·)
  once : ∀ id hashed, timesSpent id hashed loop.returned ≤ 1

section

variable {platform : AdminPlatform} {loop loop' : AdminLoop} {ret : AdminReturn}

theorem acceptedSteps_of_error {error : RouteError} (h : ret.result = .error error) (id : Nat)
    (secret : String) (older : List AdminReturn) :
    acceptedSteps id secret (ret :: older) = acceptedSteps id secret older := by
  rw [acceptedSteps_cons]
  simp [AdminReturn.draws, AdminReturn.acceptedStep, AdminReturn.factor, h]

theorem timesSpent_of_error {error : RouteError} (h : ret.result = .error error) (id : Nat)
    (hashed : String) (older : List AdminReturn) :
    timesSpent id hashed (ret :: older) = timesSpent id hashed older := by
  rw [timesSpent_cons]
  simp [AdminReturn.stores, AdminReturn.factor, h]

/-- The account that uses up a step has accepted older ones only. -/
theorem FactorsUsedOnce.increase_cons (h : FactorsUsedOnce loop)
    (hhas : ∀ factor, ret.factor = some factor →
      ∃ row ∈ loop.state.admins, row.id = factor.adminId ∧ row.enrolment.Has factor)
    (id : Nat) (secret : String) :
    (acceptedSteps id secret (ret :: loop.returned)).Pairwise (· > ·) := by
  rw [acceptedSteps_cons]
  split
  · exact .nil
  · cases hstep : ret.acceptedStep id secret with
    | none => exact h.increase id secret
    | some step =>
        refine List.pairwise_cons.mpr ⟨fun older holder => ?_, h.increase id secret⟩
        obtain ⟨row, hrow, hid, hfactor⟩ := hhas _ (acceptedStep_eq_some_iff.mp hstep)
        have hfits := h.fits row hrow
        simp only [Factor.adminId] at hid
        rw [hid] at hfits
        rcases hfactor with hpending | ⟨hsecret, hnewer⟩
        · rw [(hfits.pending secret hpending).2] at holder
          cases holder
        · obtain ⟨last, hlast, hle⟩ := hfits.newest secret hsecret older holder
          exact hle.trans_lt (hnewer last hlast)

/-- A recovery code that is still stored has not been spent. -/
theorem FactorsUsedOnce.once_cons (h : FactorsUsedOnce loop)
    (hhas : ∀ factor, ret.factor = some factor →
      ∃ row ∈ loop.state.admins, row.id = factor.adminId ∧ row.enrolment.Has factor)
    (id : Nat) (hashed : String) : timesSpent id hashed (ret :: loop.returned) ≤ 1 := by
  rw [timesSpent_cons]
  split
  · exact Nat.zero_le 1
  · split
    · next hfactor =>
        obtain ⟨row, hrow, hid, hcodes⟩ := hhas _ hfactor
        have hfits := h.fits row hrow
        simp only [Factor.adminId] at hid
        rw [hid] at hfits
        have hzero : timesSpent id hashed loop.returned = 0 := hfits.codes hashed hcodes
        omega
    · exact h.once id hashed

theorem FactorsUsedOnce.step (h : FactorsUsedOnce loop) (hstep : AdminLoop.Step platform loop loop') :
    FactorsUsedOnce loop' := by
  obtain ⟨state, calls, returned⟩ := loop'
  cases hstep with
  | quiet hreturned hkeeps =>
      obtain rfl : returned = loop.returned := hreturned
      refine ⟨?_, h.increase, h.once⟩
      rw [hkeeps]
      exact h.fits
  | returned ret hreturned _ hends =>
      obtain rfl : returned = ret :: loop.returned := hreturned
      cases hresult : ret.result with
      | error error =>
          rw [hresult] at hends
          refine ⟨?_, ?_, ?_⟩
          · rw [hends.1]
            simpa only [Enrolment.FitsRecord, acceptedSteps_of_error hresult,
              timesSpent_of_error hresult] using h.fits
          · simpa only [acceptedSteps_of_error hresult] using h.increase
          · simpa only [timesSpent_of_error hresult] using h.once
      | ok answer =>
          rw [hresult] at hends
          have heffect : AdminEffect platform _ loop.state ret.request answer state.db.val := hends
          have hfactor : ret.factor = answer.factor := by rw [AdminReturn.factor, hresult]
          have hhas (factor : Factor) (hused : ret.factor = some factor) :=
            heffect.hasFactor (hfactor.symm.trans hused)
          refine ⟨?_, h.increase_cons hhas, h.once_cons hhas⟩
          intro row' hrow'
          rcases heffect.enrolmentsStep row' hrow' with hnew | ⟨row, hrow, hid, hchange⟩
          · rw [Enrolment.FitsRecord, hnew]
            exact Enrolment.fits_empty _ _
          · rw [← hfactor] at hchange
            rw [← hid]
            exact hchange.fits hresult (h.fits row hrow)

end

/-- A second factor admits one request. For every enrolled secret the accepted steps increase; a stored
recovery code is spent at most once, and then the account no longer has it. Only a request that commits
changes an account at all. -/
theorem factors_admit_once (platform : AdminPlatform) {empty : AdminWorld} (hempty : empty.admins = [])
    (digest : String) (schedule : List AdminMove) :
    let loop := AdminLoop.sinceStart platform empty digest schedule
    (∀ id secret, (acceptedSteps id secret loop.returned).Pairwise (· > ·)) ∧
      (∀ id hashed, timesSpent id hashed loop.returned ≤ 1 ∧
        (timesSpent id hashed loop.returned = 1 →
          ∀ admin ∈ loop.state.admins, admin.id = id → hashed ∉ admin.recoveryCodes)) ∧
      ∀ m : AdminMove, (loop.step platform m).state.admins = loop.state.admins ∨
        ∃ ret answer, (loop.step platform m).returned = ret :: loop.returned ∧
          ret.result = .ok answer := by
  intro loop
  have hstart : FactorsUsedOnce { state := ((ensureAdmin digest).runAlone empty).2 } := by
    refine ⟨fun row hrow => ?_, fun _ _ => .nil, fun _ _ => Nat.zero_le 1⟩
    rw [admins_ensureAdmin hempty, List.mem_singleton] at hrow
    subst hrow
    exact Enrolment.fits_empty _ _
  have hloop : FactorsUsedOnce loop :=
    AdminLoop.runFrom_invariant (fun _ _ h hstep => h.step hstep) hstart schedule
  refine ⟨hloop.increase, fun id hashed => ⟨hloop.once id hashed, ?_⟩, AdminLoop.admins_step schedule⟩
  rintro hspent admin hadmin rfl hcodes
  have hzero : timesSpent admin.id hashed loop.returned = 0 :=
    (hloop.fits admin hadmin).codes hashed hcodes
  omega

/-- An administrator enrols; then two sign-ins check one recovery code at a time. -/
def sharedRecoveryCode : List AdminMove :=
  let own : Headers := { cookie := some "first", csrfToken := "csrf" }
  let signIn (password code cookie : String) : AdminRequest :=
    .login { contentType := "application/json" } ⟨"admin", password, code⟩ ⟨cookie, "csrf"⟩
  [.call (signIn "initial password" "" "first"), .resume 0, .resume 0, .resume 0,
    .call (.changePassword own ⟨"initial password", "chosen password"⟩ "chosen password"),
    .resume 0, .resume 0, .resume 0,
    .call (.totpSetup own "chosen password" "SECRET"), .resume 0, .resume 0, .resume 0,
    .call (.totpConfirm own "123456" ["aaaa-bbbb"]), .resume 0, .resume 0, .resume 0,
    .call (signIn "chosen password" "aaaa-bbbb" "second"),
    .call (signIn "chosen password" "aaaa-bbbb" "third"),
    .resume 0, .resume 1, .resume 0, .resume 1, .resume 0, .resume 1, .resume 0, .resume 0]

theorem factors_admit_once_sharedRecoveryCode :
    let loop := AdminLoop.sinceStart plainPlatform tokenWorld "initial password" sharedRecoveryCode
    tokenWorld.admins = [] ∧ loop.calls.length = 0 ∧ timesSpent 1 "aaaa-bbbb" loop.returned = 1 ∧
      ∀ admin ∈ loop.state.admins, admin.id = 1 → "aaaa-bbbb" ∉ admin.recoveryCodes := by
  have hspent : timesSpent 1 "aaaa-bbbb" (AdminLoop.sinceStart plainPlatform tokenWorld
      "initial password" sharedRecoveryCode).returned = 1 := by decide +kernel
  refine ⟨rfl, by decide +kernel, hspent, ?_⟩
  obtain ⟨-, hcodes, -⟩ :=
    factors_admit_once plainPlatform (rfl : tokenWorld.admins = []) "initial password" sharedRecoveryCode
  exact (hcodes 1 "aaaa-bbbb").2 hspent

end Naco
