import Naco.Subject

/-!
# Hard rules

`subjectContext` succeeds exactly when no hard rule applies, and then its context is
`Subject.context`. Of the device it reads the status, the type and the vendor only: two subjects whose
device rows agree on these get the same answer.
-/

namespace Naco

open Py

theorem userRule_eq_none_iff {subject : Subject} :
    userRule subject = none ↔ (subject.method ≠ .mab →
      subject.username ≠ "" ∧ ∃ user, subject.user = some user ∧ user.enabled = true) := by
  unfold userRule
  by_cases hmab : subject.method = .mab
  · simp [hmab]
  · by_cases hname : subject.username = ""
    · simp [hmab, hname]
    · cases subject.user with
      | none => simp [hmab, hname]
      | some user => simp [hmab, hname]

theorem deviceRule_eq_none_iff {subject : Subject} :
    deviceRule subject = none ↔ ∀ device ∈ subject.device, device.status ≠ .blocked := by
  unfold deviceRule
  cases subject.device <;> simp

theorem subjectContext_eq_ok_iff {subject : Subject} {ctx : AuthContext} :
    subjectContext subject = .ok ctx ↔
      userRule subject = none ∧ deviceRule subject = none ∧ ctx = subject.context := by
  unfold subjectContext
  cases userRule subject with
  | some decision => simp
  | none =>
      cases deviceRule subject with
      | some decision => simp
      | none => simp [eq_comm]

/-- The decision of a hard rule is a plain DENY. -/
theorem deny_of_subjectContext_eq_error {subject : Subject} {decision : Decision}
    (h : subjectContext subject = .error decision) : ∃ reason, decision = deny reason := by
  have huser : ∀ decision ∈ userRule subject, ∃ reason, decision = deny reason := by
    unfold userRule
    intro decision hmem
    split at hmem
    · cases hmem
    · split at hmem
      · exact ⟨_, (Option.some.inj hmem).symm⟩
      · split at hmem
        · exact ⟨_, (Option.some.inj hmem).symm⟩
        · split at hmem
          · cases hmem
          · exact ⟨_, (Option.some.inj hmem).symm⟩
  have hdevice : ∀ decision ∈ deviceRule subject, ∃ reason, decision = deny reason := by
    unfold deviceRule
    intro decision hmem
    split at hmem
    · cases hmem
    · split at hmem
      · exact ⟨_, (Option.some.inj hmem).symm⟩
      · cases hmem
  unfold subjectContext at h
  cases hrule : userRule subject with
  | some found =>
      have hfound : found = decision := by simpa [hrule] using h
      exact hfound ▸ huser found hrule
  | none =>
      cases hrule' : deviceRule subject with
      | some found =>
          have hfound : found = decision := by simpa [hrule, hrule'] using h
          exact hfound ▸ hdevice found hrule'
      | none => simp [hrule, hrule'] at h

theorem returns_subjectContext_iff {subject : Subject} :
    Returns (subjectContext subject) ↔ userRule subject = none ∧ deviceRule subject = none := by
  constructor
  · rintro ⟨ctx, h⟩
    obtain ⟨huser, hdevice, -⟩ := subjectContext_eq_ok_iff.mp h
    exact ⟨huser, hdevice⟩
  · rintro ⟨huser, hdevice⟩
    exact ⟨subject.context, subjectContext_eq_ok_iff.mpr ⟨huser, hdevice, rfl⟩⟩

/-- Either the context is returned, or a plain DENY. -/
theorem subjectContext_cases (subject : Subject) :
    Returns (subjectContext subject) ∧ subjectContext subject = .ok subject.context ∨
      ¬ Returns (subjectContext subject) ∧
        ∃ reason, subjectContext subject = .error (deny reason) := by
  cases hsubject : subjectContext subject with
  | ok ctx =>
      rw [(subjectContext_eq_ok_iff.mp hsubject).2.2]
      exact .inl ⟨⟨_, rfl⟩, rfl⟩
  | error decision =>
      obtain ⟨reason, rfl⟩ := deny_of_subjectContext_eq_error hsubject
      exact .inr ⟨(by rintro ⟨_, h⟩; cases h), reason, rfl⟩

theorem context_with_nasIp (subject : Subject) (nasIp : String) :
    ({ subject with nasIp } : Subject).context = { subject.context with nasIp } :=
  rfl

/-- What the rules and the context read of a device. -/
def Device.facts (device : Device) : DeviceStatus × String × String :=
  (device.status, device.deviceType, device.vendor)

theorem subjectContext_congr (subject : Subject) {device : Option Device}
    (h : device.map Device.facts = subject.device.map Device.facts) :
    subjectContext { subject with device } = subjectContext subject := by
  have hrules : deviceRule { subject with device } = deviceRule subject := by
    unfold deviceRule
    cases device with
    | none =>
        have hnone : subject.device = none := by simpa using h.symm
        simp [hnone]
    | some device =>
        cases hdevice : subject.device with
        | none => simp [hdevice] at h
        | some found =>
            simp only [hdevice, Option.map_some, Option.some.injEq, Device.facts, Prod.mk.injEq] at h
            simp [h.1]
  have hcontext : ({ subject with device } : Subject).context = subject.context := by
    unfold Subject.context deviceState
    cases device with
    | none =>
        have hnone : subject.device = none := by simpa using h.symm
        simp [hnone]
    | some device =>
        cases hdevice : subject.device with
        | none => simp [hdevice] at h
        | some found =>
            simp only [hdevice, Option.map_some, Option.some.injEq, Device.facts, Prod.mk.injEq] at h
            simp [h]
  have huser : userRule { subject with device } = userRule subject := rfl
  unfold subjectContext
  rw [huser, hrules, hcontext]

end Naco
