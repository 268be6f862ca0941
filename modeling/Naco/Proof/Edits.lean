import Naco.Proof.Reevaluate

/-!
# Whether an edit shows in a live session

Two states are compared through what re-evaluation answers for the sessions. It answers the same
whatever the policies when the hard rules, the device, the guest registration and the names of the
group and of the NAS are the same to it; where one of these differs there is a policy table that shows
the difference.
-/

namespace Naco

open Py

/-- The address belongs to that entry. -/
def Resolves (clients : List NasClient) (ip : String) (nas : NasClient) : Prop :=
  ∃ directory, NasDirectory.ofClients clients = .ok directory ∧ directory.find ip = some nas

/-- At some instant re-evaluation decides some live session in both states, and not alike. -/
def Redecided (platform : Platform) (t t' : Tables) : Prop :=
  ∃ (now : ClockReading) (session : RadiusSession) (answer answer' : Answer),
    session ∈ digestSessions t ∧
    reevaluatedAnswer platform t now session = .ok (some answer) ∧
    reevaluatedAnswer platform t' now session = .ok (some answer') ∧ answer ≠ answer'

section

variable {platform : Platform} {t : Tables} {now : ClockReading} {session : RadiusSession}
  {method : AuthMethod} {nas : NasClient}

theorem reevaluatedAnswer_eq_some_iff (ht : t.Consistent) (hmem : session ∈ digestSessions t)
    {answer : Answer} :
    reevaluatedAnswer platform t now session = .ok (some answer) ↔
      ∃ policies method nas decision, loadPolicies t = .ok policies ∧
        session.authMethod = method.name ∧ Resolves t.nasClients session.nasIp nas ∧
        storedDecision platform t policies now session method nas = .ok decision ∧
        decision.answer = answer := by
  constructor
  · intro h
    cases hpolicies : loadPolicies t with
    | error error => simp [reevaluatedAnswer, hpolicies] at h
    | ok policies =>
        cases hdirectory : nasDirectory t with
        | error error => simp [reevaluatedAnswer, hpolicies, loadWorld, hdirectory, bind, Except.bind] at h
        | ok directory =>
            obtain ⟨loaded, hload⟩ := returns_loadWorld hdirectory (digestSessions t) now.utc
            cases hdirectory.symm.trans (loadWorld_nas hload)
            cases hmethod : AuthMethod.ofName session.authMethod with
            | none =>
                simp [reevaluatedAnswer, hpolicies, hload, sessionDecision, hmethod, bind, Except.bind,
                  pure, Except.pure] at h
            | some method =>
                cases hfind : loaded.nas.find session.nasIp with
                | none =>
                    simp [reevaluatedAnswer, hpolicies, hload, sessionDecision, hmethod, hfind, bind,
                      Except.bind, pure, Except.pure] at h
                | some nas =>
                    have hname := (AuthMethod.ofName_eq_some.mp hmethod).symm
                    rw [reevaluatedAnswer_eq ht hmem hpolicies hdirectory hname hfind] at h
                    cases hstored : storedDecision platform t policies now session method nas with
                    | error error =>
                        rw [hstored] at h
                        cases h
                    | ok decision =>
                        rw [hstored] at h
                        cases h
                        exact ⟨policies, method, nas, decision, rfl, hname, ⟨_, hdirectory, hfind⟩,
                          hstored, rfl⟩
  · rintro ⟨policies, method, nas, decision, hpolicies, hmethod, ⟨directory, hdirectory, hfind⟩,
      hstored, rfl⟩
    rw [reevaluatedAnswer_eq ht hmem hpolicies hdirectory hmethod hfind, hstored]
    rfl

/-! ### The hard rules on a session -/

theorem userRule_storedSubject_eq_none_iff (ht : t.Consistent) :
    userRule (storedSubject t session method nas now) = none ↔
      (method ≠ .mab → session.username ≠ "" ∧
        ∃ user ∈ t.users, user.username = session.username ∧ user.enabled = true) := by
  rw [userRule_eq_none_iff]
  simp only [storedSubject]
  refine imp_congr_right fun hmab => and_congr_right fun hname => ?_
  rw [← requestUser_enabled_iff ht hmab hname, sessionUser_eq hmab]
  cases requestUser t method session.username <;> simp

theorem deviceRule_storedSubject_eq_none_iff (ht : t.Consistent) :
    deviceRule (storedSubject t session method nas now) = none ↔
      ¬ ∃ device ∈ t.devices, orNone session.macAddress = some device.macAddress ∧
        device.status = .blocked := by
  rw [deviceRule_eq_none_iff]
  simp only [storedSubject]
  constructor
  · rintro hfree ⟨device, hdevice, hmac, hblocked⟩
    refine hfree device ?_ hblocked
    rw [hmac]
    exact (Rows.find?_eq_some_iff ht.deviceMacs).mpr ⟨hdevice, rfl⟩
  · intro hfree device hdevice hblocked
    obtain ⟨mac, hmac, hknown⟩ := Option.bind_eq_some_iff.mp hdevice
    obtain ⟨hrow, rfl⟩ := (Rows.find?_eq_some_iff ht.deviceMacs).mp hknown
    exact hfree ⟨device, hrow, hmac, hblocked⟩

theorem returns_storedSubject_iff (ht : t.Consistent) :
    Returns (subjectContext (storedSubject t session method nas now)) ↔
      ¬ HardRefused t method session.username (orNone session.macAddress) := by
  rw [returns_subjectContext_iff, userRule_storedSubject_eq_none_iff ht,
    deviceRule_storedSubject_eq_none_iff ht]
  rw [HardRefused, not_or, not_and, not_not]

/-- A refused session is denied. -/
theorem storedDecision_of_refused (ht : t.Consistent)
    (hrefused : HardRefused t method session.username (orNone session.macAddress))
    (policies : List CompiledPolicy) :
    ∃ reason, storedDecision platform t policies now session method nas = .ok (deny reason) := by
  rcases subjectContext_cases (storedSubject t session method nas now) with
    ⟨hfree, -⟩ | ⟨-, reason, hdeny⟩
  · exact absurd hrefused ((returns_storedSubject_iff ht).mp hfree)
  · exact ⟨reason, by rw [storedDecision, hdeny]⟩

theorem storedDecision_of_free (ht : t.Consistent)
    (hfree : ¬ HardRefused t method session.username (orNone session.macAddress))
    (policies : List CompiledPolicy) :
    storedDecision platform t policies now session method nas =
      Naco.decide policies (storedSubject t session method nas now).context platform.timezone := by
  rcases subjectContext_cases (storedSubject t session method nas now) with ⟨-, hctx⟩ | ⟨hnot, -⟩
  · rw [storedDecision, hctx]
  · exact absurd ((returns_storedSubject_iff ht).mpr hfree) hnot

end

/-! ### Two states that look alike -/

/-- Re-evaluation sees the session alike in both states. -/
structure SeenAlike (t t' : Tables) (now : ClockReading) (session : RadiusSession)
    (method : AuthMethod) (nas nas' : NasClient) : Prop where
  refused : HardRefused t method session.username (orNone session.macAddress) ↔
    HardRefused t' method session.username (orNone session.macAddress)
  device : ((orNone session.macAddress).bind (knownDevice t')).map Device.facts =
    ((orNone session.macAddress).bind (knownDevice t)).map Device.facts
  guest : ((orNone session.macAddress).any fun mac => guestActive t' mac now.utc) =
    (orNone session.macAddress).any fun mac => guestActive t mac now.utc
  group : ¬ HardRefused t method session.username (orNone session.macAddress) →
    NamedAlike (sessionGroup t session.username) (sessionGroup t' session.username)
  nasName : ¬ HardRefused t method session.username (orNone session.macAddress) →
    NamedAlike (orNone nas.name) (orNone nas'.name)

theorem context_storedSubject_of_facts {t t' : Tables} {now : ClockReading} {session : RadiusSession}
    {method : AuthMethod} {nas nas' : NasClient}
    (hdevice : ((orNone session.macAddress).bind (knownDevice t')).map Device.facts =
      ((orNone session.macAddress).bind (knownDevice t)).map Device.facts)
    (hguest : ((orNone session.macAddress).any fun mac => guestActive t' mac now.utc) =
      (orNone session.macAddress).any fun mac => guestActive t mac now.utc) :
    (storedSubject t' session method nas' now).context =
      { (storedSubject t session method nas now).context with
        group := sessionGroup t' session.username
        nasName := nas'.name } := by
  have hstate : deviceState ((orNone session.macAddress).bind (knownDevice t'))
        ((orNone session.macAddress).any fun mac => guestActive t' mac now.utc) =
      deviceState ((orNone session.macAddress).bind (knownDevice t))
        ((orNone session.macAddress).any fun mac => guestActive t mac now.utc) := by
    rw [hguest]
    unfold deviceState
    cases hrow' : (orNone session.macAddress).bind (knownDevice t') <;>
      cases hrow : (orNone session.macAddress).bind (knownDevice t) <;>
      simp_all [Device.facts]
  unfold Subject.context storedSubject
  rw [hstate]
  cases hrow' : (orNone session.macAddress).bind (knownDevice t') <;>
    cases hrow : (orNone session.macAddress).bind (knownDevice t) <;>
    simp_all [Device.facts, sessionGroup]

theorem SeenAlike.answer_eq {platform : Platform} {t t' : Tables} (ht : t.Consistent)
    (ht' : t'.Consistent) {now : ClockReading} {session : RadiusSession} {method : AuthMethod}
    {nas nas' : NasClient} (h : SeenAlike t t' now session method nas nas')
    (policies : List CompiledPolicy) :
    (storedDecision platform t policies now session method nas).map Decision.answer =
      (storedDecision platform t' policies now session method nas').map Decision.answer := by
  by_cases hfree : HardRefused t method session.username (orNone session.macAddress)
  · obtain ⟨reason, hdeny⟩ := @storedDecision_of_refused platform t now session method nas ht hfree
      policies
    obtain ⟨reason', hdeny'⟩ := @storedDecision_of_refused platform t' now session method nas' ht'
      (h.refused.mp hfree) policies
    rw [hdeny, hdeny']
    rfl
  · rw [storedDecision_of_free ht hfree, storedDecision_of_free ht' (mt h.refused.mpr hfree),
      @context_storedSubject_of_facts t t' now session method nas nas' h.device h.guest]
    have halike : Alike (storedSubject t session method nas now).context
        { (storedSubject t session method nas now).context with
          group := sessionGroup t' session.username
          nasName := nas'.name } :=
      alike_of_namedAlike _ (h.group hfree) (h.nasName hfree)
    rw [halike.decide_eq]

/-- No session is redecided where all are seen alike. -/
theorem not_redecided_of_seenAlike {platform : Platform} {t t' : Tables} (ht : t.Consistent)
    (ht' : t'.Consistent) (hpolicies : t'.policies = t.policies) (hsessions : t'.sessions = t.sessions)
    (h : ∀ session ∈ digestSessions t, ∀ now method nas nas', session.authMethod = method.name →
      Resolves t.nasClients session.nasIp nas → Resolves t'.nasClients session.nasIp nas' →
      SeenAlike t t' now session method nas nas') :
    ¬ Redecided platform t t' := by
  rintro ⟨now, session, answer, answer', hmem, hanswer, hanswer', hne⟩
  have hmem' : session ∈ digestSessions t' := by
    rw [digestSessions, hsessions]
    exact hmem
  obtain ⟨policies, method, nas, decision, hload, hmethod, hnas, hstored, rfl⟩ :=
    (reevaluatedAnswer_eq_some_iff ht hmem).mp hanswer
  obtain ⟨policies', method', nas', decision', hload', hmethod', hnas', hstored', rfl⟩ :=
    (reevaluatedAnswer_eq_some_iff ht' hmem').mp hanswer'
  obtain rfl : method = method' := AuthMethod.name_injective (hmethod.symm.trans hmethod')
  have hsame : loadPolicies t' = loadPolicies t := by
    rw [loadPolicies, enabledPolicies, hpolicies]
    rfl
  cases (hsame.symm.trans hload').symm.trans hload
  have heq := @SeenAlike.answer_eq platform _ _ ht ht' _ _ _ _ _
    (h session hmem now method nas nas' hmethod hnas hnas') policies
  rw [hstored, hstored'] at heq
  exact hne (by simpa [Except.map] using heq)

/-! ### Policies that show a difference -/

/-- An instant, for sessions that are decided alike at all instants. -/
def someInstant : ClockReading :=
  ⟨63850334400000000, ClockReading.inRange_may2024⟩

section

variable {platform : Platform} {t t' : Tables} {session : RadiusSession} {method : AuthMethod}
  {nas nas' : NasClient}

theorem redecided_of_probe (ht : t.Consistent) (ht' : t'.Consistent)
    (hsessions : t'.sessions = t.sessions) (hmem : session ∈ digestSessions t)
    (hmethod : session.authMethod = method.name) (hnas : Resolves t.nasClients session.nasIp nas)
    (hnas' : Resolves t'.nasClients session.nasIp nas') {raw : Json} {cond : Condition}
    (hparse : parseConditions (.arr [raw]) = .ok [cond]) {decision decision' : Decision}
    (hstored : storedDecision platform t [probe cond] someInstant session method nas = .ok decision)
    (hstored' : storedDecision platform t' [probe cond] someInstant session method nas' =
      .ok decision')
    (hne : decision.answer ≠ decision'.answer) :
    Redecided platform (t.withProbe raw) (t'.withProbe raw) := by
  have hmem' : session ∈ digestSessions t' := by
    rw [digestSessions, hsessions]
    exact hmem
  refine ⟨someInstant, session, decision.answer, decision'.answer, hmem, ?_, ?_, hne⟩
  · exact (reevaluatedAnswer_eq_some_iff (withProbe_consistent ht raw) hmem).mpr
      ⟨_, method, nas, decision, loadPolicies_withProbe t hparse, hmethod, hnas, hstored, rfl⟩
  · exact (reevaluatedAnswer_eq_some_iff (withProbe_consistent ht' raw) hmem').mpr
      ⟨_, method, nas', decision', loadPolicies_withProbe t' hparse, hmethod, hnas', hstored', rfl⟩

theorem storedDecision_probe (ht : t.Consistent)
    (hfree : ¬ HardRefused t method session.username (orNone session.macAddress))
    {now : ClockReading} {cond : Condition} {result : Bool}
    (hcond : conditionMatches cond (storedSubject t session method nas now).context
      platform.timezone = .ok result) :
    storedDecision platform t [probe cond] now session method nas =
      .ok (if result then (probe cond).decision else deny defaultDenyReason) := by
  rw [storedDecision_of_free ht hfree]
  exact decide_probe hcond

theorem answer_probe_ne (cond : Condition) (reason : String) :
    (probe cond).decision.answer ≠ (deny reason).answer := by
  intro h
  cases h

/-- A session that becomes free shows with the policy that permits everything. -/
theorem redecided_of_freed (ht : t.Consistent) (ht' : t'.Consistent)
    (hsessions : t'.sessions = t.sessions) (hmem : session ∈ digestSessions t)
    (hmethod : session.authMethod = method.name) (hnas : Resolves t.nasClients session.nasIp nas)
    (hnas' : Resolves t'.nasClients session.nasIp nas')
    (hrefused : HardRefused t method session.username (orNone session.macAddress))
    (hfree : ¬ HardRefused t' method session.username (orNone session.macAddress)) :
    Redecided platform (t.withProbe alwaysProbe) (t'.withProbe alwaysProbe) := by
  obtain ⟨reason, hdeny⟩ := @storedDecision_of_refused platform t someInstant session method nas ht
    hrefused [probe .always]
  exact redecided_of_probe ht ht' hsessions hmem hmethod hnas hnas' parse_alwaysProbe hdeny
    (storedDecision_probe ht' hfree rfl) (answer_probe_ne _ _).symm

/-- A session that is free in both states shows with a list that holds one of two names. -/
theorem redecided_of_named (field : TextField) (ht : t.Consistent) (ht' : t'.Consistent)
    (hsessions : t'.sessions = t.sessions) (hmem : session ∈ digestSessions t)
    (hmethod : session.authMethod = method.name) (hnas : Resolves t.nasClients session.nasIp nas)
    (hnas' : Resolves t'.nasClients session.nasIp nas')
    (hfree : ¬ HardRefused t method session.username (orNone session.macAddress))
    (hfree' : ¬ HardRefused t' method session.username (orNone session.macAddress))
    {text : Text} {raw : String} (hraw : strip raw = text.val)
    (hnamed : ¬ (Named text (field.cond.actual (storedSubject t session method nas someInstant).context) ↔
      Named text (field.cond.actual (storedSubject t' session method nas' someInstant).context))) :
    Redecided platform (t.withProbe (listProbe field raw)) (t'.withProbe (listProbe field raw)) := by
  rw [← test_oneText_iff, ← test_oneText_iff] at hnamed
  refine redecided_of_probe ht ht' hsessions hmem hmethod hnas hnas' (parse_listProbe field hraw)
    (storedDecision_probe ht hfree rfl) (storedDecision_probe ht' hfree' rfl) ?_
  cases hresult : (TextTest.isIn (oneText text)).test
      (field.cond.actual (storedSubject t session method nas someInstant).context) with
  | true =>
      cases hresult' : (TextTest.isIn (oneText text)).test
          (field.cond.actual (storedSubject t' session method nas' someInstant).context) with
      | true => simp [hresult, hresult'] at hnamed
      | false => exact answer_probe_ne _ _
  | false =>
      cases hresult' : (TextTest.isIn (oneText text)).test
          (field.cond.actual (storedSubject t' session method nas' someInstant).context) with
      | true => exact (answer_probe_ne _ _).symm
      | false => simp [hresult, hresult'] at hnamed

end

end Naco
