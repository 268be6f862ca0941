import Naco.Proof.Probes
import Naco.Proof.Service

/-!
# Looking without recording

A live request records its station before it decides, so a MAC address that no row has is decided on
as a pending device with a vendor. Re-evaluation and the simulator look the row up and find nothing.
Both get the same context exactly when the row is there, or when the missing row would not show: the
station is an active guest of no known vendor.
-/

namespace Naco

open Py

/-- The device row of a MAC address. -/
def knownDevice (t : Tables) (mac : String) : Option Device :=
  t.devices.find? (·.macAddress = mac)

/-- The subject with the device row as it is on record. -/
def Subject.unrecorded (subject : Subject) (t : Tables) : Subject :=
  { subject with device := subject.mac.bind (knownDevice t) }

/-- The missing row of a station does not show: there is one, or the station is a guest of no known
vendor. -/
def StationKnown (platform : Platform) (t : Tables) (mac : Option String) (isGuest : Bool) : Prop :=
  ∀ m, mac = some m → knownDevice t m = none → isGuest = true ∧ vendorFor platform.oui m = ""

/-- The subject has the device row that recording the station gives it. -/
def Subject.Recorded (subject : Subject) (platform : Platform) (t : Tables) : Prop :=
  subject.device = subject.mac.map (seenDevice platform t)

section

variable {platform : Platform} {t : Tables} {subject : Subject}

theorem deviceRule_unrecorded (hrecorded : subject.Recorded platform t) :
    deviceRule (subject.unrecorded t) = deviceRule subject := by
  unfold deviceRule
  rw [hrecorded, Subject.unrecorded]
  cases subject.mac with
  | none => rfl
  | some mac =>
      simp only [Option.bind_some, Option.map_some, seenDevice, knownDevice]
      cases t.devices.find? (·.macAddress = mac) <;> simp

theorem context_unrecorded_of_known (hrecorded : subject.Recorded platform t)
    (hknown : StationKnown platform t subject.mac subject.isGuest) :
    (subject.unrecorded t).context = subject.context := by
  unfold Subject.context Subject.unrecorded
  rw [hrecorded]
  cases hmac : subject.mac with
  | none => rfl
  | some mac =>
      simp only [Option.bind_some, Option.map_some]
      cases hdevice : knownDevice t mac with
      | some device =>
          have hseen : seenDevice platform t mac = device := by
            rw [seenDevice, ← knownDevice, hdevice]
            rfl
          rw [hseen]
          rfl
      | none =>
          obtain ⟨hguest, hvendor⟩ := hknown mac hmac hdevice
          have hseen : seenDevice platform t mac =
              { id := nextId (t.devices.map (·.id)), macAddress := mac,
                vendor := vendorFor platform.oui mac } := by
            rw [seenDevice, ← knownDevice, hdevice]
            rfl
          rw [hseen]
          simp [deviceState, hguest, hvendor]

/-- The hard rules do not depend on the recording, nor on the address of the NAS. -/
theorem returns_subjectContext_unrecorded_iff (hrecorded : subject.Recorded platform t)
    (nasIp : String) :
    Returns (subjectContext { subject.unrecorded t with nasIp }) ↔
      Returns (subjectContext subject) := by
  have huser : userRule { subject.unrecorded t with nasIp } = userRule subject := rfl
  have hdevice : deviceRule { subject.unrecorded t with nasIp } = deviceRule subject :=
    deviceRule_unrecorded hrecorded
  rw [returns_subjectContext_iff, returns_subjectContext_iff, huser, hdevice]

/-- The two probes that show a missing row: one on the pending state, one on the vendor. -/
theorem stationKnown_of_probes (hrecorded : subject.Recorded platform t) (tz : Zone)
    (hpending : conditionMatches (.deviceStatus [.pending] (by simp)) subject.context tz =
      conditionMatches (.deviceStatus [.pending] (by simp)) (subject.unrecorded t).context tz)
    (hvendor : conditionMatches (.text .vendor (.matching ⟨"*", by decide⟩) (by decide))
        subject.context tz =
      conditionMatches (.text .vendor (.matching ⟨"*", by decide⟩) (by decide))
        (subject.unrecorded t).context tz) :
    StationKnown platform t subject.mac subject.isGuest := by
  intro mac hmac hdevice
  have hseen : seenDevice platform t mac =
      { id := nextId (t.devices.map (·.id)), macAddress := mac,
        vendor := vendorFor platform.oui mac } := by
    rw [seenDevice, ← knownDevice, hdevice]
    rfl
  have hrow : subject.device = some (seenDevice platform t mac) := by
    rw [hrecorded, hmac]
    rfl
  constructor
  · cases hguest : subject.isGuest with
    | true => rfl
    | false =>
        simp [conditionMatches, Subject.context, Subject.unrecorded, hrow, hmac, hdevice, hseen,
          deviceState, hguest] at hpending
  · by_contra hne
    have hstar : fold (some "*") = "*" := by decide
    simp [conditionMatches, Subject.context, Subject.unrecorded, hrow, hmac, hdevice, hseen,
      TextField.cond, vendorCond, orNone, hne, TextTest.test, glob, hstar,
      Fnmatch.fnmatchcase_star] at hvendor

end

/-! ### The live decision of a request that passes its gates -/

/-- A hard rule refuses the request: its user is missing or disabled, or its device is blocked. -/
def HardRefused (t : Tables) (method : AuthMethod) (name : String) (mac : Option String) : Prop :=
  (method ≠ .mab ∧ ¬ (name ≠ "" ∧ ∃ user ∈ t.users, user.username = name ∧ user.enabled = true)) ∨
    ∃ device ∈ t.devices, mac = some device.macAddress ∧ device.status = .blocked

/-- The subject of a live request. -/
def liveSubject (platform : Platform) (world : World) (attrs : Attrs) (method : AuthMethod)
    (nas : NasClient) : Subject :=
  requestSubject world (requestInfo attrs) (if method = .mab then "" else identity attrs method)
    method nas ((requestMac attrs).map (seenDevice platform world.db.val))

section Live

variable {platform : Platform} {world : World} {attrs : Attrs} {method : AuthMethod} {nas : NasClient}

theorem liveSubject_mac : (liveSubject platform world attrs method nas).mac = requestMac attrs :=
  requestInfo_mac attrs

theorem liveSubject_isGuest : (liveSubject platform world attrs method nas).isGuest =
    (requestMac attrs).any fun mac => guestActive world.db.val mac world.now.utc := by
  rw [← requestInfo_mac]
  rfl

theorem liveSubject_recorded :
    (liveSubject platform world attrs method nas).Recorded platform world.db.val := by
  unfold Subject.Recorded
  rw [liveSubject_mac]
  rfl

/-- A hard rule applies to the live subject exactly when it refuses the request. -/
theorem returns_subjectContext_live_iff :
    Returns (subjectContext (liveSubject platform world attrs method nas)) ↔
      ¬ HardRefused world.db.val method (identity attrs method) (requestMac attrs) := by
  have hiff := @subjectContext_request_iff platform world attrs method nas
  unfold HardRefused
  constructor
  · rintro ⟨ctx, hctx⟩ hrefused
    obtain ⟨huser, hdevice, -⟩ := hiff.mp hctx
    rcases hrefused with ⟨hmab, hnot⟩ | ⟨device, hmem, hmac, hblocked⟩
    · exact hnot (huser hmab)
    · exact hdevice device.macAddress hmac device hmem rfl hblocked
  · intro hfree
    refine ⟨_, hiff.mpr ⟨?_, ?_, rfl⟩⟩
    · intro hmab
      by_contra hnot
      exact hfree (.inl ⟨hmab, hnot⟩)
    · rintro mac hmac device hmem rfl hblocked
      exact hfree (.inr ⟨device, hmem, hmac, hblocked⟩)

/-- What the gates ask of a MAB request. -/
def MabValid (attrs : Attrs) (method : AuthMethod) : Prop :=
  method = .mab → ∃ mac, requestMac attrs = some mac ∧ normalizeMac (attrs.get "User-Name") = some mac

theorem liveDecision_of_found (hnas : findNas world.db.val (requestNasIp attrs) = .ok (some nas)) :
    liveDecision platform world attrs = decideOnly platform world attrs (some nas) := by
  rw [liveDecision_eq, requestInfo_nasIp, hnas]
  rfl

/-- A request that fails a gate is refused. -/
theorem liveDecision_of_gate_closed
    (hmethod : attrs.get "NACo-Auth-Method" = some method.name)
    (hnas : findNas world.db.val (requestNasIp attrs) = .ok (some nas))
    (hclosed : nas.enabled = false ∨ ¬ MabValid attrs method) :
    ∃ reason, liveDecision platform world attrs = .ok (deny reason) := by
  rw [liveDecision_of_found hnas]
  unfold decideOnly
  dsimp only
  cases hgate : requestGate attrs (requestInfo attrs) (some nas) with
  | error decision =>
      obtain ⟨reason, rfl⟩ := deny_of_requestGate_eq_error hgate
      exact ⟨reason, rfl⟩
  | ok found =>
      obtain ⟨known, client⟩ := found
      obtain ⟨hknown, hclient, henabled, hmab⟩ := requestGate_eq_ok_iff.mp hgate
      have hsame : known = method := by
        have := (requestInfo_method_eq_some_iff.mp hknown).symm.trans hmethod
        exact AuthMethod.name_injective (Option.some.inj this)
      cases hclient
      subst hsame
      rcases hclosed with hdisabled | hinvalid
      · rw [hdisabled] at henabled
        cases henabled
      · exact absurd hmab hinvalid

/-- Past the gates a request is decided by the hard rules and the policies. -/
theorem liveDecision_of_gate_open
    (hmethod : attrs.get "NACo-Auth-Method" = some method.name)
    (hnas : findNas world.db.val (requestNasIp attrs) = .ok (some nas))
    (henabled : nas.enabled = true) (hmab : MabValid attrs method)
    (hverified : method ∈ passwordMethods → recentlyVerified world.verified
      (verifiedKey (identity attrs method) (requestInfo attrs)) world.monotonic = true) :
    liveDecision platform world attrs =
      match subjectContext (liveSubject platform world attrs method nas) with
      | .error decision => .ok decision
      | .ok ctx => evaluate platform world.db.val ctx := by
  have hknown := requestInfo_method_eq_some_iff.mpr hmethod
  have hgate := requestGate_eq_ok_iff.mpr ⟨hknown, rfl, henabled, hmab⟩
  rw [liveDecision_of_found hnas]
  unfold decideOnly
  dsimp only
  rw [hgate, authorizedName_eq hknown, requestInfo_mac]
  dsimp only
  rw [← liveSubject, decideSubject]
  cases subjectContext (liveSubject platform world attrs method nas) with
  | error decision => rfl
  | ok ctx =>
      dsimp only
      rw [if_neg]
      rintro ⟨hpassword, hnot⟩
      have hne : method ≠ .mab := by
        rintro rfl
        simp [liveSubject, requestSubject, passwordMethods] at hpassword
      rw [if_neg hne, hverified hpassword] at hnot
      cases hnot

theorem liveDecision_of_free
    (hmethod : attrs.get "NACo-Auth-Method" = some method.name)
    (hnas : findNas world.db.val (requestNasIp attrs) = .ok (some nas))
    (henabled : nas.enabled = true) (hmab : MabValid attrs method)
    (hverified : method ∈ passwordMethods → recentlyVerified world.verified
      (verifiedKey (identity attrs method) (requestInfo attrs)) world.monotonic = true)
    (hfree : Returns (subjectContext (liveSubject platform world attrs method nas))) :
    liveDecision platform world attrs =
      evaluate platform world.db.val (liveSubject platform world attrs method nas).context := by
  rw [liveDecision_of_gate_open hmethod hnas henabled hmab hverified]
  rcases subjectContext_cases (liveSubject platform world attrs method nas) with
    ⟨-, hctx⟩ | ⟨hnot, -⟩
  · rw [hctx]
  · exact absurd hfree hnot

end Live

/-! ### Other policies -/

/-- The world with another policy table. -/
def World.withPolicies (world : World) (policies : List Policy)
    (h : { world.db.val with policies }.Consistent) : World :=
  { world with db := ⟨{ world.db.val with policies }, h⟩ }

/-- The world with a probe as its only policy. -/
def World.withProbe (world : World) (raw : Json) : World :=
  world.withPolicies [probePolicy raw] (withProbe_consistent world.db.property raw)

section

variable {platform : Platform} {world : World} {attrs : Attrs} {method : AuthMethod} {nas : NasClient}

theorem liveSubject_withPolicies (policies : List Policy)
    (h : { world.db.val with policies }.Consistent) :
    liveSubject platform (world.withPolicies policies h) attrs method nas =
      liveSubject platform world attrs method nas := by
  unfold liveSubject requestSubject
  rfl

/-- A probe permits a request exactly when its condition holds in the live context. -/
theorem liveDecision_withProbe
    (hmethod : attrs.get "NACo-Auth-Method" = some method.name)
    (hnas : findNas world.db.val (requestNasIp attrs) = .ok (some nas))
    (henabled : nas.enabled = true) (hmab : MabValid attrs method)
    (hverified : method ∈ passwordMethods → recentlyVerified world.verified
      (verifiedKey (identity attrs method) (requestInfo attrs)) world.monotonic = true)
    (hfree : Returns (subjectContext (liveSubject platform world attrs method nas)))
    {raw : Json} {cond : Condition} {result : Bool}
    (hparse : parseConditions (.arr [raw]) = .ok [cond])
    (hcond : conditionMatches cond (liveSubject platform world attrs method nas).context
      platform.timezone = .ok result) :
    liveDecision platform (world.withProbe raw) attrs =
      .ok (if result then (probe cond).decision else deny defaultDenyReason) := by
  have hsubject : liveSubject platform (world.withProbe raw) attrs method nas =
      liveSubject platform world attrs method nas := liveSubject_withPolicies _ _
  have hload : loadPolicies (world.withProbe raw).db.val = .ok [probe cond] :=
    loadPolicies_withProbe world.db.val hparse
  have hdecision := @liveDecision_of_free platform (world.withProbe raw) attrs method nas hmethod
    hnas henabled hmab hverified (hsubject ▸ hfree)
  rw [hdecision, hsubject, evaluate, hload]
  exact decide_probe hcond

end

end Naco
