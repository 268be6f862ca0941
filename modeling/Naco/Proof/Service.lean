import Naco.Lib.Rows
import Naco.Proof.Engine
import Naco.Proof.Subject
import Naco.Service

/-!
# When the network opens

`authorize` is a sequence of gates with early exits. `Admitted` lists what has to hold for it to answer
PERMIT, gate by gate and in terms of the tables, the attributes and the verification map; the main
result is that it answers PERMIT exactly then, with the VLAN and the attributes of the first matching
policy. On the way: recording the device and the decision never violates a constraint, so the commit
at the end goes through.
-/

namespace Naco

open Py

/-! ### The writes keep the schema -/

theorem Tables.Consistent.with_devices {t : Tables} (h : t.Consistent) {devices : List Device}
    (hids : (devices.map (·.id)).Nodup) (hmacs : (devices.map (·.macAddress)).Nodup) :
    { t with devices }.Consistent :=
  { h with deviceIds := hids, deviceMacs := hmacs }

theorem Tables.Consistent.with_authLogs {t : Tables} (h : t.Consistent) {authLogs : List AuthLog}
    (hids : (authLogs.map (·.id)).Nodup) : { t with authLogs }.Consistent :=
  { h with authLogIds := hids }

theorem seeDevice_consistent {platform : Platform} {t : Tables} (ht : t.Consistent)
    (mac nasIp username : String) (now : Int) :
    (seeDevice platform t mac nasIp username now).2.Consistent := by
  unfold seeDevice
  split
  · next hnew =>
      refine ht.with_devices ?_ (Rows.nodup_concat ht.deviceMacs (Rows.find?_eq_none_iff.mp hnew))
      rw [List.map_append, List.map_singleton]
      exact nodup_concat_nextId ht.deviceIds
  · next found hfound =>
      have hmem := List.mem_of_find?_eq_some hfound
      have hsame : ∀ row ∈ t.devices, row.id = found.id → found = row := fun row hrow hid =>
        (Rows.eq_of_key ht.deviceIds hrow hmem hid).symm
      refine ht.with_devices ?_ ?_
      · rw [Rows.map_replace]
        · exact ht.deviceIds
        · intro row hrow
          split
          · next hid => rw [hid]
          · rfl
      · rw [Rows.map_replace]
        · exact ht.deviceMacs
        · intro row hrow
          split
          · next hid => rw [hsame row hrow hid]
          · rfl

theorem seeStation_consistent (platform : Platform) {t : Tables} (ht : t.Consistent)
    (req : RequestInfo) (username : String) (now : Int) :
    (seeStation platform t req username now).2.Consistent := by
  unfold seeStation
  split
  · exact ht
  · exact seeDevice_consistent ht _ _ _ _

theorem logDecision_consistent {platform : Platform} {t : Tables} (ht : t.Consistent)
    (req : RequestInfo) (method username nasName : String) (result : AuthResult) (reason : String)
    (decision : Option Decision) (now : Int) :
    (logDecision platform t req method username nasName result reason decision now).Consistent := by
  refine ht.with_authLogs ?_
  rw [List.map_append, List.map_singleton]
  exact nodup_concat_nextId ht.authLogIds

/-! ### What a request is decided on -/

/-- The row a decision sees for a MAC address: the one on record, or the pending one that the request
puts there. -/
def seenDevice (platform : Platform) (t : Tables) (mac : String) : Device :=
  (t.devices.find? (·.macAddress = mac)).getD
    { id := nextId (t.devices.map (·.id)), macAddress := mac, vendor := vendorFor platform.oui mac }

theorem facts_seeDevice (platform : Platform) (t : Tables) (mac nasIp username : String) (now : Int) :
    (seeDevice platform t mac nasIp username now).1.facts = (seenDevice platform t mac).facts := by
  unfold seeDevice seenDevice
  split
  · next hnew => simp [hnew, Device.facts]
  · next found hfound => simp [hfound, Device.facts]

theorem facts_seeStation (platform : Platform) (t : Tables) (req : RequestInfo) (username : String)
    (now : Int) :
    (seeStation platform t req username now).1.map Device.facts =
      (req.mac.map (seenDevice platform t)).map Device.facts := by
  unfold seeStation
  cases req.mac with
  | none => rfl
  | some mac => simp [facts_seeDevice]

/-- `_decide` without what it records. -/
def decideOnly (platform : Platform) (world : World) (attrs : Attrs) (nas : Option NasClient) :
    Except Error Decision :=
  let req := requestInfo attrs
  let username := authorizedName attrs req
  match requestGate attrs req nas with
  | .error decision => .ok decision
  | .ok (method, nas) =>
      decideSubject platform world req username
        (requestSubject world req username method nas (req.mac.map (seenDevice platform world.db.val)))

theorem decideSubject_congr {platform : Platform} {world : World} {req : RequestInfo}
    {username : String} {method : AuthMethod} {nas : NasClient} {device device' : Option Device}
    (h : device.map Device.facts = device'.map Device.facts) :
    decideSubject platform world req username (requestSubject world req username method nas device) =
      decideSubject platform world req username
        (requestSubject world req username method nas device') := by
  have hsubject : subjectContext (requestSubject world req username method nas device) =
      subjectContext (requestSubject world req username method nas device') :=
    subjectContext_congr (requestSubject world req username method nas device') h
  unfold decideSubject
  rw [hsubject]
  rfl

/-- What `_decide` records does not change what it decides, and is consistent. -/
theorem decideRequest_eq (platform : Platform) (world : World) (attrs : Attrs)
    (nas : Option NasClient) :
    ∃ t : Tables, t.Consistent ∧
      decideRequest platform world attrs (requestInfo attrs) nas
          (authorizedName attrs (requestInfo attrs)) =
        (decideOnly platform world attrs nas).map (·, t) := by
  unfold decideRequest decideOnly
  dsimp only
  cases requestGate attrs (requestInfo attrs) nas with
  | error decision => exact ⟨world.db.val, world.db.property, rfl⟩
  | ok found =>
      obtain ⟨method, nas⟩ := found
      refine ⟨_, seeStation_consistent platform world.db.property (requestInfo attrs)
        (authorizedName attrs (requestInfo attrs)) world.now.utc, ?_⟩
      dsimp only
      rw [decideSubject_congr (facts_seeStation platform world.db.val (requestInfo attrs)
        (authorizedName attrs (requestInfo attrs)) world.now.utc)]

/-- What `authorize` answers. -/
def liveDecision (platform : Platform) (world : World) (attrs : Attrs) : Except Error Decision :=
  (authorize platform world attrs).map (·.1)

/-- `authorize` answers what `_decide` decides: its commit goes through. -/
theorem liveDecision_eq (platform : Platform) (world : World) (attrs : Attrs) :
    liveDecision platform world attrs =
      (findNas world.db.val (requestInfo attrs).nasIp).bind (decideOnly platform world attrs) := by
  unfold liveDecision authorize
  cases hnas : findNas world.db.val (requestInfo attrs).nasIp with
  | error error => simp only [hnas, bind, Except.bind, Except.map]
  | ok nas =>
      obtain ⟨t, ht, hdecide⟩ := decideRequest_eq platform world attrs nas
      simp only [hnas, bind, Except.bind, hdecide]
      cases decideOnly platform world attrs nas with
      | error error => simp only [Except.map]
      | ok found =>
          simp only [Except.map]
          rw [commit_of_consistent (logDecision_consistent ht _ _ _ _ _ _ _ _)]
          simp only [pure, Except.pure]

theorem authorize_eq_ok_iff {platform : Platform} {world : World} {attrs : Attrs}
    {decision : Decision} :
    (∃ world', authorize platform world attrs = .ok (decision, world')) ↔
      ∃ nas, findNas world.db.val (requestInfo attrs).nasIp = .ok nas ∧
        decideOnly platform world attrs nas = .ok decision := by
  have hlive : (∃ world', authorize platform world attrs = .ok (decision, world')) ↔
      liveDecision platform world attrs = .ok decision := by
    unfold liveDecision
    cases authorize platform world attrs with
    | error error => simp [Except.map]
    | ok answer =>
        obtain ⟨found, world'⟩ := answer
        simp [Except.map]
  rw [hlive, liveDecision_eq]
  cases findNas world.db.val (requestInfo attrs).nasIp with
  | error error => simp [Except.bind]
  | ok nas => simp [Except.bind]

/-! ### The gates -/

/-- The address of the request's NAS, in the form `ipaddress` writes. -/
def requestNasIp (attrs : Attrs) : String :=
  (parseIp (attrs.get "NACo-NAS-IP")).getD ""

/-- The MAC address of the request's station. -/
def requestMac (attrs : Attrs) : Option String :=
  normalizeMac (attrs.get "Calling-Station-Id")

/-- The station as verifications name it: its MAC address, else 64 characters of what it sent. -/
def requestStation (attrs : Attrs) : String :=
  (requestMac attrs).getD (truncate 64 ((attrs.get "Calling-Station-Id").getD ""))

theorem requestInfo_nasIp (attrs : Attrs) : (requestInfo attrs).nasIp = requestNasIp attrs := by
  simp only [requestInfo, requestNasIp]

theorem requestInfo_mac (attrs : Attrs) : (requestInfo attrs).mac = requestMac attrs := by
  unfold requestInfo requestMac
  cases attrs.get "Calling-Station-Id" <;> rfl

theorem requestInfo_method_eq_some_iff {attrs : Attrs} {method : AuthMethod} :
    (requestInfo attrs).method = some method ↔ attrs.get "NACo-Auth-Method" = some method.name := by
  simp only [requestInfo, Option.bind_eq_some_iff, AuthMethod.ofName_eq_some]
  constructor
  · rintro ⟨name, hname, rfl⟩
    exact hname
  · exact fun h => ⟨method.name, h, rfl⟩

theorem verifiedKey_requestInfo (username : String) (attrs : Attrs) :
    verifiedKey username (requestInfo attrs) =
      (username, requestNasIp attrs, requestStation attrs) := by
  rw [verifiedKey, requestInfo_mac, requestInfo_nasIp]
  simp only [requestInfo, requestStation]

theorem authorizedName_eq {attrs : Attrs} {method : AuthMethod}
    (h : (requestInfo attrs).method = some method) :
    authorizedName attrs (requestInfo attrs) =
      if method = .mab then "" else identity attrs method := by
  rw [authorizedName, h]
  cases method <;> simp

theorem requestGate_eq_ok_iff {attrs : Attrs} {nas : Option NasClient} {method : AuthMethod}
    {found : NasClient} :
    requestGate attrs (requestInfo attrs) nas = .ok (method, found) ↔
      (requestInfo attrs).method = some method ∧ nas = some found ∧ found.enabled = true ∧
        (method = .mab → ∃ mac, requestMac attrs = some mac ∧
          normalizeMac (attrs.get "User-Name") = some mac) := by
  rw [← requestInfo_mac]
  unfold requestGate
  cases (requestInfo attrs).method with
  | none => simp
  | some known =>
      cases nas with
      | none => simp
      | some client =>
          cases henabled : client.enabled with
          | false =>
              refine iff_of_false (by simp [Option.filter, henabled]) ?_
              rintro ⟨-, hsame, hon, -⟩
              cases hsame
              rw [henabled] at hon
              cases hon
          | true =>
              simp only [Option.filter, henabled, if_true, Option.some.injEq]
              by_cases hmab : known = .mab
              · subst hmab
                cases hmac : (requestInfo attrs).mac with
                | none => simp; rintro rfl; simp
                | some mac =>
                    by_cases hname : normalizeMac (attrs.get "User-Name") = some mac
                    · simp only [hname, ne_eq, not_true_eq_false, or_false, reduceCtorEq, and_false,
                        if_false, Except.ok.injEq, Prod.mk.injEq]
                      constructor
                      · rintro ⟨rfl, rfl⟩
                        exact ⟨rfl, rfl, henabled, fun _ => ⟨mac, rfl, rfl⟩⟩
                      · exact fun h => ⟨h.1, h.2.1⟩
                    · refine iff_of_false (by simp [hname]) ?_
                      rintro ⟨rfl, -, -, h⟩
                      obtain ⟨mac', hmac', hname'⟩ := h rfl
                      cases hmac'
                      exact hname hname'
              · simp only [hmab, false_and, if_false, Except.ok.injEq, Prod.mk.injEq]
                constructor
                · rintro ⟨rfl, rfl⟩
                  exact ⟨rfl, rfl, henabled, fun h => absurd h hmab⟩
                · exact fun h => ⟨h.1, h.2.1⟩

/-- The refusal of a gate is a plain DENY. -/
theorem deny_of_requestGate_eq_error {attrs : Attrs} {nas : Option NasClient}
    {decision : Decision} (h : requestGate attrs (requestInfo attrs) nas = .error decision) :
    ∃ reason, decision = deny reason := by
  unfold requestGate at h
  split at h
  · cases h
    exact ⟨_, rfl⟩
  · split at h
    · cases h
      exact ⟨_, rfl⟩
    · split at h
      · cases h
        exact ⟨_, rfl⟩
      · cases h

theorem recentlyVerified_iff {verified : Dict VerifiedKey ℚ} {key : VerifiedKey} {monotonic : ℚ} :
    recentlyVerified verified key monotonic = true ↔
      ∃ at_, verified.get? key = some at_ ∧ monotonic - at_ ≤ verifiedSeconds := by
  unfold recentlyVerified
  cases verified.get? key <;> simp

/-- A request speaks for an enabled user exactly when one has its name. -/
theorem requestUser_enabled_iff {t : Tables} (ht : t.Consistent) {method : AuthMethod}
    (hmab : method ≠ .mab) {name : String} (hname : name ≠ "") :
    (∃ user, requestUser t method name = some user ∧ user.enabled = true) ↔
      ∃ user ∈ t.users, user.username = name ∧ user.enabled = true := by
  have hfind : requestUser t method name =
      (t.users.find? (·.username = name)).map fun user => UserInfo.ofRow user (groupOf t user) := by
    simp [requestUser, loadUser, hmab, hname, Function.comp_def]
  rw [hfind]
  constructor
  · rintro ⟨info, hinfo, henabled⟩
    obtain ⟨user, huser, rfl⟩ := Option.map_eq_some_iff.mp hinfo
    obtain ⟨hmem, hkey⟩ := (Rows.find?_eq_some_iff ht.usernames).mp huser
    exact ⟨user, hmem, hkey, henabled⟩
  · rintro ⟨user, hmem, hkey, henabled⟩
    refine ⟨UserInfo.ofRow user (groupOf t user), ?_, henabled⟩
    rw [(Rows.find?_eq_some_iff ht.usernames).mpr ⟨hmem, hkey⟩]
    rfl

theorem seenDevice_not_blocked_iff {platform : Platform} {t : Tables} (ht : t.Consistent)
    {mac : String} :
    (seenDevice platform t mac).status ≠ .blocked ↔
      ∀ device ∈ t.devices, device.macAddress = mac → device.status ≠ .blocked := by
  unfold seenDevice
  cases hfind : t.devices.find? (·.macAddress = mac) with
  | none =>
      rw [Rows.find?_eq_none_iff] at hfind
      exact iff_of_true (by simp) fun device hmem hmac => absurd hmac (hfind device hmem)
  | some found =>
      obtain ⟨hmem, hkey⟩ := (Rows.find?_eq_some_iff ht.deviceMacs).mp hfind
      constructor
      · intro h device hdevice hmac
        rw [Rows.eq_of_key ht.deviceMacs hdevice hmem (hmac.trans hkey.symm)]
        exact h
      · exact fun h => h found hmem hkey

/-! ### The main result -/

/-- The context that the policies are evaluated on for a request by `method` through `nas`. -/
def requestContext (platform : Platform) (world : World) (attrs : Attrs) (method : AuthMethod)
    (nas : NasClient) : AuthContext :=
  (requestSubject world (requestInfo attrs) (if method = .mab then "" else identity attrs method)
    method nas ((requestMac attrs).map (seenDevice platform world.db.val))).context

/-- Every gate between a request and a PERMIT. -/
structure Admitted (platform : Platform) (world : World) (attrs : Attrs) (method : AuthMethod)
    (nas : NasClient) (row : Policy) (policy : CompiledPolicy) : Prop where
  knownMethod : attrs.get "NACo-Auth-Method" = some method.name
  nasResolved : findNas world.db.val (requestNasIp attrs) = .ok (some nas)
  nasEnabled : nas.enabled = true
  sameMac : method = .mab →
    ∃ mac, requestMac attrs = some mac ∧ normalizeMac (attrs.get "User-Name") = some mac
  enabledUser : method ≠ .mab →
    identity attrs method ≠ "" ∧
      ∃ user ∈ world.db.val.users, user.username = identity attrs method ∧ user.enabled = true
  notBlocked : ∀ mac, requestMac attrs = some mac →
    ∀ device ∈ world.db.val.devices, device.macAddress = mac → device.status ≠ .blocked
  verified : method ∈ passwordMethods →
    ∃ at_, world.verified.get? (identity attrs method, requestNasIp attrs, requestStation attrs) =
      some at_ ∧ world.monotonic - at_ ≤ 120
  compiles : ∀ row ∈ world.db.val.policies, row.enabled = true → Returns (compilePolicy row)
  firstMatch : FirstMatch world.db.val (requestContext platform world attrs method nas)
    platform.timezone row policy
  permits : policy.action = .permit

/-- The hard rules leave a request through exactly when its user is enabled and its device is not
blocked. -/
theorem subjectContext_request_iff {platform : Platform} {world : World} {attrs : Attrs}
    {method : AuthMethod} {nas : NasClient} {ctx : AuthContext} :
    subjectContext (requestSubject world (requestInfo attrs)
        (if method = .mab then "" else identity attrs method) method nas
        ((requestMac attrs).map (seenDevice platform world.db.val))) = .ok ctx ↔
      (method ≠ .mab → identity attrs method ≠ "" ∧
        ∃ user ∈ world.db.val.users, user.username = identity attrs method ∧ user.enabled = true) ∧
      (∀ mac, requestMac attrs = some mac →
        ∀ device ∈ world.db.val.devices, device.macAddress = mac → device.status ≠ .blocked) ∧
      ctx = requestContext platform world attrs method nas := by
  rw [subjectContext_eq_ok_iff, userRule_eq_none_iff, deviceRule_eq_none_iff]
  refine and_congr ?_ (and_congr ?_ Iff.rfl)
  · refine imp_congr_right fun hmab => ?_
    simp only [requestSubject] at hmab ⊢
    simp only [if_neg hmab]
    refine and_congr_right fun hname => ?_
    exact requestUser_enabled_iff world.db.property hmab hname
  · cases hmac : requestMac attrs with
    | none => simp [requestSubject]
    | some mac =>
        simp only [requestSubject, Option.map_some, Option.mem_some_iff, forall_eq',
          Option.some.injEq]
        exact seenDevice_not_blocked_iff world.db.property

theorem ClockReading.local_representable (now : ClockReading) (tz : Zone) :
    Representable now.toDatetime.utc ∧ Representable (localWall now.toDatetime tz) :=
  returns_astimezone_iff.mp ⟨_, now.astimezone_ok tz⟩

theorem decideSubject_permit_iff {platform : Platform} {world : World} {req : RequestInfo}
    {username : String} {subject : Subject} {decision : Decision}
    (hplain : world.db.val.PlainTimes) (hnow : subject.now = world.now.toDatetime) :
    decideSubject platform world req username subject = .ok decision ∧ decision.accepted = true ↔
      ∃ ctx, subjectContext subject = .ok ctx ∧
        (subject.method ∈ passwordMethods →
          recentlyVerified world.verified (verifiedKey username req) world.monotonic = true) ∧
        (∀ row ∈ world.db.val.policies, row.enabled = true → Returns (compilePolicy row)) ∧
        ∃ row policy, FirstMatch world.db.val ctx platform.timezone row policy ∧
          policy.action = .permit ∧ decision = policy.decision := by
  unfold decideSubject
  cases hsubject : subjectContext subject with
  | error refused =>
      refine iff_of_false ?_ (by simp)
      rintro ⟨h, hpermit⟩
      cases h
      obtain ⟨reason, rfl⟩ := deny_of_subjectContext_eq_error hsubject
      cases hpermit
  | ok ctx =>
      have hctx : ctx.now = world.now.toDatetime := by
        rw [(subjectContext_eq_ok_iff.mp hsubject).2.2, ← hnow]
        rfl
      have hlocal := hctx ▸ ClockReading.local_representable world.now platform.timezone
      have hevaluate := evaluate_permit_iff world.db.property hplain decision hlocal
      simp only [Except.ok.injEq, exists_eq_left']
      by_cases hverified : subject.method ∈ passwordMethods ∧
          (!recentlyVerified world.verified (verifiedKey username req) world.monotonic) = true
      · rw [if_pos hverified]
        refine iff_of_false ?_ fun h => ?_
        · rintro ⟨h, hpermit⟩
          cases h
          cases hpermit
        · have := h.1 hverified.1
          simp [this] at hverified
      · rw [if_neg hverified, hevaluate]
        refine (and_iff_right ?_).symm
        intro hmethod
        by_contra hnot
        exact hverified ⟨hmethod, by simpa using hnot⟩

theorem decision_of_permit {policy : CompiledPolicy} (h : policy.action = .permit) :
    policy.decision =
      { action := .permit
        policyId := policy.id
        policyName := policy.name
        reason := s!"permitted by policy {policy.name}"
        vlan := policy.vlan
        replyAttributes := policy.replyAttributes } := by
  rw [CompiledPolicy.decision, h]

/-- `authorize` answers PERMIT exactly for the requests that pass every gate, and then with the VLAN
and the attributes of the policy that permits. -/
theorem authorize_permits_iff (platform : Platform) (world : World) (attrs : Attrs)
    (hplain : world.db.val.PlainTimes) (decision : Decision) :
    (∃ world', authorize platform world attrs = .ok (decision, world')) ∧ decision.accepted = true ↔
      ∃ method nas row policy, Admitted platform world attrs method nas row policy ∧
        decision =
          { action := .permit
            policyId := policy.id
            policyName := policy.name
            reason := s!"permitted by policy {policy.name}"
            vlan := policy.vlan
            replyAttributes := policy.replyAttributes } := by
  rw [authorize_eq_ok_iff, requestInfo_nasIp]
  constructor
  · rintro ⟨⟨nas, hnas, hdecide⟩, hpermit⟩
    unfold decideOnly at hdecide
    dsimp only at hdecide
    cases hgate : requestGate attrs (requestInfo attrs) nas with
    | error refused =>
        rw [hgate] at hdecide
        cases hdecide
        obtain ⟨reason, rfl⟩ := deny_of_requestGate_eq_error hgate
        cases hpermit
    | ok found =>
        obtain ⟨method, client⟩ := found
        obtain ⟨hmethod, rfl, henabled, hmab⟩ := requestGate_eq_ok_iff.mp hgate
        rw [hgate] at hdecide
        dsimp only at hdecide
        rw [authorizedName_eq hmethod, requestInfo_mac] at hdecide
        obtain ⟨ctx, hsubject, hverified, hcompiles, row, policy, hfirst, haction, rfl⟩ :=
          (decideSubject_permit_iff hplain rfl).mp ⟨hdecide, hpermit⟩
        obtain ⟨huser, hdevice, rfl⟩ := subjectContext_request_iff.mp hsubject
        refine ⟨method, client, row, policy, ?_, decision_of_permit haction⟩
        refine ⟨requestInfo_method_eq_some_iff.mp hmethod, hnas, henabled, hmab, huser, hdevice, ?_,
          hcompiles, hfirst, haction⟩
        intro hpassword
        have hmab : method ≠ .mab := by
          rintro rfl
          simp [passwordMethods] at hpassword
        have hkey := hverified hpassword
        rw [if_neg hmab, verifiedKey_requestInfo, recentlyVerified_iff] at hkey
        exact hkey
  · rintro ⟨method, nas, row, policy, hadmitted, rfl⟩
    have hmethod := requestInfo_method_eq_some_iff.mpr hadmitted.knownMethod
    refine ⟨⟨some nas, hadmitted.nasResolved, ?_⟩, rfl⟩
    have hgate := requestGate_eq_ok_iff.mpr
      ⟨hmethod, rfl, hadmitted.nasEnabled, hadmitted.sameMac⟩
    unfold decideOnly
    dsimp only
    rw [hgate, authorizedName_eq hmethod, requestInfo_mac, ← decision_of_permit hadmitted.permits]
    refine ((decideSubject_permit_iff hplain rfl).mpr ⟨_, subjectContext_request_iff.mpr
      ⟨hadmitted.enabledUser, hadmitted.notBlocked, rfl⟩, ?_, hadmitted.compiles, row, policy,
      hadmitted.firstMatch, hadmitted.permits, rfl⟩).1
    intro hpassword
    have hmab : method ≠ .mab := by
      rintro rfl
      simp [requestSubject, passwordMethods] at hpassword
    rw [if_neg hmab, verifiedKey_requestInfo, recentlyVerified_iff]
    exact hadmitted.verified hpassword

/-! A switch with one policy that lets every station into VLAN 10. -/

def anyoneToTen : Policy where
  id := 1
  name := "lan"
  conditions := .arr [.obj [("type", .str "always")]]
  action := .permit
  vlan := some 10

def accessSwitch : NasClient where
  id := 1
  name := "sw1"
  ipAddress := "10.0.0.1"
  secret := "s3cret"

def officePlatform : Platform where
  timezone := Zone.utc
  oui _ := none
  sha256 _ := "164bd608f184f6322d5e5f5cf2ec838b27c6e1f6109b4aafad3373ef1b821e6d"

def officeWorld : World where
  db := ⟨{ policies := [anyoneToTen], nasClients := [accessSwitch] }, by decide⟩
  now := ⟨63850334400000000, ClockReading.inRange_may2024⟩
  monotonic := 0
  verified := Dict.empty
  guesses := GuessGuard.new

/-- A phone, announced by its MAC address. -/
def phoneRequest : Attrs where
  values := [
    ("NACo-Auth-Method", ["MAB"]), ("NACo-NAS-IP", ["10.0.0.1"]),
    ("Calling-Station-Id", ["AA-BB-CC-00-00-01"]), ("User-Name", ["aabbcc000001"])]

theorem officeWorld_plainTimes : officeWorld.db.val.PlainTimes := by
  intro row hrow policy hcompile cond hcond
  obtain rfl : row = anyoneToTen := List.mem_singleton.mp hrow
  cases hcompile
  obtain rfl := List.mem_singleton.mp hcond
  trivial

theorem admitted_phone :
    Admitted officePlatform officeWorld phoneRequest .mab accessSwitch anyoneToTen
      { id := 1, name := "lan", priority := 100, action := .permit, vlan := some 10,
        replyAttributes := [], conditions := [.always] } where
  knownMethod := by decide
  nasResolved := rfl
  nasEnabled := rfl
  sameMac _ := ⟨"aa:bb:cc:00:00:01", by decide, by decide⟩
  enabledUser h := absurd rfl h
  notBlocked _ _ device hdevice := by cases hdevice
  verified h := absurd h (by decide)
  compiles row hrow _ := by
    obtain rfl : row = anyoneToTen := List.mem_singleton.mp hrow
    exact ⟨_, rfl⟩
  firstMatch := by
    refine ⟨List.mem_singleton_self _, rfl, rfl, ?_, ?_⟩
    · intro cond hcond
      obtain rfl := List.mem_singleton.mp hcond
      rfl
    · intro other hother _ hbefore
      obtain rfl : other = anyoneToTen := List.mem_singleton.mp hother
      simp [Policy.Before] at hbefore
  permits := rfl

theorem authorize_permits_phone :
    (∃ world', authorize officePlatform officeWorld phoneRequest =
      .ok ({ action := .permit, policyId := some 1, policyName := "lan",
             reason := "permitted by policy lan", vlan := some 10 }, world')) ∧
      officeWorld.db.val.PlainTimes :=
  ⟨((authorize_permits_iff officePlatform officeWorld phoneRequest officeWorld_plainTimes _).mpr
    ⟨.mab, accessSwitch, anyoneToTen, _, admitted_phone, rfl⟩).1, officeWorld_plainTimes⟩

end Naco
