import Naco.Proof.Unseen
import Naco.Simulator

/-!
# What the simulator predicts

The simulator rebuilds the subject of a request without recording anything and without looking at
whether the NAS is enabled, and it evaluates every condition of every policy where a live decision
stops at the first match. For a request that no hard rule refuses it predicts the live answer, whatever
the policies, exactly when the NAS is enabled and a missing device row would not show; and it answers
at all only when no condition raises.
-/

namespace Naco

open Py

/-- The live request that a simulated one stands for: the same method, name, station and SSID, from
the NAS of that name, at that instant, and with the password just verified. -/
structure SimulatedRequest (world : World) (attrs : Attrs) (body : SimulateIn) (nas : NasClient) :
    Prop where
  sameMethod : attrs.get "NACo-Auth-Method" = some body.authMethod.name
  sameName : body.authMethod ≠ .mab →
    identity attrs body.authMethod = canonicalUsername (some body.username)
  sameMac : if body.mac = "" then requestMac attrs = none
    else requestMac attrs = normalizeMac (some body.mac) ∧ normalizeMac (some body.mac) ≠ none
  mabStation : MabValid attrs body.authMethod
  sameSsid : (requestInfo attrs).ssid = orNone body.ssid
  nasNamed : nas ∈ world.db.val.nasClients ∧ body.nas = nas.name ∧ nas.name ≠ ""
  fromNas : findNas world.db.val (requestNasIp attrs) = .ok (some nas)
  instant : body.atTime.getD world.now.toDatetime = world.now.toDatetime
  verified : body.authMethod ∈ passwordMethods → recentlyVerified world.verified
    (verifiedKey (identity attrs body.authMethod) (requestInfo attrs)) world.monotonic = true

/-- The simulator returns, and with the flag, the policy, the VLAN and the attributes of the live
decision. -/
def SimulationAgrees (platform : Platform) (world : World) (attrs : Attrs) (body : SimulateIn) :
    Prop :=
  ∃ out decision, simulate platform world.db.val world.now body = .ok out ∧
    liveDecision platform world attrs = .ok decision ∧ out.accepted = decision.accepted ∧
    out.policy = decision.policyName ∧ out.vlan = decision.vlan ∧
    out.replyAttributes = decision.replyAttributes

/-- No condition of the enabled policies raises at the instant. -/
def Tables.Evaluable (t : Tables) (now : Datetime) (tz : Zone) : Prop :=
  ∀ policies, loadPolicies t = .ok policies →
    ∀ policy ∈ policies, ∀ cond ∈ policy.conditions, cond.Evaluable now tz

section

variable {platform : Platform} {world : World} {attrs : Attrs} {body : SimulateIn} {nas : NasClient}

/-- The simulator's subject is the live one, less what the live request records. -/
theorem simulatedSubject_eq (hsame : SimulatedRequest world attrs body nas) :
    simulatedSubject world.db.val body (requestMac attrs) world.now.toDatetime =
      { (liveSubject platform world attrs body.authMethod nas).unrecorded world.db.val with
        nasIp := nas.ipAddress } := by
  have hname : (if body.authMethod ≠ .mab then canonicalUsername (some body.username) else "") =
      if body.authMethod = .mab then "" else identity attrs body.authMethod := by
    by_cases hmab : body.authMethod = .mab
    · simp [hmab]
    · simp [hmab, hsame.sameName hmab]
  obtain ⟨hmem, hnas, hne⟩ := hsame.nasNamed
  have hfind : world.db.val.nasClients.find? (·.name = body.nas) = some nas :=
    (Rows.find?_eq_some_iff world.db.property.nasNames).mpr ⟨hmem, hnas.symm⟩
  have hbody : body.nas ≠ "" := hnas ▸ hne
  unfold simulatedSubject liveSubject requestSubject Subject.unrecorded
  simp only [hname, hfind, hbody, if_false, Option.map_some, Option.getD_some, requestInfo_mac,
    hsame.sameSsid, simulatedGuest, ClockReading.toDatetime_utc, Subject.mk.injEq, true_and, and_true]
  refine ⟨?_, rfl⟩
  by_cases hmab : body.authMethod = .mab
  · simp [hmab, requestUser]
  · by_cases hempty : identity attrs body.authMethod = "" <;> simp [requestUser, hmab, hempty]

/-- What the simulator decides on. -/
def simulatedContext (platform : Platform) (world : World) (attrs : Attrs) (body : SimulateIn)
    (nas : NasClient) : AuthContext :=
  { ((liveSubject platform world attrs body.authMethod nas).unrecorded world.db.val).context with
    nasIp := nas.ipAddress }

theorem subjectContext_simulated (platform : Platform) (hsame : SimulatedRequest world attrs body nas) :
    (¬ HardRefused world.db.val body.authMethod (identity attrs body.authMethod) (requestMac attrs) ∧
      subjectContext (simulatedSubject world.db.val body (requestMac attrs) world.now.toDatetime) =
        .ok (simulatedContext platform world attrs body nas)) ∨
    (HardRefused world.db.val body.authMethod (identity attrs body.authMethod) (requestMac attrs) ∧
      ∃ reason, subjectContext
        (simulatedSubject world.db.val body (requestMac attrs) world.now.toDatetime) =
          .error (deny reason)) := by
  rw [@simulatedSubject_eq platform world attrs body nas hsame]
  have hrules := returns_subjectContext_unrecorded_iff
    (@liveSubject_recorded platform world attrs body.authMethod nas) nas.ipAddress
  rw [returns_subjectContext_live_iff] at hrules
  rcases subjectContext_cases
    { (liveSubject platform world attrs body.authMethod nas).unrecorded world.db.val with
      nasIp := nas.ipAddress } with ⟨hreturns, hctx⟩ | ⟨hnot, hdeny⟩
  · rw [context_with_nasIp, ← simulatedContext] at hctx
    exact .inl ⟨hrules.mp hreturns, hctx⟩
  · exact .inr ⟨not_not.mp (mt hrules.mpr hnot), hdeny⟩

theorem simulate_of_loads (hsame : SimulatedRequest world attrs body nas)
    {policies : List CompiledPolicy} (hload : loadPolicies world.db.val = .ok policies) :
    simulate platform world.db.val world.now body =
      simulateSubject platform policies (subjectContext
        (simulatedSubject world.db.val body (requestMac attrs) world.now.toDatetime)) := by
  have hmac : (if body.mac = "" then none else normalizeMac (some body.mac)) = requestMac attrs ∧
      ¬ (body.mac ≠ "" ∧ (if body.mac = "" then none else normalizeMac (some body.mac)) = none) := by
    have hsameMac := hsame.sameMac
    by_cases hempty : body.mac = ""
    · simp only [hempty, if_true] at hsameMac ⊢
      exact ⟨hsameMac.symm, by simp⟩
    · simp only [hempty, if_false] at hsameMac ⊢
      exact ⟨hsameMac.1.symm, fun h => hsameMac.2 h.2⟩
  unfold simulate
  dsimp only
  rw [if_neg hmac.2, hmac.1, hsame.instant, hload]

/-- A refused request is refused by both. -/
theorem simulationAgrees_of_hardRefused (hsame : SimulatedRequest world attrs body nas)
    (hload : Returns (loadPolicies world.db.val))
    (hrefused : HardRefused world.db.val body.authMethod (identity attrs body.authMethod)
      (requestMac attrs)) : SimulationAgrees platform world attrs body := by
  obtain ⟨policies, hpolicies⟩ := hload
  rcases subjectContext_simulated platform hsame with ⟨hfree, -⟩ | ⟨-, reason, hsubject⟩
  · exact absurd hrefused hfree
  · have hlive : ∃ reason, liveDecision platform world attrs = .ok (deny reason) := by
      cases henabled : nas.enabled with
      | false => exact liveDecision_of_gate_closed hsame.sameMethod hsame.fromNas (.inl henabled)
      | true =>
          rw [liveDecision_of_gate_open hsame.sameMethod hsame.fromNas henabled hsame.mabStation
            hsame.verified]
          rcases subjectContext_cases (liveSubject platform world attrs body.authMethod nas) with
            ⟨hreturns, -⟩ | ⟨-, reason, hdeny⟩
          · exact absurd hrefused (returns_subjectContext_live_iff.mp hreturns)
          · exact ⟨reason, by rw [hdeny]⟩
    obtain ⟨reason', hlive⟩ := hlive
    refine ⟨.ofDecision (deny reason) none [], deny reason', ?_, hlive, rfl, rfl, rfl, rfl⟩
    rw [simulate_of_loads hsame hpolicies, hsubject]
    rfl

/-- Past the hard rules the simulator answers exactly when no condition raises, and then with the
decision on its own context. -/
theorem simulate_of_free (hsame : SimulatedRequest world attrs body nas)
    {policies : List CompiledPolicy} (hload : loadPolicies world.db.val = .ok policies)
    (hfree : ¬ HardRefused world.db.val body.authMethod (identity attrs body.authMethod)
      (requestMac attrs)) :
    simulate platform world.db.val world.now body =
      simulateSubject platform policies (.ok (simulatedContext platform world attrs body nas)) := by
  rcases subjectContext_simulated platform hsame with ⟨-, hsubject⟩ | ⟨hrefused, -⟩
  · rw [simulate_of_loads hsame hload, hsubject]
  · exact absurd hrefused hfree

theorem evaluates_iff_evaluable {policy : CompiledPolicy} {ctx : AuthContext} {tz : Zone} :
    policy.Evaluates ctx tz ↔ ∀ cond ∈ policy.conditions, cond.Evaluable ctx.now tz :=
  forall₂_congr fun cond _ => returns_conditionMatches_iff cond ctx tz

theorem simulationAgrees_of_known (hsame : SimulatedRequest world attrs body nas)
    (hfree : ¬ HardRefused world.db.val body.authMethod (identity attrs body.authMethod)
      (requestMac attrs))
    (henabled : nas.enabled = true)
    (hknown : StationKnown platform world.db.val (requestMac attrs)
      ((requestMac attrs).any fun mac => guestActive world.db.val mac world.now.utc))
    (hload : Returns (loadPolicies world.db.val))
    (hevaluable : world.db.val.Evaluable world.now.toDatetime platform.timezone) :
    SimulationAgrees platform world attrs body := by
  obtain ⟨policies, hpolicies⟩ := hload
  set live := liveSubject platform world attrs body.authMethod nas with hlive
  have hrecorded : live.Recorded platform world.db.val := liveSubject_recorded
  have hcontext : simulatedContext platform world attrs body nas =
      { live.context with nasIp := nas.ipAddress } := by
    rw [simulatedContext, ← hlive, context_unrecorded_of_known hrecorded]
    rw [hlive, liveSubject_isGuest, liveSubject_mac]
    exact hknown
  have halike : Alike live.context (simulatedContext platform world attrs body nas) := by
    rw [hcontext]
    exact alike_of_namedAlike nas.ipAddress (fun _ => Iff.rfl) fun _ => Iff.rfl
  have heval : ∀ policy ∈ policies, policy.Evaluates live.context platform.timezone :=
    fun policy hpolicy => evaluates_iff_evaluable.mpr (hevaluable policies hpolicies policy hpolicy)
  have heval' : ∀ policy ∈ policies,
      policy.Evaluates (simulatedContext platform world attrs body nas) platform.timezone := by
    intro policy hpolicy cond hcond
    rw [← halike cond]
    exact heval policy hpolicy cond hcond
  obtain ⟨decision, hdecide⟩ : Returns (Naco.decide policies live.context platform.timezone) := by
    rcases decide_cases heval with ⟨policy, -, hdecide⟩ | ⟨-, hdecide⟩
    · exact ⟨_, hdecide⟩
    · exact ⟨_, hdecide⟩
  obtain ⟨traces, htraces⟩ := returns_explain_iff.mpr heval'
  refine ⟨.ofDecision decision (some (simulatedContext platform world attrs body nas)) traces,
    decision, ?_, ?_, rfl, rfl, rfl, rfl⟩
  · rw [simulate_of_free hsame hpolicies hfree, simulateSubject, htraces, ← halike.decide_eq, hdecide]
  · rw [liveDecision_of_free hsame.sameMethod hsame.fromNas henabled hsame.mabStation hsame.verified
      (returns_subjectContext_live_iff.mpr hfree), evaluate, hpolicies]
    exact hdecide

/-- The simulator answers a free request only when every condition evaluates. -/
theorem evaluable_of_simulationAgrees (hsame : SimulatedRequest world attrs body nas)
    (hfree : ¬ HardRefused world.db.val body.authMethod (identity attrs body.authMethod)
      (requestMac attrs))
    (hagrees : SimulationAgrees platform world attrs body) :
    world.db.val.Evaluable world.now.toDatetime platform.timezone := by
  obtain ⟨out, -, hout, -⟩ := hagrees
  intro policies hpolicies policy hpolicy
  rw [simulate_of_free hsame hpolicies hfree, simulateSubject] at hout
  cases htraces : explain policies (simulatedContext platform world attrs body nas)
      platform.timezone with
  | error error =>
      rw [htraces] at hout
      cases hout
  | ok traces => exact evaluates_iff_evaluable.mp (returns_explain_iff.mp ⟨traces, htraces⟩ policy hpolicy)

/-! ### Other policies -/

theorem SimulatedRequest.withPolicies (hsame : SimulatedRequest world attrs body nas)
    (policies : List Policy) (h : { world.db.val with policies }.Consistent) :
    SimulatedRequest (world.withPolicies policies h) attrs body nas :=
  ⟨hsame.sameMethod, hsame.sameName, hsame.sameMac, hsame.mabStation, hsame.sameSsid,
    hsame.nasNamed, hsame.fromNas, hsame.instant, hsame.verified⟩

theorem simulatedContext_withPolicies (policies : List Policy)
    (h : { world.db.val with policies }.Consistent) :
    simulatedContext platform (world.withPolicies policies h) attrs body nas =
      simulatedContext platform world attrs body nas := by
  unfold simulatedContext
  rw [liveSubject_withPolicies]
  rfl

/-- Two contexts that the simulator and the live path answer alike for a probe agree on its
condition. -/
theorem eq_of_simulationAgrees_probe (hsame : SimulatedRequest world attrs body nas)
    (hfree : ¬ HardRefused world.db.val body.authMethod (identity attrs body.authMethod)
      (requestMac attrs))
    (henabled : nas.enabled = true) {raw : Json} {cond : Condition} {result result' : Bool}
    (hparse : parseConditions (.arr [raw]) = .ok [cond])
    (hlive : conditionMatches cond (liveSubject platform world attrs body.authMethod nas).context
      platform.timezone = .ok result)
    (hsimulated : conditionMatches cond (simulatedContext platform world attrs body nas)
      platform.timezone = .ok result')
    (hagrees : SimulationAgrees platform (world.withProbe raw) attrs body) : result = result' := by
  have hprobe : SimulatedRequest (world.withProbe raw) attrs body nas :=
    hsame.withPolicies _ (withProbe_consistent world.db.property raw)
  have hload : loadPolicies (world.withProbe raw).db.val = .ok [probe cond] :=
    loadPolicies_withProbe world.db.val hparse
  obtain ⟨out, decision, hout, hdecision, haccepted, -⟩ := hagrees
  rw [liveDecision_withProbe hsame.sameMethod hsame.fromNas henabled hsame.mabStation hsame.verified
    (returns_subjectContext_live_iff.mpr hfree) hparse hlive] at hdecision
  rw [simulate_of_free hprobe hload hfree] at hout
  have hcontext : simulatedContext platform (world.withProbe raw) attrs body nas =
      simulatedContext platform world attrs body nas := simulatedContext_withPolicies _ _
  have hexplain : Returns (explain [probe cond] (simulatedContext platform world attrs body nas)
      platform.timezone) := by
    rw [returns_explain_iff]
    intro policy hpolicy found hfound
    rw [List.mem_singleton.mp hpolicy] at hfound
    rw [List.mem_singleton.mp hfound]
    exact ⟨_, hsimulated⟩
  obtain ⟨traces, htraces⟩ := hexplain
  rw [hcontext, simulateSubject, htraces, decide_probe hsimulated] at hout
  cases hout
  cases hdecision
  cases result <;> cases result' <;> first | rfl | cases haccepted

theorem enabled_of_simulationAgrees_always (hsame : SimulatedRequest world attrs body nas)
    (hfree : ¬ HardRefused world.db.val body.authMethod (identity attrs body.authMethod)
      (requestMac attrs))
    (hagrees : SimulationAgrees platform (world.withProbe alwaysProbe) attrs body) :
    nas.enabled = true := by
  have hprobe : SimulatedRequest (world.withProbe alwaysProbe) attrs body nas :=
    hsame.withPolicies _ (withProbe_consistent world.db.property alwaysProbe)
  have hload : loadPolicies (world.withProbe alwaysProbe).db.val = .ok [probe .always] :=
    loadPolicies_withProbe world.db.val parse_alwaysProbe
  by_contra hdisabled
  obtain ⟨out, decision, hout, hdecision, haccepted, -⟩ := hagrees
  obtain ⟨reason, hdeny⟩ := @liveDecision_of_gate_closed platform (world.withProbe alwaysProbe) attrs
    body.authMethod nas hsame.sameMethod hsame.fromNas (.inl (by simpa using hdisabled))
  cases hdeny.symm.trans hdecision
  rw [simulate_of_free hprobe hload hfree] at hout
  cases hout
  cases haccepted

end

/-- Whatever policies load and evaluate, the simulator predicts the live answer exactly when a hard
rule refuses the request or the NAS is enabled and a missing device row would not show. With a policy
set that does not evaluate it answers for refused requests only. -/
theorem simulation_agrees_iff (platform : Platform) (world : World) (attrs : Attrs)
    (body : SimulateIn) (nas : NasClient) (hsame : SimulatedRequest world attrs body nas) :
    ((∀ (policies : List Policy) (h : { world.db.val with policies }.Consistent),
        Returns (loadPolicies (world.withPolicies policies h).db.val) →
        (world.withPolicies policies h).db.val.Evaluable world.now.toDatetime platform.timezone →
          SimulationAgrees platform (world.withPolicies policies h) attrs body) ↔
      HardRefused world.db.val body.authMethod (identity attrs body.authMethod)
          (requestMac attrs) ∨
        nas.enabled = true ∧ StationKnown platform world.db.val (requestMac attrs)
          ((requestMac attrs).any fun mac => guestActive world.db.val mac world.now.utc)) ∧
    ∀ (policies : List Policy) (h : { world.db.val with policies }.Consistent),
      Returns (loadPolicies (world.withPolicies policies h).db.val) →
      ¬ (world.withPolicies policies h).db.val.Evaluable world.now.toDatetime platform.timezone →
        (SimulationAgrees platform (world.withPolicies policies h) attrs body ↔
          HardRefused world.db.val body.authMethod (identity attrs body.authMethod)
            (requestMac attrs)) := by
  constructor
  · constructor
    · intro hagrees
      by_cases hfree : HardRefused world.db.val body.authMethod (identity attrs body.authMethod)
        (requestMac attrs)
      · exact .inl hfree
      · right
        have hprobes : ∀ raw cond, parseConditions (.arr [raw]) = .ok [cond] →
            (∀ now tz, cond.Evaluable now tz) →
            SimulationAgrees platform (world.withProbe raw) attrs body := by
          intro raw cond hparse hevaluable
          have hload := loadPolicies_withProbe world.db.val hparse
          refine hagrees _ (withProbe_consistent world.db.property raw) ⟨_, hload⟩ ?_
          intro policies hpolicies policy hpolicy found hfound
          cases hload.symm.trans hpolicies
          rw [List.mem_singleton.mp hpolicy] at hfound
          rw [List.mem_singleton.mp hfound]
          exact hevaluable _ _
        have henabled : nas.enabled = true := enabled_of_simulationAgrees_always hsame hfree
          (hprobes _ _ parse_alwaysProbe fun _ _ => trivial)
        refine ⟨henabled, ?_⟩
        have hpending := eq_of_simulationAgrees_probe hsame hfree henabled parse_pendingProbe rfl rfl
          (hprobes _ _ parse_pendingProbe fun _ _ => trivial)
        have hvendor := eq_of_simulationAgrees_probe hsame hfree henabled parse_anyVendorProbe rfl rfl
          (hprobes _ _ parse_anyVendorProbe fun _ _ => trivial)
        rw [← @liveSubject_mac platform world attrs body.authMethod nas]
        exact stationKnown_of_probes liveSubject_recorded platform.timezone
          (congrArg Except.ok hpending) (congrArg Except.ok hvendor)
    · intro hcondition policies h hload hevaluable
      by_cases hfree : HardRefused world.db.val body.authMethod (identity attrs body.authMethod)
        (requestMac attrs)
      · exact simulationAgrees_of_hardRefused (hsame.withPolicies policies h) hload hfree
      · obtain ⟨henabled, hknown⟩ := hcondition.resolve_left hfree
        exact simulationAgrees_of_known (hsame.withPolicies policies h) hfree henabled hknown hload
          hevaluable
  · intro policies h hload hevaluable
    constructor
    · intro hagrees
      by_contra hfree
      exact hevaluable (evaluable_of_simulationAgrees (hsame.withPolicies policies h) hfree hagrees)
    · exact simulationAgrees_of_hardRefused (hsame.withPolicies policies h) hload

/-- The phone of the office, simulated. -/
def phoneSimulation : SimulateIn where
  authMethod := .mab
  mac := "aa:bb:cc:00:00:01"
  nas := "sw1"

theorem simulatedRequest_phone :
    SimulatedRequest officeWorld phoneRequest phoneSimulation accessSwitch where
  sameMethod := by decide
  sameName h := absurd rfl h
  sameMac := by decide
  mabStation _ := ⟨"aa:bb:cc:00:00:01", by decide, by decide⟩
  sameSsid := by decide
  nasNamed := by decide
  fromNas := rfl
  instant := rfl
  verified h := absurd h (by decide)

theorem phone_not_hardRefused :
    ¬ HardRefused officeWorld.db.val .mab (identity phoneRequest .mab) (requestMac phoneRequest) := by
  rintro (⟨hmab, -⟩ | ⟨device, hdevice, -⟩)
  · exact hmab rfl
  · cases hdevice

theorem phone_not_stationKnown :
    ¬ StationKnown officePlatform officeWorld.db.val (requestMac phoneRequest)
      ((requestMac phoneRequest).any fun mac =>
        guestActive officeWorld.db.val mac officeWorld.now.utc) := by
  intro hknown
  have hguest := (hknown "aa:bb:cc:00:00:01" (by decide) rfl).1
  exact absurd hguest (by decide)

theorem simulation_agrees_iff_phone :
    SimulatedRequest officeWorld phoneRequest phoneSimulation accessSwitch ∧
      ¬ ∀ (policies : List Policy) (h : { officeWorld.db.val with policies }.Consistent),
        Returns (loadPolicies (officeWorld.withPolicies policies h).db.val) →
        (officeWorld.withPolicies policies h).db.val.Evaluable officeWorld.now.toDatetime
          officePlatform.timezone →
          SimulationAgrees officePlatform (officeWorld.withPolicies policies h) phoneRequest
            phoneSimulation := by
  refine ⟨simulatedRequest_phone, fun hagrees => ?_⟩
  have hcondition := (simulation_agrees_iff officePlatform officeWorld phoneRequest phoneSimulation
    accessSwitch simulatedRequest_phone).1.mp hagrees
  rcases hcondition with hrefused | ⟨-, hknown⟩
  · exact phone_not_hardRefused hrefused
  · exact phone_not_stationKnown hknown

/-- A phone that was never seen is admitted as a pending device; the simulator says it is not. -/
theorem simulation_disagrees_phone :
    ¬ ∀ (platform : Platform) (world : World) (attrs : Attrs) (body : SimulateIn) (nas : NasClient),
      SimulatedRequest world attrs body nas → Returns (loadPolicies world.db.val) →
        SimulationAgrees platform world attrs body := by
  intro h
  have hagrees := h officePlatform (officeWorld.withProbe pendingProbe) phoneRequest phoneSimulation
    accessSwitch (simulatedRequest_phone.withPolicies _ _)
    ⟨_, loadPolicies_withProbe officeWorld.db.val parse_pendingProbe⟩
  have hsame := eq_of_simulationAgrees_probe simulatedRequest_phone phone_not_hardRefused rfl
    parse_pendingProbe rfl rfl hagrees
  exact absurd hsame (by decide)

end Naco
