import Naco.Proof.Engine

/-!
# The trace of a decision

`decide` stops at the first policy that holds and at the first condition that fails, `explain` goes
through all of them. Where no condition raises, the first trace that matched is that of the policy that
decides.
-/

namespace Naco

open Py

/-- The trace of a policy: one result for each condition, in order. -/
structure TraceOf (ctx : AuthContext) (tz : Zone) (policy : CompiledPolicy) (trace : PolicyTrace) :
    Prop where
  same_policy : trace.policy = policy
  results : List.Forall₂
    (fun cond result => result.1 = cond.label ∧ conditionMatches cond ctx tz = .ok result.2)
    policy.conditions trace.conditions
  all_results : trace.matched = trace.conditions.all (·.2)

section

variable {ctx : AuthContext} {tz : Zone} {policies : List CompiledPolicy} {traces : List PolicyTrace}

theorem traceOf_of_explain (h : explain policies ctx tz = .ok traces) :
    List.Forall₂ (TraceOf ctx tz) policies traces := by
  refine (mapM_eq_ok_iff.mp h).imp fun policy trace htrace => ?_
  obtain ⟨results, hresults, htrace⟩ := bind_eq_ok_iff.mp htrace
  cases htrace
  refine ⟨rfl, (mapM_eq_ok_iff.mp hresults).imp fun cond result hresult => ?_, rfl⟩
  obtain ⟨matched, hmatched, hresult⟩ := bind_eq_ok_iff.mp hresult
  cases hresult
  exact ⟨rfl, hmatched⟩

theorem TraceOf.matched_iff {policy : CompiledPolicy} {trace : PolicyTrace}
    (h : TraceOf ctx tz policy trace) : trace.matched = true ↔ policy.Holds ctx tz := by
  rw [h.all_results, CompiledPolicy.Holds]
  have hconditions := h.results
  generalize trace.conditions = results at hconditions ⊢
  generalize policy.conditions = conds at hconditions ⊢
  induction hconditions with
  | nil => simp
  | @cons cond result conds results hhead _ ih =>
      rw [List.all_cons, Bool.and_eq_true, List.forall_mem_cons, hhead.2]
      exact and_congr (by simp) ih

/-- The trace of the first policy that holds is the first that matched. -/
theorem first_matched_of_firstHolding (h : List.Forall₂ (TraceOf ctx tz) policies traces)
    {policy : CompiledPolicy} (hfirst : FirstHolding policies policy ctx tz) :
    (traces.find? (·.matched)).map (·.policy) = some policy := by
  obtain ⟨before, after, rfl, hholds, hbefore⟩ := hfirst
  obtain ⟨tracesBefore, trace, tracesAfter, rfl, htracesBefore, htrace⟩ := forall₂_split_left h
  have hnone : tracesBefore.find? (·.matched) = none := by
    rw [List.find?_eq_none]
    intro other hother hmatched
    obtain ⟨otherPolicy, hpolicy, hof⟩ := forall₂_mem_right htracesBefore hother
    exact hbefore otherPolicy hpolicy (hof.matched_iff.mp hmatched)
  rw [List.find?_append, hnone, Option.none_or, List.find?_cons_of_pos (htrace.matched_iff.mpr hholds),
    Option.map_some, htrace.same_policy]

theorem first_matched_eq_none (h : List.Forall₂ (TraceOf ctx tz) policies traces)
    (hnone : ∀ policy ∈ policies, ¬ policy.Holds ctx tz) : traces.find? (·.matched) = none := by
  rw [List.find?_eq_none]
  intro trace htrace hmatched
  obtain ⟨policy, hpolicy, hof⟩ := forall₂_mem_right h htrace
  exact hnone policy hpolicy (hof.matched_iff.mp hmatched)

end

/-- `decide` and `explain` agree on every policy list whose conditions do not raise. -/
theorem explain_tells_decision (policies : List CompiledPolicy) (ctx : AuthContext) (tz : Zone)
    (heval : ∀ policy ∈ policies, policy.Evaluates ctx tz) :
    ∃ traces, explain policies ctx tz = .ok traces ∧
      List.Forall₂ (TraceOf ctx tz) policies traces ∧
      ((∃ policy, FirstHolding policies policy ctx tz ∧
          Naco.decide policies ctx tz = .ok policy.decision ∧
          (traces.find? (·.matched)).map (·.policy) = some policy) ∨
        (∀ policy ∈ policies, ¬ policy.Holds ctx tz) ∧
          Naco.decide policies ctx tz = .ok (deny defaultDenyReason) ∧
          traces.find? (·.matched) = none) := by
  obtain ⟨traces, htraces⟩ := returns_explain_iff.mpr heval
  have hof := traceOf_of_explain htraces
  refine ⟨traces, htraces, hof, ?_⟩
  rcases decide_cases heval with ⟨policy, hfirst, hdecide⟩ | ⟨hnone, hdecide⟩
  · exact .inl ⟨policy, hfirst, hdecide, first_matched_of_firstHolding hof hfirst⟩
  · exact .inr ⟨hnone, hdecide, first_matched_eq_none hof hnone⟩

/-- A DENY policy for one user name before a permit for everyone. -/
def guardedPolicies : List CompiledPolicy :=
  [⟨1, "mallory", 10, .deny, none, [],
      [.text .username (.equals ⟨"mallory", by decide +kernel⟩) (by decide)]⟩,
    ⟨2, "everyone", 20, .permit, some 10, [], [.always]⟩]

theorem explain_tells_decision_guarded :
    ∃ traces, explain guardedPolicies lunchContext Zone.utc = .ok traces ∧
      List.Forall₂ (TraceOf lunchContext Zone.utc) guardedPolicies traces ∧
      ((∃ policy, FirstHolding guardedPolicies policy lunchContext Zone.utc ∧
          Naco.decide guardedPolicies lunchContext Zone.utc = .ok policy.decision ∧
          (traces.find? (·.matched)).map (·.policy) = some policy) ∨
        (∀ policy ∈ guardedPolicies, ¬ policy.Holds lunchContext Zone.utc) ∧
          Naco.decide guardedPolicies lunchContext Zone.utc = .ok (deny defaultDenyReason) ∧
          traces.find? (·.matched) = none) :=
  explain_tells_decision guardedPolicies lunchContext Zone.utc (List.forall_mem_cons.mpr
    ⟨List.forall_mem_singleton.mpr ⟨_, rfl⟩,
      List.forall_mem_singleton.mpr (List.forall_mem_singleton.mpr ⟨_, rfl⟩)⟩)

end Naco
