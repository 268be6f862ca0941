import Naco.Engine
import Naco.Proof.Conditions

/-!
# First match

What `decide` returns, without its loop: the decision of the first policy that holds, in the order the
rows are loaded in. A policy holds when each of its conditions evaluates to true. The loop stops at the
first policy that holds, so a condition that raises matters only before it; with plain times nothing
raises at all.
-/

namespace Naco

open Py

/-- Every condition of the policy evaluates to true. -/
def CompiledPolicy.Holds (policy : CompiledPolicy) (ctx : AuthContext) (tz : Zone) : Prop :=
  ∀ cond ∈ policy.conditions, conditionMatches cond ctx tz = .ok true

/-- No condition raises. -/
def CompiledPolicy.Evaluates (policy : CompiledPolicy) (ctx : AuthContext) (tz : Zone) : Prop :=
  ∀ cond ∈ policy.conditions, Returns (conditionMatches cond ctx tz)

/-- The ends of the condition, if it is a time window, carry no UTC offset. -/
def Condition.PlainTimes : Condition → Prop
  | .time cond => ¬ cond.start.HasOffset ∧ ¬ cond.stop.HasOffset
  | _ => True

/-! ### One policy -/

theorem allMatch_eq_true_iff {ctx : AuthContext} {tz : Zone} {conds : List Condition} :
    allMatch ctx tz conds = .ok true ↔ ∀ cond ∈ conds, conditionMatches cond ctx tz = .ok true := by
  induction conds with
  | nil => simp [allMatch]
  | cons cond conds ih =>
      rw [List.forall_mem_cons, ← ih, allMatch]
      cases hcond : conditionMatches cond ctx tz with
      | error error => simp [bind, Except.bind]
      | ok result => cases result <;> simp [bind, Except.bind, pure, Except.pure]

theorem returns_allMatch {ctx : AuthContext} {tz : Zone} {conds : List Condition}
    (h : ∀ cond ∈ conds, Returns (conditionMatches cond ctx tz)) :
    Returns (allMatch ctx tz conds) := by
  induction conds with
  | nil => exact ⟨true, rfl⟩
  | cons cond conds ih =>
      obtain ⟨⟨result, hresult⟩, hrest⟩ := List.forall_mem_cons.mp h
      rw [allMatch, hresult]
      cases result with
      | false => exact ⟨false, rfl⟩
      | true => exact ih hrest

theorem matches_eq_true_iff {policy : CompiledPolicy} {ctx : AuthContext} {tz : Zone} :
    policy.matches ctx tz = .ok true ↔ policy.Holds ctx tz :=
  allMatch_eq_true_iff

theorem matches_eq_false {policy : CompiledPolicy} {ctx : AuthContext} {tz : Zone}
    (heval : policy.Evaluates ctx tz) (hfail : ¬ policy.Holds ctx tz) :
    policy.matches ctx tz = .ok false := by
  obtain ⟨result, hresult⟩ := returns_allMatch heval
  cases result with
  | false => exact hresult
  | true => exact absurd (matches_eq_true_iff.mp hresult) hfail

theorem evaluates_of_plainTimes {policy : CompiledPolicy} (ctx : AuthContext) (tz : Zone)
    (hplain : ∀ cond ∈ policy.conditions, cond.PlainTimes)
    (hlocal : Representable ctx.now.utc ∧ Representable (localWall ctx.now tz)) :
    policy.Evaluates ctx tz := by
  intro cond hmem
  rw [returns_conditionMatches_iff]
  have hcond := hplain cond hmem
  cases cond with
  | time cond => exact ⟨hlocal.1, hlocal.2, fun _ => hcond⟩
  | _ => trivial

/-! ### The loop -/

/-- The policy is the first of the list that holds. -/
def FirstHolding (policies : List CompiledPolicy) (policy : CompiledPolicy) (ctx : AuthContext)
    (tz : Zone) : Prop :=
  ∃ before after, policies = before ++ policy :: after ∧ policy.Holds ctx tz ∧
    ∀ other ∈ before, ¬ other.Holds ctx tz

section Loop

variable {ctx : AuthContext} {tz : Zone}

theorem decide_cons_of_holds {policy : CompiledPolicy} {policies : List CompiledPolicy}
    (h : policy.Holds ctx tz) : Naco.decide (policy :: policies) ctx tz = .ok policy.decision := by
  rw [Naco.decide, matches_eq_true_iff.mpr h]
  rfl

theorem decide_cons_of_not_holds {policy : CompiledPolicy} {policies : List CompiledPolicy}
    (heval : policy.Evaluates ctx tz) (h : ¬ policy.Holds ctx tz) :
    Naco.decide (policy :: policies) ctx tz = Naco.decide policies ctx tz := by
  rw [Naco.decide, matches_eq_false heval h]
  rfl

/-- Where every policy evaluates, the first that holds decides, and without one the answer is the
default. -/
theorem decide_cases {policies : List CompiledPolicy}
    (heval : ∀ policy ∈ policies, policy.Evaluates ctx tz) :
    (∃ policy, FirstHolding policies policy ctx tz ∧
        Naco.decide policies ctx tz = .ok policy.decision) ∨
      (∀ policy ∈ policies, ¬ policy.Holds ctx tz) ∧
        Naco.decide policies ctx tz = .ok (deny defaultDenyReason) := by
  induction policies with
  | nil => exact .inr ⟨by simp, rfl⟩
  | cons head policies ih =>
      obtain ⟨hhead, hrest⟩ := List.forall_mem_cons.mp heval
      by_cases hholds : head.Holds ctx tz
      · exact .inl ⟨head, ⟨[], policies, rfl, hholds, by simp⟩, decide_cons_of_holds hholds⟩
      · rw [decide_cons_of_not_holds hhead hholds]
        rcases ih hrest with ⟨policy, ⟨before, after, rfl, hpolicy, hbefore⟩, hdecide⟩ |
          ⟨hnone, hdecide⟩
        · refine .inl ⟨policy, ⟨head :: before, after, rfl, hpolicy, ?_⟩, hdecide⟩
          exact List.forall_mem_cons.mpr ⟨hholds, hbefore⟩
        · exact .inr ⟨List.forall_mem_cons.mpr ⟨hholds, hnone⟩, hdecide⟩

theorem firstHolding_unique {policies : List CompiledPolicy} {policy other : CompiledPolicy}
    (h : FirstHolding policies policy ctx tz) (hother : FirstHolding policies other ctx tz) :
    policy = other := by
  induction policies with
  | nil =>
      obtain ⟨before, after, hsplit, -⟩ := h
      simp at hsplit
  | cons head policies ih =>
      obtain ⟨before, after, hsplit, hholds, hbefore⟩ := h
      obtain ⟨before', after', hsplit', hholds', hbefore'⟩ := hother
      cases before with
      | nil =>
          cases before' with
          | nil =>
              rw [hsplit] at hsplit'
              exact (List.cons.inj hsplit').1
          | cons first before' =>
              obtain ⟨rfl, -⟩ := List.cons.inj (hsplit.symm.trans hsplit')
              exact absurd hholds (hbefore' _ List.mem_cons_self)
      | cons first before =>
          obtain ⟨rfl, hrest⟩ := List.cons.inj hsplit
          have hfirst := hbefore _ List.mem_cons_self
          cases before' with
          | nil =>
              obtain ⟨rfl, -⟩ := List.cons.inj hsplit'
              exact absurd hholds' hfirst
          | cons first' before' =>
              obtain ⟨-, hrest'⟩ := List.cons.inj hsplit'
              exact ih
                ⟨before, after, hrest, hholds, fun p hp => hbefore p (List.mem_cons_of_mem _ hp)⟩
                ⟨before', after', hrest', hholds',
                  fun p hp => hbefore' p (List.mem_cons_of_mem _ hp)⟩

/-- A permit comes from the first policy that holds, and from nothing else. -/
theorem decide_permit_iff {policies : List CompiledPolicy} {decision : Decision}
    (heval : ∀ policy ∈ policies, policy.Evaluates ctx tz) :
    Naco.decide policies ctx tz = .ok decision ∧ decision.accepted = true ↔
      ∃ policy, FirstHolding policies policy ctx tz ∧ policy.action = .permit ∧
        decision = policy.decision := by
  rcases decide_cases heval with ⟨first, hfirst, hdecide⟩ | ⟨hnone, hdecide⟩
  · rw [hdecide]
    have haccepted : first.decision.accepted = true ↔ first.action = .permit := by
      unfold CompiledPolicy.decision
      cases first.action <;> simp [Decision.accepted, deny]
    constructor
    · rintro ⟨h, hpermit⟩
      cases h
      exact ⟨first, hfirst, haccepted.mp hpermit, rfl⟩
    · rintro ⟨policy, hpolicy, hpermit, rfl⟩
      rw [firstHolding_unique hpolicy hfirst] at hpermit ⊢
      exact ⟨rfl, haccepted.mpr hpermit⟩
  · rw [hdecide]
    constructor
    · rintro ⟨h, hpermit⟩
      cases h
      cases hpermit
    · rintro ⟨policy, ⟨before, after, rfl, hholds, -⟩, -⟩
      exact absurd hholds (hnone policy (by simp))

/-- Also where a condition raises: a permit that is returned comes from the first policy that holds. -/
theorem firstHolding_of_decide {policies : List CompiledPolicy} {decision : Decision}
    (h : Naco.decide policies ctx tz = .ok decision) (hpermit : decision.accepted = true) :
    ∃ policy, FirstHolding policies policy ctx tz ∧ policy.action = .permit ∧
      decision = policy.decision := by
  induction policies with
  | nil =>
      cases h
      cases hpermit
  | cons head policies ih =>
      rw [Naco.decide, bind_eq_ok_iff] at h
      obtain ⟨result, hresult, h⟩ := h
      cases result with
      | true =>
          cases h
          refine ⟨head, ⟨[], policies, rfl, matches_eq_true_iff.mp hresult, by simp⟩, ?_, rfl⟩
          unfold CompiledPolicy.decision at hpermit
          cases haction : head.action with
          | permit => rfl
          | deny =>
              rw [haction] at hpermit
              cases hpermit
      | false =>
          obtain ⟨policy, ⟨before, after, rfl, hholds, hbefore⟩, haction, hdecision⟩ := ih h
          have hhead : ¬ head.Holds ctx tz := by
            intro hhead
            cases hresult.symm.trans (matches_eq_true_iff.mpr hhead)
          exact ⟨policy, ⟨head :: before, after, rfl, hholds, List.forall_mem_cons.mpr ⟨hhead, hbefore⟩⟩,
            haction, hdecision⟩

end Loop

/-- The trace needs every condition of every policy. -/
theorem returns_explain_iff {policies : List CompiledPolicy} {ctx : AuthContext} {tz : Zone} :
    Returns (explain policies ctx tz) ↔ ∀ policy ∈ policies, policy.Evaluates ctx tz := by
  have hbind : ∀ {α β : Type} (call : Except Error α) (f : α → β),
      Returns (call >>= fun value => pure (f value)) ↔ Returns call := by
    intro α β call f
    cases call <;> simp [Returns, bind, Except.bind, pure, Except.pure]
  unfold explain
  rw [returns_mapM_iff]
  refine forall₂_congr fun policy _ => ?_
  rw [hbind, returns_mapM_iff]
  refine forall₂_congr fun cond _ => ?_
  rw [hbind]

/-! ### Loading -/

/-- `(priority, id)` of the first row is before that of the second. -/
def Policy.Before (a b : Policy) : Prop :=
  a.priority < b.priority ∨ a.priority = b.priority ∧ a.id < b.id

instance : Std.Total Policy.le :=
  ⟨fun a b => by unfold Policy.le; omega⟩

instance : IsTrans Policy Policy.le :=
  ⟨fun a b c hab hbc => by unfold Policy.le at *; omega⟩

theorem mem_enabledPolicies {t : Tables} {row : Policy} :
    row ∈ enabledPolicies t ↔ row ∈ t.policies ∧ row.enabled = true := by
  rw [enabledPolicies, List.mem_insertionSort, List.mem_filter]

theorem pairwise_enabledPolicies (t : Tables) : (enabledPolicies t).Pairwise Policy.le :=
  List.pairwise_insertionSort _ _

theorem nodup_enabledPolicies {t : Tables} (ht : t.Consistent) :
    ((enabledPolicies t).map (·.id)).Nodup := by
  have hperm : (enabledPolicies t).Perm (t.policies.filter (·.enabled)) :=
    List.perm_insertionSort _ _
  rw [(hperm.map _).nodup_iff]
  exact ht.policyIds.sublist (List.filter_sublist.map _)

/-- The rows before a row of the evaluation order are those with a smaller priority or id. -/
theorem mem_before_iff {t : Tables} (ht : t.Consistent) {before after : List Policy} {row : Policy}
    (hsplit : enabledPolicies t = before ++ row :: after) {other : Policy} :
    other ∈ before ↔ other ∈ t.policies ∧ other.enabled = true ∧ other.Before row := by
  have hsorted := pairwise_enabledPolicies t
  have hids := nodup_enabledPolicies ht
  rw [hsplit] at hsorted hids
  rw [List.map_append, List.map_cons, List.nodup_append] at hids
  rw [List.pairwise_append, List.pairwise_cons] at hsorted
  obtain ⟨-, ⟨hafter, -⟩, hbefore⟩ := hsorted
  constructor
  · intro hmem
    have hin : other ∈ enabledPolicies t := by
      rw [hsplit]
      exact List.mem_append_left _ hmem
    obtain ⟨hpolicy, henabled⟩ := mem_enabledPolicies.mp hin
    have hle := hbefore other hmem row List.mem_cons_self
    have hne : other.id ≠ row.id :=
      hids.2.2 other.id (List.mem_map_of_mem hmem) row.id List.mem_cons_self
    refine ⟨hpolicy, henabled, ?_⟩
    unfold Policy.le at hle
    unfold Policy.Before
    omega
  · rintro ⟨hpolicy, henabled, hlt⟩
    have hin := mem_enabledPolicies.mpr ⟨hpolicy, henabled⟩
    rw [hsplit, List.mem_append, List.mem_cons] at hin
    unfold Policy.Before at hlt
    rcases hin with hin | rfl | hin
    · exact hin
    · omega
    · have hle := hafter other hin
      unfold Policy.le at hle
      omega

theorem loadPolicies_eq_ok_iff {t : Tables} {policies : List CompiledPolicy} :
    loadPolicies t = .ok policies ↔
      List.Forall₂ (fun row policy => compilePolicy row = .ok policy) (enabledPolicies t) policies :=
  mapM_eq_ok_iff

theorem returns_loadPolicies_iff {t : Tables} :
    Returns (loadPolicies t) ↔ ∀ row ∈ t.policies, row.enabled = true → Returns (compilePolicy row) := by
  rw [loadPolicies, returns_mapM_iff]
  simp only [mem_enabledPolicies, and_imp]

/-- The row is the first enabled one, by priority and id, whose conditions all hold. -/
def FirstMatch (t : Tables) (ctx : AuthContext) (tz : Zone) (row : Policy) (policy : CompiledPolicy) :
    Prop :=
  row ∈ t.policies ∧ row.enabled = true ∧ compilePolicy row = .ok policy ∧ policy.Holds ctx tz ∧
    ∀ other ∈ t.policies, other.enabled = true → other.Before row →
      ∀ compiled, compilePolicy other = .ok compiled → ¬ compiled.Holds ctx tz

theorem firstHolding_iff_firstMatch {t : Tables} (ht : t.Consistent) {policies : List CompiledPolicy}
    (hload : loadPolicies t = .ok policies) {ctx : AuthContext} {tz : Zone} {policy : CompiledPolicy} :
    FirstHolding policies policy ctx tz ↔ ∃ row, FirstMatch t ctx tz row policy := by
  have hrows := loadPolicies_eq_ok_iff.mp hload
  constructor
  · rintro ⟨before, after, rfl, hholds, hbefore⟩
    obtain ⟨rowsBefore, row, rowsAfter, hsplit, hrowsBefore, hcompile⟩ := forall₂_split_right hrows
    have hrow : row ∈ enabledPolicies t := by simp [hsplit]
    obtain ⟨hmem, henabled⟩ := mem_enabledPolicies.mp hrow
    refine ⟨row, hmem, henabled, hcompile, hholds, ?_⟩
    intro other hother henabled hlt compiled hcompiled
    have hotherBefore := (mem_before_iff ht hsplit).mpr ⟨hother, henabled, hlt⟩
    obtain ⟨found, hfound, hsame⟩ := forall₂_mem_left hrowsBefore hotherBefore
    cases hsame.symm.trans hcompiled
    exact hbefore _ hfound
  · rintro ⟨row, hmem, henabled, hcompile, hholds, hfirst⟩
    obtain ⟨rowsBefore, rowsAfter, hsplit⟩ :=
      List.append_of_mem (mem_enabledPolicies.mpr ⟨hmem, henabled⟩)
    rw [hsplit] at hrows
    obtain ⟨before, compiled, after, rfl, hrowsBefore, hcompiled⟩ := forall₂_split_left hrows
    cases hcompile.symm.trans hcompiled
    refine ⟨before, after, rfl, hholds, ?_⟩
    intro other hother
    obtain ⟨otherRow, hotherRow, hotherCompile⟩ := forall₂_mem_right hrowsBefore hother
    obtain ⟨hotherMem, hotherEnabled, hlt⟩ := (mem_before_iff ht hsplit).mp hotherRow
    exact hfirst otherRow hotherMem hotherEnabled hlt other hotherCompile

/-! ### Evaluation -/

/-- The time conditions of the policies that compile are plain. -/
def Tables.PlainTimes (t : Tables) : Prop :=
  ∀ row ∈ t.policies, ∀ policy, compilePolicy row = .ok policy →
    ∀ cond ∈ policy.conditions, cond.PlainTimes

theorem evaluate_permit_iff {platform : Platform} {t : Tables} (ht : t.Consistent)
    (hplain : t.PlainTimes) {ctx : AuthContext} (decision : Decision)
    (hlocal : Representable ctx.now.utc ∧ Representable (localWall ctx.now platform.timezone)) :
    evaluate platform t ctx = .ok decision ∧ decision.accepted = true ↔
      (∀ row ∈ t.policies, row.enabled = true → Returns (compilePolicy row)) ∧
        ∃ row policy, FirstMatch t ctx platform.timezone row policy ∧ policy.action = .permit ∧
          decision = policy.decision := by
  rw [← returns_loadPolicies_iff]
  unfold evaluate
  cases hload : loadPolicies t with
  | error error =>
      refine iff_of_false ?_ fun h => ?_
      · rintro ⟨h, hpermit⟩
        cases h
        cases hpermit
      · obtain ⟨policies, hpolicies⟩ := h.1
        cases hpolicies
  | ok policies =>
      have heval : ∀ policy ∈ policies, policy.Evaluates ctx platform.timezone := by
        intro policy hpolicy
        obtain ⟨row, hrow, hcompile⟩ :=
          forall₂_mem_right (loadPolicies_eq_ok_iff.mp hload) hpolicy
        exact evaluates_of_plainTimes ctx platform.timezone
          (hplain row (mem_enabledPolicies.mp hrow).1 policy hcompile) hlocal
      have hreturns : Returns (Except.ok policies : Except PolicyLoadError _) := ⟨policies, rfl⟩
      simp only [decide_permit_iff heval, hreturns, true_and]
      constructor
      · rintro ⟨policy, hfirst, hpermit⟩
        obtain ⟨row, hrow⟩ := (firstHolding_iff_firstMatch ht hload).mp hfirst
        exact ⟨row, policy, hrow, hpermit⟩
      · rintro ⟨row, policy, hrow, hpermit⟩
        exact ⟨policy, (firstHolding_iff_firstMatch ht hload).mpr ⟨row, hrow⟩, hpermit⟩

end Naco
