import Naco.Proof.Engine
import Naco.Proof.Routes
import Naco.Proof.Shows

/-!
# Group edits and decisions

A group that a policy names is neither renamed nor deleted. Nothing looks at the name that a group gets,
so its members come under the policies that have that name already. What an edit changes for a user is
found at the first policy that is reached and tells the two names apart.
-/

namespace Naco

open Py

/-! ### Two contexts that differ in the group -/

/-- The test of a condition on the group. -/
def Condition.groupTest : Condition → Option TextTest
  | .text .group test _ => some test
  | _ => none

/-- The conditions before the first that raises. -/
def evaluated (conds : List Condition) (ctx : AuthContext) (tz : Zone) : List Condition :=
  conds.takeWhile fun cond => decide (Returns (conditionMatches cond ctx tz))

/-- The conditions on the group hold for one of two names, and the others hold, as far as they can be
evaluated. -/
structure TellsApart (conds : List Condition) (ctx : AuthContext) (tz : Zone) (old new : Option String) :
    Prop where
  others : ∀ cond ∈ evaluated conds ctx tz, cond.groupTest = none →
    conditionMatches cond ctx tz = .ok true
  groups : ¬ ((∀ cond ∈ evaluated conds ctx tz, ∀ test ∈ cond.groupTest, test.test old = true) ↔
    ∀ cond ∈ evaluated conds ctx tz, ∀ test ∈ cond.groupTest, test.test new = true)

section

variable {ctx : AuthContext} {tz : Zone} {conds : List Condition}

theorem conditionMatches_of_groupTest {cond : Condition} {test : TextTest}
    (h : cond.groupTest = some test) (ctx : AuthContext) :
    conditionMatches cond ctx tz = .ok (test.test ctx.group) := by
  unfold Condition.groupTest at h
  split at h
  · cases h
    rfl
  · cases h

/-- Only a condition on the group looks at it. -/
theorem conditionMatches_withGroup {cond : Condition} (h : cond.groupTest = none) (ctx : AuthContext)
    (group : Option String) :
    conditionMatches cond { ctx with group } tz = conditionMatches cond ctx tz := by
  cases cond with
  | text field test allowed =>
      cases field with
      | group => cases h
      | _ => rfl
  | _ => rfl

theorem evaluated_withGroup (conds : List Condition) (ctx : AuthContext) (tz : Zone)
    (group : Option String) : evaluated conds { ctx with group } tz = evaluated conds ctx tz := by
  unfold evaluated
  congr 1
  funext cond
  rw [decide_eq_decide]
  cases htest : cond.groupTest with
  | none => rw [conditionMatches_withGroup htest]
  | some test =>
      rw [conditionMatches_of_groupTest htest, conditionMatches_of_groupTest htest]
      exact iff_of_true ⟨_, rfl⟩ ⟨_, rfl⟩

theorem evaluated_cons_of_returns {cond : Condition}
    (h : Returns (conditionMatches cond ctx tz)) :
    evaluated (cond :: conds) ctx tz = cond :: evaluated conds ctx tz :=
  List.takeWhile_cons_of_pos (decide_eq_true h)

theorem evaluated_cons_of_raises {cond : Condition} {error : Error}
    (h : conditionMatches cond ctx tz = .error error) : evaluated (cond :: conds) ctx tz = [] := by
  refine List.takeWhile_cons_of_neg ?_
  rw [decide_eq_true_eq, h]
  rintro ⟨result, hresult⟩
  cases hresult

/-- A policy is passed over when one of the conditions that are evaluated fails. -/
theorem allMatch_eq_false_iff : allMatch ctx tz conds = .ok false ↔
    ¬ ∀ cond ∈ evaluated conds ctx tz, conditionMatches cond ctx tz = .ok true := by
  induction conds with
  | nil => simp [allMatch, evaluated]
  | cons cond conds ih =>
      cases hcond : conditionMatches cond ctx tz with
      | error error =>
          rw [evaluated_cons_of_raises hcond, allMatch, hcond]
          simp [bind, Except.bind]
      | ok result =>
          rw [evaluated_cons_of_returns ⟨result, hcond⟩, List.forall_mem_cons, hcond, allMatch, hcond]
          cases result with
          | false => simp [bind, Except.bind, pure, Except.pure]
          | true =>
              rw [and_iff_right rfl, ← ih]
              rfl

/-- Conditions that hold as far as they can be evaluated give a match or the first error. -/
theorem allMatch_withGroup_of_holds {group : Option String}
    (h : ∀ cond ∈ evaluated conds ctx tz, conditionMatches cond ctx tz = .ok true)
    (h' : ∀ cond ∈ evaluated conds ctx tz,
      conditionMatches cond { ctx with group } tz = .ok true) :
    allMatch { ctx with group } tz conds = allMatch ctx tz conds := by
  induction conds with
  | nil => rfl
  | cons cond conds ih =>
      cases hcond : conditionMatches cond ctx tz with
      | error error =>
          have htest : cond.groupTest = none := by
            by_contra hsome
            obtain ⟨test, htest⟩ := Option.ne_none_iff_exists'.mp hsome
            rw [conditionMatches_of_groupTest htest] at hcond
            cases hcond
          rw [allMatch, allMatch, conditionMatches_withGroup htest, hcond]
          rfl
      | ok result =>
          rw [evaluated_cons_of_returns ⟨result, hcond⟩, List.forall_mem_cons] at h h'
          rw [allMatch, allMatch, h.1, h'.1]
          exact ih h.2 h'.2

/-- The conditions hold when those on the group and the others do. -/
theorem forall_evaluated_iff : (∀ cond ∈ evaluated conds ctx tz, conditionMatches cond ctx tz = .ok true) ↔
    (∀ cond ∈ evaluated conds ctx tz, cond.groupTest = none → conditionMatches cond ctx tz = .ok true) ∧
      ∀ cond ∈ evaluated conds ctx tz, ∀ test ∈ cond.groupTest, test.test ctx.group = true := by
  constructor
  · intro h
    refine ⟨fun cond hcond _ => h cond hcond, fun cond hcond test htest => ?_⟩
    have hmatch := h cond hcond
    rw [conditionMatches_of_groupTest htest] at hmatch
    exact Except.ok.inj hmatch
  · rintro ⟨hothers, hgroups⟩ cond hcond
    cases htest : cond.groupTest with
    | none => exact hothers cond hcond htest
    | some test => rw [conditionMatches_of_groupTest htest, hgroups cond hcond test htest]

theorem forall_evaluated_withGroup_iff (group : Option String) :
    (∀ cond ∈ evaluated conds ctx tz, conditionMatches cond { ctx with group } tz = .ok true) ↔
      (∀ cond ∈ evaluated conds ctx tz, cond.groupTest = none →
        conditionMatches cond ctx tz = .ok true) ∧
        ∀ cond ∈ evaluated conds ctx tz, ∀ test ∈ cond.groupTest, test.test group = true := by
  have hiff := @forall_evaluated_iff { ctx with group } tz conds
  rw [evaluated_withGroup] at hiff
  rw [hiff]
  refine and_congr_left' (forall₂_congr fun cond _ => forall_congr' fun htest => ?_)
  rw [conditionMatches_withGroup htest]

theorem allMatch_withGroup_eq_false_iff (group : Option String) :
    allMatch { ctx with group } tz conds = .ok false ↔
      ¬ ∀ cond ∈ evaluated conds ctx tz, conditionMatches cond { ctx with group } tz = .ok true := by
  rw [allMatch_eq_false_iff, evaluated_withGroup]

/-- What does not tell the groups apart has one result. -/
theorem allMatch_withGroup_of_not_tellsApart {group : Option String}
    (h : ¬ TellsApart conds ctx tz ctx.group group) :
    allMatch { ctx with group } tz conds = allMatch ctx tz conds := by
  by_cases hothers : ∀ cond ∈ evaluated conds ctx tz, cond.groupTest = none →
      conditionMatches cond ctx tz = .ok true
  · have hsame := not_not.mp fun hgroups => h ⟨hothers, hgroups⟩
    by_cases hholds : ∀ cond ∈ evaluated conds ctx tz, ∀ test ∈ cond.groupTest,
        test.test ctx.group = true
    · exact allMatch_withGroup_of_holds (forall_evaluated_iff.mpr ⟨hothers, hholds⟩)
        ((forall_evaluated_withGroup_iff group).mpr ⟨hothers, hsame.mp hholds⟩)
    · have hfalse : allMatch ctx tz conds = .ok false :=
        allMatch_eq_false_iff.mpr fun hall => hholds (forall_evaluated_iff.mp hall).2
      rw [hfalse]
      exact (allMatch_withGroup_eq_false_iff group).mpr fun hall =>
        hholds (hsame.mpr ((forall_evaluated_withGroup_iff group).mp hall).2)
  · have hfalse : allMatch ctx tz conds = .ok false :=
      allMatch_eq_false_iff.mpr fun hall => hothers (forall_evaluated_iff.mp hall).1
    rw [hfalse]
    exact (allMatch_withGroup_eq_false_iff group).mpr fun hall =>
      hothers ((forall_evaluated_withGroup_iff group).mp hall).1

/-- What tells the groups apart is passed over for one of them. -/
theorem allMatch_withGroup_of_tellsApart {group : Option String}
    (h : TellsApart conds ctx tz ctx.group group) :
    allMatch { ctx with group } tz conds = .ok false ↔ ¬ allMatch ctx tz conds = .ok false := by
  rw [allMatch_withGroup_eq_false_iff, allMatch_eq_false_iff, forall_evaluated_withGroup_iff,
    forall_evaluated_iff, and_iff_right h.others, and_iff_right h.others]
  have hgroups := h.groups
  tauto

/-- All policies before this one are passed over. -/
def Considered (policies : List CompiledPolicy) (ctx : AuthContext) (tz : Zone) (policy : CompiledPolicy) :
    Prop :=
  ∃ before after, policies = before ++ policy :: after ∧
    ∀ other ∈ before, other.matches ctx tz = .ok false

theorem considered_cons_iff {head policy : CompiledPolicy} {policies : List CompiledPolicy} :
    Considered (head :: policies) ctx tz policy ↔
      policy = head ∨ head.matches ctx tz = .ok false ∧ Considered policies ctx tz policy := by
  constructor
  · rintro ⟨before, after, hsplit, hbefore⟩
    cases before with
    | nil => exact .inl (List.cons.inj hsplit).1.symm
    | cons first before =>
        obtain ⟨rfl, hrest⟩ := List.cons.inj hsplit
        obtain ⟨hfirst, hothers⟩ := List.forall_mem_cons.mp hbefore
        exact .inr ⟨hfirst, before, after, hrest, hothers⟩
  · rintro (rfl | ⟨hhead, before, after, rfl, hbefore⟩)
    · exact ⟨[], policies, rfl, nofun⟩
    · exact ⟨head :: before, after, rfl, List.forall_mem_cons.mpr ⟨hhead, hbefore⟩⟩

theorem policyId_decision (policy : CompiledPolicy) : policy.decision.policyId = some policy.id := by
  unfold CompiledPolicy.decision
  cases policy.action <;> rfl

/-- A decision names the policy it comes from. -/
theorem policyId_of_decide {policies : List CompiledPolicy} {decision : Decision} {id : Nat}
    (h : Naco.decide policies ctx tz = .ok decision) (hid : decision.policyId = some id) :
    id ∈ policies.map (·.id) := by
  induction policies with
  | nil =>
      cases h
      cases hid
  | cons head policies ih =>
      rw [Naco.decide, bind_eq_ok_iff] at h
      obtain ⟨result, -, h⟩ := h
      cases result with
      | true =>
          cases h
          rw [policyId_decision] at hid
          rw [← Option.some.inj hid]
          exact List.mem_cons_self
      | false => exact List.mem_cons_of_mem _ (ih h)

theorem decide_cons_of_false {head : CompiledPolicy} {policies : List CompiledPolicy}
    (h : head.matches ctx tz = .ok false) :
    Naco.decide (head :: policies) ctx tz = Naco.decide policies ctx tz := by
  rw [Naco.decide, h]
  rfl

theorem decide_cons_of_true {head : CompiledPolicy} {policies : List CompiledPolicy}
    (h : head.matches ctx tz = .ok true) :
    Naco.decide (head :: policies) ctx tz = .ok head.decision := by
  rw [Naco.decide, h]
  rfl

/-- The policy that is first told apart gives the decision for one group only. -/
theorem decide_withGroup_ne {head : CompiledPolicy} {policies : List CompiledPolicy}
    (hids : head.id ∉ policies.map (·.id)) {group : Option String}
    (happart : TellsApart head.conditions ctx tz ctx.group group) {decision : Decision}
    (h : Naco.decide (head :: policies) ctx tz = .ok decision) :
    Naco.decide (head :: policies) { ctx with group } tz ≠ .ok decision := by
  have hone := allMatch_withGroup_of_tellsApart happart
  have hother {ctx : AuthContext} {decision : Decision}
      (hdecide : Naco.decide policies ctx tz = .ok decision) : decision ≠ head.decision := by
    rintro rfl
    exact hids (policyId_of_decide hdecide (policyId_decision head))
  intro h'
  cases hmatch : head.matches ctx tz with
  | error error =>
      rw [Naco.decide, hmatch] at h
      cases h
  | ok result =>
      cases result with
      | true =>
          have hpassed : head.matches { ctx with group } tz = .ok false := by
            refine hone.mpr fun hfalse => ?_
            cases hmatch.symm.trans hfalse
          rw [decide_cons_of_true hmatch] at h
          rw [decide_cons_of_false hpassed] at h'
          exact hother h' (Except.ok.inj h).symm
      | false =>
          have hnot : head.matches { ctx with group } tz ≠ .ok false := fun hpassed =>
            hone.mp hpassed hmatch
          rw [decide_cons_of_false hmatch] at h
          cases hmatch' : head.matches { ctx with group } tz with
          | error error =>
              rw [Naco.decide, hmatch'] at h'
              cases h'
          | ok result =>
              cases result with
              | false => exact hnot hmatch'
              | true =>
                  rw [decide_cons_of_true hmatch'] at h'
                  exact hother h (Except.ok.inj h').symm

/-- Another group gets the decision exactly when no policy that is reached tells the two apart. -/
theorem decide_withGroup_eq_iff {policies : List CompiledPolicy} (hids : (policies.map (·.id)).Nodup)
    {group : Option String} {decision : Decision} (h : Naco.decide policies ctx tz = .ok decision) :
    Naco.decide policies { ctx with group } tz = .ok decision ↔
      ∀ policy, Considered policies ctx tz policy →
        ¬ TellsApart policy.conditions ctx tz ctx.group group := by
  induction policies with
  | nil =>
      refine iff_of_true h ?_
      rintro policy ⟨before, after, hsplit, -⟩
      simp at hsplit
  | cons head policies ih =>
      obtain ⟨hhead, hrest⟩ := List.nodup_cons.mp hids
      by_cases happart : TellsApart head.conditions ctx tz ctx.group group
      · refine iff_of_false (decide_withGroup_ne hhead happart h) fun hall => ?_
        exact hall head (considered_cons_iff.mpr (.inl rfl)) happart
      · have hsame : head.matches { ctx with group } tz = head.matches ctx tz :=
          allMatch_withGroup_of_not_tellsApart happart
        cases hmatch : head.matches ctx tz with
        | error error =>
            rw [Naco.decide, hmatch] at h
            cases h
        | ok result =>
            rw [hmatch] at hsame
            cases result with
            | true =>
                rw [decide_cons_of_true hmatch] at h
                rw [decide_cons_of_true hsame]
                refine iff_of_true h fun policy hconsidered => ?_
                rcases considered_cons_iff.mp hconsidered with rfl | ⟨hfalse, -⟩
                · exact happart
                · cases hmatch.symm.trans hfalse
            | false =>
                rw [decide_cons_of_false hmatch] at h
                rw [decide_cons_of_false hsame, ih hrest h]
                constructor
                · intro hall policy hconsidered
                  rcases considered_cons_iff.mp hconsidered with rfl | ⟨-, hconsidered⟩
                  · exact happart
                  · exact hall policy hconsidered
                · intro hall policy hconsidered
                  exact hall policy (considered_cons_iff.mpr (.inr ⟨hmatch, hconsidered⟩))

end

/-! ### Edits of a group -/

/-- A request that changes or deletes a group. -/
inductive GroupEdit where
  | update (id : Nat) (body : GroupUpdate)
  | delete (id : Nat)

def GroupEdit.id : GroupEdit → Nat
  | .update id _ | .delete id => id

def GroupEdit.run (str : StrOf) (role : AdminRole) (edit : GroupEdit) (db : Database) :
    Except RouteError Outcome :=
  match edit with
  | .update id body => updateGroup str role id body db
  | .delete id => deleteGroup str role id db

/-- The group name that a member has after the edit. -/
def GroupEdit.newName : GroupEdit → Group → Option String
  | .update _ body, group => some (body.apply group).name
  | .delete _, _ => none

/-- The decision on a request of this user. -/
def decisionFor (platform : Platform) (t : Tables) (user : User) (request : Subject) :
    Except Error Decision :=
  match subjectContext { request with user := some (UserInfo.ofRow user (groupOf t user)) } with
  | .error decision => .ok decision
  | .ok ctx => evaluate platform t ctx

/-- What an edit leaves of a user and of the policies. -/
structure Edited (edit : GroupEdit) (t t' : Tables) (user user' : User) : Prop where
  policies : t'.policies = t.policies
  enabled : user'.enabled = user.enabled
  member : ∀ group ∈ t.groups, group.id = edit.id → user.groupId = some edit.id →
    (groupOf t' user').map (·.name) = edit.newName group
  others : user.groupId ≠ some edit.id → groupOf t' user' = groupOf t user

theorem edited_of_update {str : StrOf} {role : AdminRole} {id : Nat} {body : GroupUpdate}
    {db : Database} {outcome : Outcome} (hrun : updateGroup str role id body db = .ok outcome)
    {user user' : User} (huser : user ∈ db.val.users) (huser' : user' ∈ outcome.db.val.users)
    (hid : user'.id = user.id) : Edited (.update id body) db.val outcome.db.val user user' := by
  simp only [updateGroup, bind_eq_ok_iff, getOr404_eq_ok_iff] at hrun
  obtain ⟨_, -, group, hfind, _, -, _, -, hcommit⟩ := hrun
  obtain ⟨hgroup, rfl⟩ := (Rows.find?_eq_some_iff db.property.groupIds).mp hfind
  split at hcommit
  · cases hcommit
  obtain ⟨hconsistent, rfl⟩ := commitOrConflict_eq_ok_iff.mp hcommit
  obtain rfl : user' = user := Rows.eq_of_key db.property.userIds huser' huser hid
  have hrow : ∃ row ∈ db.val.groups, row.id = (body.apply group).id := ⟨group, hgroup, rfl⟩
  have hafter : groupOf (db.val.withGroup (body.apply group)) user' =
      if user'.groupId = some group.id then some (body.apply group) else groupOf db.val user' :=
    groupOf_withGroup hrow user'
  refine ⟨rfl, rfl, ?_, ?_⟩
  · intro found hfound hsame hmember
    obtain rfl := Rows.eq_of_key db.property.groupIds hfound hgroup hsame
    exact congrArg (Option.map (·.name)) (hafter.trans (if_pos hmember))
  · intro hother
    exact hafter.trans (if_neg hother)

/-- Nobody else loses a group that is deleted. -/
theorem find?_deleteRow {α : Type} {rows : List α} {key : α → Nat} {id other : Nat} (h : other ≠ id) :
    (deleteRow rows key id).find? (fun row => key row = other) =
      rows.find? fun row => key row = other := by
  rw [deleteRow, List.find?_filter]
  congr 1
  funext row
  by_cases hkey : key row = other
  · simp [hkey, h]
  · simp [hkey]

theorem edited_of_delete {str : StrOf} {role : AdminRole} {id : Nat} {db : Database} {outcome : Outcome}
    (hrun : deleteGroup str role id db = .ok outcome) {user user' : User} (huser : user ∈ db.val.users)
    (huser' : user' ∈ outcome.db.val.users) (hid : user'.id = user.id) :
    Edited (.delete id) db.val outcome.db.val user user' := by
  simp only [deleteGroup, bind_eq_ok_iff, getOr404_eq_ok_iff] at hrun
  obtain ⟨_, -, group, hfind, _, -, hcommit⟩ := hrun
  obtain ⟨hconsistent, rfl⟩ := commitOrRaise_eq_ok_iff.mp hcommit
  obtain ⟨old, hold, rfl⟩ := List.mem_map.mp huser'
  have hkeeps : (old.leaveGroup id).id = old.id ∧ (old.leaveGroup id).enabled = old.enabled := by
    rw [User.leaveGroup]
    split <;> exact ⟨rfl, rfl⟩
  obtain rfl : old = user := Rows.eq_of_key db.property.userIds hold huser (hkeeps.1 ▸ hid)
  refine ⟨rfl, hkeeps.2, ?_, ?_⟩
  · intro found hfound hsame hmember
    have hleft : old.leaveGroup id = { old with groupId := none } := if_pos hmember
    rw [hleft]
    rfl
  · intro hother
    have hstays : old.leaveGroup id = old := if_neg hother
    rw [hstays]
    unfold groupOf
    cases hgroup : old.groupId with
    | none => rfl
    | some other => exact find?_deleteRow fun h => hother (hgroup.trans (congrArg some h))

theorem edited_of_run {str : StrOf} {role : AdminRole} {edit : GroupEdit} {db : Database}
    {outcome : Outcome} (hrun : edit.run str role db = .ok outcome) {user user' : User}
    (huser : user ∈ db.val.users) (huser' : user' ∈ outcome.db.val.users) (hid : user'.id = user.id) :
    Edited edit db.val outcome.db.val user user' := by
  cases edit with
  | update id body => exact edited_of_update hrun huser huser' hid
  | delete id => exact edited_of_delete hrun huser huser' hid

/-- Of a user the context has the group only, and the hard rules look at whether it is enabled. -/
theorem subjectContext_withUser (request : Subject) {info info' : UserInfo}
    (henabled : info'.enabled = info.enabled) :
    subjectContext { request with user := some info' } =
      (subjectContext { request with user := some info }).map fun ctx =>
        { ctx with group := info'.groupName } := by
  have hrule : userRule { request with user := some info' } =
      userRule { request with user := some info } := by
    simp only [userRule, henabled]
  have hdevice : deviceRule { request with user := some info' } =
      deviceRule { request with user := some info } := rfl
  rw [subjectContext, subjectContext, hrule, hdevice]
  cases (userRule { request with user := some info } <|> deviceRule { request with user := some info })
  <;> rfl

theorem nodup_loadPolicies {t : Tables} (ht : t.Consistent) {policies : List CompiledPolicy}
    (hload : loadPolicies t = .ok policies) : (policies.map (·.id)).Nodup := by
  have hrows := loadPolicies_eq_ok_iff.mp hload
  have hids : policies.map (·.id) = (enabledPolicies t).map (·.id) := by
    clear hload
    generalize enabledPolicies t = rows at hrows
    induction hrows with
    | nil => rfl
    | cons hhead _ ih =>
        rw [List.map_cons, List.map_cons, ih]
        congr 1
        unfold compilePolicy at hhead
        split at hhead
        · cases hhead
        · split at hhead
          · cases hhead
          · cases hhead
            rfl
  rw [hids]
  exact nodup_enabledPolicies ht

/-- An accepted edit keeps the decision on a request of a user exactly when the user is not in the group,
or no policy that is reached tells the old name from the new one. -/
theorem group_edit_keeps_decision_iff {str : StrOf} {role : AdminRole} {edit : GroupEdit} {db : Database}
    {outcome : Outcome} (hrun : edit.run str role db = .ok outcome) {user user' : User}
    (huser : user ∈ db.val.users) (huser' : user' ∈ outcome.db.val.users) (hid : user'.id = user.id)
    (platform : Platform) (request : Subject) {decision : Decision}
    (hdecision : decisionFor platform db.val user request = .ok decision) :
    decisionFor platform outcome.db.val user' request = .ok decision ↔
      ∀ group ∈ db.val.groups, group.id = edit.id → user.groupId = some edit.id →
        ∀ ctx policies,
          subjectContext { request with user := some (UserInfo.ofRow user (groupOf db.val user)) } =
            .ok ctx →
          loadPolicies db.val = .ok policies →
            ∀ policy, Considered policies ctx platform.timezone policy →
              ¬ TellsApart policy.conditions ctx platform.timezone ctx.group (edit.newName group) := by
  have hedited := edited_of_run hrun huser huser' hid
  have hcontext : subjectContext
      { request with user := some (UserInfo.ofRow user' (groupOf outcome.db.val user')) } =
        (subjectContext { request with user := some (UserInfo.ofRow user (groupOf db.val user)) }).map
          fun ctx => { ctx with group := (groupOf outcome.db.val user').map (·.name) } :=
    subjectContext_withUser request hedited.enabled
  have hload : loadPolicies outcome.db.val = loadPolicies db.val := by
    rw [loadPolicies, loadPolicies, enabledPolicies, enabledPolicies, hedited.policies]
  rw [decisionFor, hcontext]
  rw [decisionFor] at hdecision
  cases hctx : subjectContext { request with user := some (UserInfo.ofRow user (groupOf db.val user)) } with
  | error refusal =>
      rw [hctx] at hdecision
      refine iff_of_true hdecision ?_
      intro group _ _ _ ctx policies hnone
      cases hnone
  | ok ctx =>
      rw [hctx] at hdecision
      change evaluate platform db.val ctx = .ok decision at hdecision
      change evaluate platform outcome.db.val
        { ctx with group := (groupOf outcome.db.val user').map (·.name) } = .ok decision ↔ _
      rw [evaluate] at hdecision ⊢
      rw [hload]
      by_cases hmember : user.groupId = some edit.id
      · obtain ⟨group, hgroup, hgid⟩ := db.property.userGroups user huser edit.id hmember
        rw [hedited.member group hgroup hgid hmember]
        cases hpolicies : loadPolicies db.val with
        | error error =>
            rw [hpolicies] at hdecision
            refine iff_of_true hdecision ?_
            intro _ _ _ _ _ policies _ hnone
            cases hnone
        | ok policies =>
            rw [hpolicies] at hdecision
            refine (decide_withGroup_eq_iff (nodup_loadPolicies db.property hpolicies) hdecision).trans ?_
            constructor
            · intro hall found hfound hsame _ ctx' policies' hctx' hpolicies'
              obtain rfl := Rows.eq_of_key db.property.groupIds hfound hgroup (hsame.trans hgid.symm)
              cases hctx'
              cases hpolicies'
              exact hall
            · intro hall
              exact hall group hgroup hgid hmember ctx policies rfl rfl
      · have hgroup : ctx.group = (groupOf db.val user).map (·.name) := by
          rw [(subjectContext_eq_ok_iff.mp hctx).2.2]
          rfl
        have hsame : { ctx with group := (groupOf outcome.db.val user').map (·.name) } = ctx := by
          rw [hedited.others hmember, ← hgroup]
        rw [hsame]
        refine iff_of_true hdecision ?_
        intro _ _ _ hin
        exact absurd hin hmember

def alice : User where
  id := 10
  username := "alice"
  groupId := some 1

/-- A user of the group `staff`, and a policy with these conditions. -/
def staffTables (conditions : List Json) : Tables where
  groups := [{ id := 1, name := "staff" }]
  users := [alice]
  policies := [
    { id := 1, name := "office", conditions := .arr conditions, action := .permit, vlan := some 20 }]

def staffDatabase (conditions : List Json) : Database :=
  ⟨staffTables conditions, by simp [Tables.consistent_iff, staffTables, alice]⟩

def renameStaff : GroupEdit :=
  .update 1 { name := some (some "contractors") }

def wiredRequest : Subject where
  method := .peap
  username := "alice"
  user := none
  mac := none
  device := none
  isGuest := false
  nasName := "sw1"
  nasIp := "10.0.0.1"
  ssid := none
  now := ⟨63850334400000000, 0⟩

def wiredPlatform : Platform where
  timezone := Zone.utc
  oui _ := none
  sha256 _ := ""

/-- The policy for everybody. -/
def everybody : Json :=
  .obj [("type", .str "always")]

def onlyContractors : Json :=
  .obj [("type", .str "group"), ("op", .str "in"), ("value", .arr [.str "contractors"])]

def officeDecision : Decision where
  action := .permit
  policyId := some 1
  policyName := "office"
  reason := "permitted by policy office"
  vlan := some 20

/-- The new name of the group makes no difference to the policy for everybody. -/
theorem group_edit_keeps_decision_everybody :
    ∃ outcome, renameStaff.run (fun _ => "") .superuser (staffDatabase [everybody]) = .ok outcome ∧
      decisionFor wiredPlatform outcome.db.val alice wiredRequest = .ok officeDecision := by
  obtain ⟨outcome, hrun, halice⟩ : ∃ outcome,
      renameStaff.run (fun _ => "") .superuser (staffDatabase [everybody]) = .ok outcome ∧
        alice ∈ outcome.db.val.users := by
    decide +kernel
  have hload : loadPolicies (staffDatabase [everybody]).val = .ok [
      { id := 1, name := "office", priority := 100, action := .permit, vlan := some 20,
        replyAttributes := [], conditions := [.always] }] := rfl
  refine ⟨outcome, hrun, ?_⟩
  refine (group_edit_keeps_decision_iff hrun List.mem_cons_self halice rfl wiredPlatform wiredRequest
    (by decide +kernel)).mpr ?_
  intro group _ _ _ ctx policies _ hpolicies policy hconsidered happart
  cases hload.symm.trans hpolicies
  rcases considered_cons_iff.mp hconsidered with rfl | ⟨-, before, after, hsplit, -⟩
  · refine happart.groups (iff_of_true ?_ ?_) <;>
    · intro cond hcond test htest
      rw [List.mem_singleton.mp hcond] at htest
      cases htest
  · simp at hsplit

/-- A group that gets the name another policy lists brings its members the VLAN of that policy. -/
theorem rename_changes_decision :
    ¬ ∀ (str : StrOf) (role : AdminRole) (edit : GroupEdit) (db : Database) (outcome : Outcome),
      edit.run str role db = .ok outcome →
        ∀ user ∈ db.val.users, ∀ user' ∈ outcome.db.val.users, user'.id = user.id →
          ∀ platform request decision, decisionFor platform db.val user request = .ok decision →
            decisionFor platform outcome.db.val user' request = .ok decision := by
  intro hall
  obtain ⟨outcome, hrun, halice, hafter⟩ : ∃ outcome,
      renameStaff.run (fun _ => "") .superuser (staffDatabase [onlyContractors]) = .ok outcome ∧
        alice ∈ outcome.db.val.users ∧
          decisionFor wiredPlatform outcome.db.val alice wiredRequest = .ok officeDecision := by
    decide +kernel
  have hbefore : decisionFor wiredPlatform (staffDatabase [onlyContractors]).val alice wiredRequest =
      .ok (deny "no policy matched") := by
    decide +kernel
  have hkept := hall _ _ _ _ outcome hrun alice List.mem_cons_self alice halice rfl wiredPlatform
    wiredRequest _ hbefore
  cases hafter.symm.trans hkept

end Naco
