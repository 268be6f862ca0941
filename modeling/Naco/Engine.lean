import Naco.Attributes
import Naco.Conditions

/-!
# First-match policy evaluation, default deny

Policies are read from the database on every decision, in the order of their priorities and then
their ids. One policy that does not compile makes every decision a DENY.
-/

namespace Naco

open Py

structure CompiledPolicy where
  id : Nat
  name : String
  priority : Int
  action : PolicyAction
  vlan : Option Nat
  replyAttributes : ReplyAttributes
  conditions : List Condition

/-- Why a row does not compile. -/
inductive PolicyCause where
  | attributes (error : AttributesError)
  | conditions (error : ConditionsError)

/-- `PolicyLoadError`, with the name of the policy. -/
structure PolicyLoadError where
  policy : String
  cause : PolicyCause

def compilePolicy (row : Policy) : Except PolicyLoadError CompiledPolicy :=
  match validateReplyAttributes row.replyAttributes with
  | .error error => .error ⟨row.name, .attributes error⟩
  | .ok replyAttributes =>
      match parseConditions row.conditions with
      | .error error => .error ⟨row.name, .conditions error⟩
      | .ok conditions =>
          .ok { id := row.id, name := row.name, priority := row.priority, action := row.action,
                vlan := row.vlan, replyAttributes, conditions }

/-- `all(condition_matches(c, ctx, tz) for c in conditions)`, which stops at the first that fails. -/
def allMatch (ctx : AuthContext) (tz : Zone) : List Condition → Except Error Bool
  | [] => .ok true
  | cond :: conditions => do
      if ← conditionMatches cond ctx tz then allMatch ctx tz conditions else return false

/-- `_matches`. -/
def CompiledPolicy.matches (policy : CompiledPolicy) (ctx : AuthContext) (tz : Zone) :
    Except Error Bool :=
  allMatch ctx tz policy.conditions

def defaultDenyReason : String := "no policy matched"

/-- The decision of a policy that matches. -/
def CompiledPolicy.decision (policy : CompiledPolicy) : Decision :=
  match policy.action with
  | .deny => deny s!"denied by policy {policy.name}" policy.id policy.name
  | .permit =>
      { action := .permit, policyId := policy.id, policyName := policy.name,
        reason := s!"permitted by policy {policy.name}", vlan := policy.vlan,
        replyAttributes := policy.replyAttributes }

protected def decide (policies : List CompiledPolicy) (ctx : AuthContext) (tz : Zone) :
    Except Error Decision :=
  match policies with
  | [] => .ok (deny defaultDenyReason)
  | policy :: policies => do
      if ← policy.matches ctx tz then return policy.decision
      else Naco.decide policies ctx tz

/-- The results for one policy, condition by condition. -/
structure PolicyTrace where
  policy : CompiledPolicy
  matched : Bool
  conditions : List (String × Bool)

/-- `explain`: what the simulator shows, in evaluation order. -/
def explain (policies : List CompiledPolicy) (ctx : AuthContext) (tz : Zone) :
    Except Error (List PolicyTrace) :=
  policies.mapM fun policy => do
    let results ← policy.conditions.mapM fun cond => do
      return (cond.label, ← conditionMatches cond ctx tz)
    return ⟨policy, results.all (·.2), results⟩

/-- `ORDER BY priority, id`. -/
def Policy.le (a b : Policy) : Prop :=
  a.priority < b.priority ∨ a.priority = b.priority ∧ a.id ≤ b.id

instance : DecidableRel Policy.le :=
  fun _ _ => inferInstanceAs (Decidable (_ ∨ _))

/-- The enabled rows in evaluation order. -/
def enabledPolicies (t : Tables) : List Policy :=
  (t.policies.filter (·.enabled)).insertionSort Policy.le

def loadPolicies (t : Tables) : Except PolicyLoadError (List CompiledPolicy) :=
  (enabledPolicies t).mapM compilePolicy

def evaluate (platform : Platform) (t : Tables) (ctx : AuthContext) : Except Error Decision :=
  match loadPolicies t with
  | .error _ => .ok (deny "policy configuration error")
  | .ok policies => Naco.decide policies ctx platform.timezone

end Naco
