import Naco.Api

/-!
# Access policies and their order

A policy is stored as it validated: the conditions dumped from their models, the reply attributes with
the spelling of the dictionary.
-/

namespace Naco

open Py

/-- `model_dump()` of a text condition's value. -/
def TextTest.dump : TextTest → Json
  | .equals v | .notEquals v | .matching v => .str v.val
  | .isIn vs | .notIn vs => .arr (vs.val.map fun v => .str v.val)

def MacTest.dump : MacTest → String × Json
  | .equals value => ("equals", .str value.val)
  | .isIn values => ("in", .arr (values.map fun v => .str v.val))
  | .matching pattern => ("matches", .str pattern)

/-- `model_dump()`: the fields that a class inherits come first. -/
def Condition.dump : Condition → Json
  | .always => .obj [("type", .str "always")]
  | .text field test _ => .obj [
      ("op", .str test.op.name), ("value", test.dump), ("type", .str field.cond.type)]
  | .authMethod value _ => .obj [
      ("type", .str "auth_method"), ("op", .str "in"),
      ("value", .arr (value.map fun v => .str v.name))]
  | .deviceStatus value _ => .obj [
      ("type", .str "device_status"), ("op", .str "in"),
      ("value", .arr (value.map fun v => .str v.name))]
  | .mac test => .obj [("type", .str "mac"), ("op", .str test.dump.1), ("value", test.dump.2)]
  | .time cond => .obj [
      ("type", .str "time"), ("op", .str "between"), ("start", .str cond.start.val),
      ("end", .str cond.stop.val), ("days", .arr (cond.days.map fun day => .str day.name))]

/-- `dump_conditions`. -/
def dumpConditions (conditions : List Condition) : Json :=
  .arr (conditions.map Condition.dump)

def ReplyValue.toJson : ReplyValue → Json
  | .int value => .int value
  | .text value => .str value

def ReplyEntry.toJson : ReplyEntry → Json
  | .one value => value.toJson
  | .many values => .arr (values.map ReplyValue.toJson)

/-- Reply attributes as they are stored. -/
def dumpAttributes (attributes : ReplyAttributes) : Json :=
  .obj (attributes.map fun entry => (entry.1, entry.2.toJson))

/-- `PolicyIn`, as it validated. -/
structure PolicyIn where
  name : String
  description : String := ""
  priority : Int := 100
  enabled : Bool := true
  conditions : List Condition := []
  action : PolicyAction
  vlan : Option Nat := none
  replyAttributes : ReplyAttributes := []

/-- `PolicyUpdate`, as it validated; a null stands for a field that is left out, but for `vlan`. -/
structure PolicyUpdate where
  name : Option String := none
  description : Option String := none
  priority : Option Int := none
  enabled : Option Bool := none
  conditions : Option (List Condition) := none
  action : Option PolicyAction := none
  vlan : Option (Option Nat) := none
  replyAttributes : Option ReplyAttributes := none

/-! ### Validation -/

/-- What is wrong with the body of a request. -/
inductive PolicyProblem where
  | textLength (field : String)
  | outOfRange (field : String)
  | conditions (error : ConditionsError)
  | attributes (error : AttributesError)
  /-- "a DENY policy cannot assign a VLAN or attributes" -/
  | denyWithReply

/-- The body of a request that creates a policy: its conditions are objects, and its reply attributes
are one. -/
structure PolicyBody where
  name : String
  description : String := ""
  priority : Int := 100
  enabled : Bool := true
  conditions : List (List (String × Json)) := []
  action : PolicyAction
  vlan : Option Int := none
  replyAttributes : List (String × Json) := []

/-- The body of a request that changes a policy. -/
structure PolicyChanges where
  name : Option String := none
  description : Option String := none
  priority : Option Int := none
  enabled : Option Bool := none
  conditions : Option (List (List (String × Json))) := none
  action : Option PolicyAction := none
  vlan : Option (Option Int) := none
  replyAttributes : Option (List (String × Json)) := none

def checkLength (field : String) (least most : Nat) (s : String) : Except PolicyProblem String :=
  if least ≤ s.toList.length ∧ s.toList.length ≤ most then .ok s else .error (.textLength field)

def checkRange (field : String) (least most value : Int) : Except PolicyProblem Int :=
  if least ≤ value ∧ value ≤ most then .ok value else .error (.outOfRange field)

/-- `_conditions`, before the dump. -/
def checkConditions (raw : List (List (String × Json))) : Except PolicyProblem (List Condition) :=
  (parseConditions (.arr (raw.map .obj))).mapError .conditions

/-- `_attributes`. -/
def checkAttributes (dictionary : RadiusDictionary) (raw : List (String × Json)) :
    Except PolicyProblem ReplyAttributes :=
  (validateReplyAttributes (.obj raw) dictionary).mapError .attributes

def PolicyBody.validate (dictionary : RadiusDictionary) (body : PolicyBody) :
    Except PolicyProblem PolicyIn := do
  let name ← checkLength "name" 1 128 body.name
  let description ← checkLength "description" 0 512 body.description
  let priority ← checkRange "priority" 1 9999 body.priority
  let conditions ← checkConditions body.conditions
  let vlan ← body.vlan.mapM (checkRange "vlan" 1 4094)
  let replyAttributes ← checkAttributes dictionary body.replyAttributes
  if body.action = .deny ∧ (vlan.isSome ∨ replyAttributes ≠ []) then
    .error .denyWithReply
  else
    return { name, description, priority, enabled := body.enabled, conditions, action := body.action,
             vlan := vlan.map Int.toNat, replyAttributes }

def PolicyChanges.validate (dictionary : RadiusDictionary) (body : PolicyChanges) :
    Except PolicyProblem PolicyUpdate := do
  let name ← body.name.mapM (checkLength "name" 1 128)
  let description ← body.description.mapM (checkLength "description" 0 512)
  let priority ← body.priority.mapM (checkRange "priority" 1 9999)
  let conditions ← body.conditions.mapM checkConditions
  let vlan ← body.vlan.mapM fun vlan => vlan.mapM (checkRange "vlan" 1 4094)
  let replyAttributes ← body.replyAttributes.mapM (checkAttributes dictionary)
  return { name, description, priority, enabled := body.enabled, conditions, action := body.action,
           vlan := vlan.map fun vlan => vlan.map Int.toNat, replyAttributes }

/-! ### The routes -/

def PolicyIn.row (body : PolicyIn) (id : Nat) : Policy where
  id
  name := body.name
  description := body.description
  priority := body.priority
  enabled := body.enabled
  conditions := dumpConditions body.conditions
  action := body.action
  vlan := body.vlan
  replyAttributes := dumpAttributes body.replyAttributes

def createPolicy (role : AdminRole) (body : PolicyIn) (db : Database) :
    Except RouteError Outcome := do
  require role .superuser
  let t := db.val
  commitOrConflict s!"a policy named {body.name} already exists"
    { t with policies := t.policies ++ [body.row (nextId (t.policies.map (·.id)))] }
    [s!"policy {body.name} created"]

def PolicyUpdate.apply (body : PolicyUpdate) (policy : Policy) : Policy :=
  { policy with
    name := body.name.getD policy.name
    description := body.description.getD policy.description
    priority := body.priority.getD policy.priority
    enabled := body.enabled.getD policy.enabled
    conditions := (body.conditions.map dumpConditions).getD policy.conditions
    action := body.action.getD policy.action
    vlan := body.vlan.getD policy.vlan
    replyAttributes := (body.replyAttributes.map dumpAttributes).getD policy.replyAttributes }

def updatePolicy (role : AdminRole) (id : Nat) (body : PolicyUpdate) (db : Database) :
    Except RouteError Outcome := do
  require role .superuser
  let t := db.val
  let policy ← getOr404 t.policies (·.id) id "policy"
  let changed := body.apply policy
  if changed.action = .deny ∧ (changed.vlan.isSome ∨ !changed.replyAttributes.isFalsy) then
    apiError 422 "a DENY policy cannot assign a VLAN or attributes"
  else
    commitOrConflict "a policy with that name already exists"
      { t with policies := replaceRow t.policies (·.id) changed }
      [s!"policy {changed.name} changed"]

def deletePolicy (role : AdminRole) (id : Nat) (db : Database) : Except RouteError Outcome := do
  require role .superuser
  let t := db.val
  let policy ← getOr404 t.policies (·.id) id "policy"
  commitOrRaise { t with policies := deleteRow t.policies (·.id) id }
    [s!"policy {policy.name} deleted"]

/-- `Reorder`: the body of a request to reorder. -/
structure Reorder where
  ids : List Int
  nonempty : 1 ≤ ids.length
  bounded : ids.length ≤ 9999

/-- `reorder`: the ids give the new order, in steps of ten. -/
def reorder (role : AdminRole) (ids : List Int) (db : Database) : Except RouteError Outcome := do
  require role .superuser
  let t := db.val
  if ids.isPerm (t.policies.map fun policy => (policy.id : Int)) ∧ ids.Nodup then
    commitOrRaise
      { t with
        policies := t.policies.map fun policy =>
          { policy with priority := (ids.idxOf (policy.id : Int) + 1) * 10 } }
      ["policy order changed"]
  else
    apiError 422 "send every policy id exactly once, in the new order"

/-- A call of the policy API that changes the table. -/
inductive PolicyCall where
  | create (body : PolicyBody)
  | update (id : Nat) (body : PolicyChanges)
  | delete (id : Nat)
  | reorder (ids : List Int)

/-- What a call leaves; one that is refused, by the validation or by the route, leaves everything. -/
def PolicyCall.run (dictionary : RadiusDictionary) (role : AdminRole) (call : PolicyCall)
    (db : Database) : Database :=
  let outcome : Option Outcome := match call with
    | .create body =>
        (body.validate dictionary).toOption.bind fun body => (createPolicy role body db).toOption
    | .update id body =>
        (body.validate dictionary).toOption.bind fun body => (updatePolicy role id body db).toOption
    | .delete id => (deletePolicy role id db).toOption
    | .reorder ids => (Naco.reorder role ids db).toOption
  (outcome.map (·.db)).getD db

end Naco
