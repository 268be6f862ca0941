import Naco.Api

/-!
# Command sets

A command set that a group uses cannot be deleted. Its rules are stored in the order they are given.
-/

namespace Naco

open Py

/-- `RuleIO._printable`. -/
def printablePattern (v : String) : Except String String :=
  let v := join " " (words v)
  if v = "" ∨ v.toList.any (·.toNat < 0x20) then .error "patterns are printable text" else .ok v

/-- A rule as the validator leaves it. -/
structure RuleIO where
  action : CommandAction
  pattern : String
  printable : ∃ sent, printablePattern sent = .ok pattern

structure CommandSetIn where
  name : String
  description : String := ""
  defaultAction : CommandAction := .deny
  rules : List RuleIO := []

/-- `CommandSetUpdate`; a null stands for a field that is left out. -/
structure CommandSetUpdate where
  name : Option String := none
  description : Option String := none
  defaultAction : Option CommandAction := none
  rules : Option (List RuleIO) := none

/-- The rules as they are stored. -/
def ruleRows (rules : List RuleIO) : List (CommandAction × String) :=
  rules.map fun rule => (rule.action, rule.pattern)

def createCommandSet (role : AdminRole) (body : CommandSetIn) (db : Database) :
    Except RouteError Outcome := do
  require role .superuser
  let t := db.val
  let set : CommandSet :=
    { id := nextId (t.commandSets.map (·.id)), name := body.name, description := body.description,
      defaultAction := body.defaultAction, rules := ruleRows body.rules }
  commitOrConflict s!"command set {body.name} already exists"
    { t with commandSets := t.commandSets ++ [set] }

/-- The row of a command set after an update. -/
def CommandSetUpdate.apply (body : CommandSetUpdate) (set : CommandSet) : CommandSet :=
  { set with
    name := body.name.getD set.name
    description := body.description.getD set.description
    defaultAction := body.defaultAction.getD set.defaultAction
    rules := (body.rules.map ruleRows).getD set.rules }

def updateCommandSet (role : AdminRole) (id : Nat) (body : CommandSetUpdate) (db : Database) :
    Except RouteError Outcome := do
  require role .superuser
  let t := db.val
  let set ← getOr404 t.commandSets (·.id) id "command set"
  commitOrConflict "a command set with that name already exists"
    { t with commandSets := replaceRow t.commandSets (·.id) (body.apply set) }

/-- The refusal to delete a command set that groups use. -/
def checkUnused (t : Tables) (id : Nat) : Except RouteError Unit :=
  match (t.groups.filter (·.commandSetId = some id)).map (·.name) with
  | [] => .ok ()
  | used =>
      let shown := join ", " used
      apiError 409 s!"command set is used by groups: {shown}"

def deleteCommandSet (role : AdminRole) (id : Nat) (db : Database) : Except RouteError Outcome := do
  require role .superuser
  let t := db.val
  let set ← getOr404 t.commandSets (·.id) id "command set"
  checkUnused t set.id
  commitOrRaise { t with commandSets := deleteRow t.commandSets (·.id) set.id }

end Naco
