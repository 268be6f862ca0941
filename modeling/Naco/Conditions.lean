import Naco.Lib.Fnmatch
import Naco.Context
import Naco.Netutils

/-!
# Policy conditions

A closed set of typed predicates over an `AuthContext`. A condition carries what its validator
checked: texts are trimmed and 1 to 128 characters long, lists are not empty, MAC addresses are in
normal form, and the ends of a time window passed `_hhmm`. `parseConditions` reads the stored JSON the
way the pydantic models do, fields in the order of their declaration; of all errors it keeps the
first, as the source does.

Evaluation is fallible. A time condition parses its ends again and compares them with the local time,
and both steps can raise.
-/

namespace Naco

open Py

def maxConditions : Nat := 20
def maxItems : Nat := 500
def maxText : Nat := 128

/-- `_fold`. -/
def fold (value : Option String) : String :=
  casefold (value.getD "")

/-- `_glob`. -/
def glob (pattern : String) (value : Option String) : Bool :=
  value.isSome && Fnmatch.fnmatchcase (fold value) (fold (some pattern))

/-! ### Validated values -/

/-- What `_text` returns. -/
def IsText (s : String) : Prop :=
  strip s = s ∧ s ≠ "" ∧ s.toList.length ≤ maxText

instance (s : String) : Decidable (IsText s) :=
  inferInstanceAs (Decidable (_ ∧ _))

abbrev Text := { s : String // IsText s }

/-- What `_text_list` returns. -/
abbrev TextList := { items : List Text // items ≠ [] ∧ items.length ≤ maxItems }

/-- A MAC address in the form `normalizeMac` writes. -/
abbrev Mac := { s : String // ∃ raw, normalizeMac (some raw) = some s }

inductive Day where
  | mon
  | tue
  | wed
  | thu
  | fri
  | sat
  | sun
  deriving DecidableEq, Repr

namespace Day

/-- `DAYS`. -/
def all : List Day :=
  [.mon, .tue, .wed, .thu, .fri, .sat, .sun]

def name : Day → String
  | .mon => "mon"
  | .tue => "tue"
  | .wed => "wed"
  | .thu => "thu"
  | .fri => "fri"
  | .sat => "sat"
  | .sun => "sun"

/-- `DAYS[local.weekday()]`. -/
def ofWall (wall : Int) : Day :=
  all.getD (weekday wall) .mon

end Day

/-- `_hhmm` accepts the text. -/
def isHhmm (v : String) : Bool :=
  match Time.fromisoformat v with
  | .ok parsed => parsed.second = 0 && parsed.microsecond = 0 && v.toList.length = 5
  | .error _ => false

abbrev Hhmm := { v : String // isHhmm v = true }

/-! ### Conditions -/

inductive TextOp where
  | equals
  | notEquals
  | isIn
  | notIn
  | matching
  deriving DecidableEq, Repr

def TextOp.name : TextOp → String
  | .equals => "equals"
  | .notEquals => "not_equals"
  | .isIn => "in"
  | .notIn => "not_in"
  | .matching => "matches"

/-- An operator of `_TextCondition` with the value its shape asks for. -/
inductive TextTest where
  | equals (value : Text)
  | notEquals (value : Text)
  | isIn (values : TextList)
  | notIn (values : TextList)
  | matching (value : Text)

namespace TextTest

def op : TextTest → TextOp
  | .equals _ => .equals
  | .notEquals _ => .notEquals
  | .isIn _ => .isIn
  | .notIn _ => .notIn
  | .matching _ => .matching

/-- `_TextCondition._test`. -/
def test : TextTest → Option String → Bool
  | .equals v, actual => actual.isSome && fold actual = fold (some v.val)
  | .notEquals v, actual => fold actual ≠ fold (some v.val)
  | .isIn vs, actual => actual.isSome && fold actual ∈ vs.val.map fun v => fold (some v.val)
  | .notIn vs, actual => fold actual ∉ vs.val.map fun v => fold (some v.val)
  | .matching v, actual => glob v.val actual

/-- The value as `label` shows it. -/
def shown : TextTest → String
  | .equals v | .notEquals v | .matching v => v.val
  | .isIn vs | .notIn vs => join ", " (vs.val.map (·.val))

end TextTest

/-- One class derived from `_TextCondition`: its tag, its operators and the text it looks at. -/
structure TextCondition where
  type : String
  ops : List TextOp
  actual : AuthContext → Option String

def usernameCond : TextCondition where
  type := "username"
  ops := [.equals, .notEquals, .isIn, .matching]
  actual ctx := orNone ctx.username

def groupCond : TextCondition where
  type := "group"
  ops := [.isIn, .notIn]
  actual ctx := ctx.group

def deviceTypeCond : TextCondition where
  type := "device_type"
  ops := [.isIn, .notIn]
  actual ctx := orNone ctx.deviceType

def vendorCond : TextCondition where
  type := "vendor"
  ops := [.isIn, .matching]
  actual ctx := orNone ctx.vendor

def nasCond : TextCondition where
  type := "nas"
  ops := [.isIn, .notIn]
  actual ctx := orNone ctx.nasName

def ssidCond : TextCondition where
  type := "ssid"
  ops := [.isIn, .notIn, .matching]
  actual ctx := ctx.ssid

inductive TextField where
  | username
  | group
  | deviceType
  | vendor
  | nas
  | ssid
  deriving DecidableEq, Repr

def TextField.cond : TextField → TextCondition
  | .username => usernameCond
  | .group => groupCond
  | .deviceType => deviceTypeCond
  | .vendor => vendorCond
  | .nas => nasCond
  | .ssid => ssidCond

/-- `MacCond`, by its operator. -/
inductive MacTest where
  | equals (value : Mac)
  | isIn (values : List Mac)
  | matching (pattern : String)

def MacTest.test (test : MacTest) (mac : Option String) : Bool :=
  match mac with
  | none => false
  | some mac =>
      match test with
      | .equals value => mac = value.val
      | .isIn values => mac ∈ values.map (·.val)
      | .matching pattern => Fnmatch.fnmatchcase mac pattern

def MacTest.label : MacTest → String
  | .equals value => s!"mac equals {value.val}"
  | .isIn values => "mac in " ++ join ", " (values.map (·.val))
  | .matching pattern => s!"mac matches {pattern}"

structure TimeCond where
  start : Hhmm
  stop : Hhmm
  days : List Day
  days_ne_nil : days ≠ []

namespace TimeCond

/-- The window, on a day it applies to. -/
def inWindow (start stop now : Time) : Except Error Bool := do
  if ← start.le stop then
    if ← start.le now then now.le stop else return false
  else
    -- overnight window
    if ← start.le now then return true else now.le stop

def test (cond : TimeCond) (ctx : AuthContext) (tz : Zone) : Except Error Bool := do
  let wall ← ctx.now.astimezone tz
  if Day.ofWall wall ∉ cond.days then
    return false
  let now := Time.naive (minuteOfDay wall / 60) (minuteOfDay wall % 60)
  let start ← Time.fromisoformat cond.start.val
  let stop ← Time.fromisoformat cond.stop.val
  inWindow start stop now

def label (cond : TimeCond) : String :=
  s!"time {cond.start.val}-{cond.stop.val}" ++
    if cond.days.length = 7 then "" else " on " ++ join ", " (cond.days.map Day.name)

end TimeCond

/-- The union of the eleven condition models. -/
inductive Condition where
  | always
  | text (field : TextField) (test : TextTest) (allowed : test.op ∈ field.cond.ops)
  | authMethod (value : List AuthMethod) (value_ne_nil : value ≠ [])
  | deviceStatus (value : List DeviceState) (value_ne_nil : value ≠ [])
  | mac (test : MacTest)
  | time (cond : TimeCond)

/-- `condition_matches`. -/
def conditionMatches (cond : Condition) (ctx : AuthContext) (tz : Zone) : Except Error Bool :=
  match cond with
  | .always => .ok true
  | .text field test _ => .ok (test.test (field.cond.actual ctx))
  | .authMethod value _ => .ok (ctx.authMethod ∈ value)
  | .deviceStatus value _ => .ok (value.any fun state => ctx.deviceStatus = some state)
  | .mac test => .ok (test.test ctx.mac)
  | .time cond => cond.test ctx tz

/-- `label`. -/
def Condition.label : Condition → String
  | .always => "always"
  | .text field test _ => s!"{field.cond.type} {test.op.name} {test.shown}"
  | .authMethod value _ => "auth_method in " ++ join ", " (value.map AuthMethod.name)
  | .deviceStatus value _ => "device_status in " ++ join ", " (value.map DeviceState.name)
  | .mac test => test.label
  | .time cond => cond.label

/-! ### Validation -/

/-- One step of an error's location. -/
inductive Segment where
  | index (i : Nat)
  | name (s : String)
  deriving DecidableEq, Repr

/-- The error types of pydantic that can come first, and the errors the validators raise. -/
inductive Problem where
  | missing
  | stringType
  | listType
  | literalError (expected : List String)
  | tooShort
  | extraForbidden
  | modelAttributesType
  | unionTagNotFound
  | unionTagInvalid (tag : Json)
  | valueError (message : String)
  | invalidMac (item : String)

structure ValidationError where
  loc : List Segment
  problem : Problem

/-- The result of one validation. -/
abbrev Validated := Except ValidationError

def refuse {α : Type} (problem : Problem) : Validated α :=
  .error ⟨[], problem⟩

/-- Puts an error under one more step of its location. -/
def under {α : Type} (segment : Segment) (result : Validated α) : Validated α :=
  result.mapError fun error => { error with loc := segment :: error.loc }

section Fields

variable {α : Type} (members : List (String × Json)) (name : String)

/-- A field without a default. -/
def requiredField (validate : Json → Validated α) : Validated α :=
  match Json.member members name with
  | none => under (.name name) (refuse .missing)
  | some value => under (.name name) (validate value)

/-- A field with a default, which is not validated. -/
def defaultField (value : α) (validate : Json → Validated α) : Validated α :=
  match Json.member members name with
  | none => .ok value
  | some value => under (.name name) (validate value)

end Fields

/-- `extra="forbid"`. -/
def forbidExtra (members : List (String × Json)) (fields : List String) : Validated Unit :=
  match (Json.entries members).find? (·.1 ∉ fields) with
  | none => .ok ()
  | some extra => under (.name extra.1) (refuse .extraForbidden)

def validateStr : Json → Validated String
  | .str s => .ok s
  | _ => refuse .stringType

/-- A `Literal` of the names of `options`. -/
def validateLiteral {α : Type} (options : List α) (nameOf : α → String) (value : Json) :
    Validated { a // a ∈ options } :=
  let found := match value with
    | .str s => options.attach.find? fun a => nameOf a.val = s
    | _ => none
  match found with
  | some a => .ok a
  | none => refuse (.literalError (options.map nameOf))

def validateItems {α : Type} (validate : Json → Validated α) :
    Nat → List Json → Validated (List α)
  | _, [] => .ok []
  | i, item :: items => do
      let head ← under (.index i) (validate item)
      let tail ← validateItems validate (i + 1) items
      return head :: tail

/-- A list with `min_length=1`. -/
def validateNonempty {α : Type} (validate : Json → Validated α) :
    Json → Validated { items : List α // items ≠ [] }
  | .arr items => do
      let values ← validateItems validate 0 items
      if h : values ≠ [] then return ⟨values, h⟩ else refuse .tooShort
  | _ => refuse .listType

/-- A value of type `str | list[str]`. -/
inductive Operand where
  | str (s : String)
  | list (items : List String)
  deriving DecidableEq, Repr

def validateOperand (value : Json) : Validated Operand :=
  let refused : Validated Operand := under (.name "str") (refuse .stringType)
  match value with
  | .str s => .ok (.str s)
  | .arr items =>
      match items.mapM fun item => (validateStr item).toOption with
      | some items => .ok (.list items)
      | none => refused
  | _ => refused

/-- `_text` on a string. -/
def textOfString (s what : String) : Validated Text :=
  if hne : strip s = "" then
    refuse (.valueError s!"{what} must be a non-empty string")
  else if hlen : (strip s).toList.length ≤ maxText then
    .ok ⟨strip s, strip_strip s, hne, hlen⟩
  else
    refuse (.valueError s!"{what} must be at most {maxText} characters")

/-- `_text`. -/
def text (value : Operand) (what : String) : Validated Text :=
  match value with
  | .str s => textOfString s what
  | .list _ => refuse (.valueError s!"{what} must be a non-empty string")

/-- `[_text(v, what) for v in items]`. -/
def textItems (what : String) :
    (items : List String) → Validated { texts : List Text // texts.length = items.length }
  | [] => .ok ⟨[], rfl⟩
  | item :: items => do
      let head ← textOfString item what
      let tail ← textItems what items
      return ⟨head :: tail.val, congrArg (· + 1) tail.property⟩

/-- `_text_list`. -/
def textList (value : Operand) (what : String) : Validated TextList :=
  match value with
  | .str _ => refuse (.valueError s!"{what} must be a non-empty list")
  | .list items =>
      if hne : items = [] then
        refuse (.valueError s!"{what} must be a non-empty list")
      else if hlen : items.length ≤ maxItems then do
        let texts ← textItems what items
        return ⟨texts.val, by
          rw [ne_eq, ← List.length_eq_zero_iff, texts.property, List.length_eq_zero_iff]
          exact ⟨hne, hlen⟩⟩
      else
        refuse (.valueError s!"{what} may hold at most {maxItems} entries")

/-- `_TextCondition._shape`. -/
def TextTest.shape (op : TextOp) (value : Operand) (what : String) :
    Validated { test : TextTest // test.op = op } :=
  match op with
  | .equals => (text value what).map fun v => ⟨.equals v, rfl⟩
  | .notEquals => (text value what).map fun v => ⟨.notEquals v, rfl⟩
  | .isIn => (textList value what).map fun vs => ⟨.isIn vs, rfl⟩
  | .notIn => (textList value what).map fun vs => ⟨.notIn vs, rfl⟩
  | .matching => (text value what).map fun v => ⟨.matching v, rfl⟩

def validateText (field : TextField) (members : List (String × Json)) : Validated Condition := do
  let op ← requiredField members "op" (validateLiteral field.cond.ops TextOp.name)
  let value ← requiredField members "value" validateOperand
  forbidExtra members ["op", "value", "type"]
  let test ← TextTest.shape op.val value (field.cond.type ++ ".value")
  return .text field test.val (by rw [test.property]; exact op.property)

def validateAlways (members : List (String × Json)) : Validated Condition := do
  forbidExtra members ["type"]
  return .always

/-- The field `op: Literal[name] = name`. -/
def validateOnlyOp (members : List (String × Json)) (name : String) : Validated Unit :=
  defaultField members "op" () fun value =>
    (validateLiteral [()] (fun _ => name) value).map fun _ => ()

def validateAuthMethod (members : List (String × Json)) : Validated Condition := do
  validateOnlyOp members "in"
  let value ← requiredField members "value" (validateNonempty fun item =>
    (validateLiteral AuthMethod.all AuthMethod.name item).map (·.val))
  forbidExtra members ["type", "op", "value"]
  return .authMethod value.val value.property

def validateDeviceStatus (members : List (String × Json)) : Validated Condition := do
  validateOnlyOp members "in"
  let value ← requiredField members "value" (validateNonempty fun item =>
    (validateLiteral DeviceState.all DeviceState.name item).map (·.val))
  forbidExtra members ["type", "op", "value"]
  return .deviceStatus value.val value.property

inductive MacOp where
  | equals
  | isIn
  | matching
  deriving DecidableEq, Repr

def MacOp.name : MacOp → String
  | .equals => "equals"
  | .isIn => "in"
  | .matching => "matches"

def macOfText (item : Text) : Validated Mac :=
  match h : normalizeMac (some item.val) with
  | some mac => .ok ⟨mac, item.val, h⟩
  | none => refuse (.invalidMac item.val)

/-- `MacCond._shape`. -/
def MacTest.shape (op : MacOp) (value : Operand) : Validated MacTest :=
  match op with
  | .matching => do
      let pattern := lower (← text value "mac pattern").val
      if pattern.toList.any (· ∉ "0123456789abcdef:*?-".toList) then
        refuse (.valueError "mac pattern may contain hex digits, ':', '-', '*' and '?' only")
      else
        return .matching (String.ofList (pattern.toList.map fun c => if c = '-' then ':' else c))
  | .isIn => do
      let items ← textList value "mac.value"
      return .isIn (← items.val.mapM macOfText)
  | .equals => do
      let item ← text value "mac.value"
      return .equals (← macOfText item)

def validateMac (members : List (String × Json)) : Validated Condition := do
  let op ← requiredField members "op" (validateLiteral [.equals, .isIn, .matching] MacOp.name)
  let value ← requiredField members "value" validateOperand
  forbidExtra members ["type", "op", "value"]
  return .mac (← MacTest.shape op.val value)

def validateHhmm (value : Json) : Validated Hhmm := do
  let v ← validateStr value
  if h : isHhmm v = true then return ⟨v, h⟩ else refuse (.valueError "times must be HH:MM")

def validateTime (members : List (String × Json)) : Validated Condition := do
  validateOnlyOp members "between"
  let start ← requiredField members "start" validateHhmm
  let stop ← requiredField members "end" validateHhmm
  let days ← defaultField members "days" ⟨Day.all, by decide⟩ (validateNonempty fun item =>
    (validateLiteral Day.all Day.name item).map (·.val))
  forbidExtra members ["type", "op", "start", "end", "days"]
  return .time ⟨start, stop, days.val, days.property⟩

/-- The models of `Condition`, by the tag that selects them. -/
def conditionModels : List (String × (List (String × Json) → Validated Condition)) := [
  ("always", validateAlways),
  ("username", validateText .username),
  ("group", validateText .group),
  ("auth_method", validateAuthMethod),
  ("device_status", validateDeviceStatus),
  ("device_type", validateText .deviceType),
  ("mac", validateMac),
  ("vendor", validateText .vendor),
  ("nas", validateText .nas),
  ("ssid", validateText .ssid),
  ("time", validateTime)]

def validateCondition : Json → Validated Condition
  | .obj members =>
      match Json.member members "type" with
      | none => refuse .unionTagNotFound
      | some (.str tag) =>
          match conditionModels.lookup tag with
          | some validate => under (.name tag) (validate members)
          | none => refuse (.unionTagInvalid (.str tag))
      | some tag => refuse (.unionTagInvalid tag)
  | _ => refuse .modelAttributesType

/-- The errors of `parse_conditions`: "conditions must be a list", "a policy may have at most 20
conditions", or the first validation error with its location. -/
inductive ConditionsError where
  | notAList
  | tooMany
  | invalid (error : ValidationError)

/-- `parse_conditions`. -/
def parseConditions (raw : Json) : Except ConditionsError (List Condition) :=
  match raw with
  | .null => .ok []
  | .arr items =>
      if maxConditions < items.length then .error .tooMany
      else (validateItems validateCondition 0 items).mapError .invalid
  | _ => .error .notAList

end Naco
