import Naco.Lib.Javascript
import Naco.Routes.Policies

/-!
# The policy editor of the web pages

The editor draws a stored policy into inputs, and saving reads the inputs again. An input holds the
string it was given, a time input only a time. What is not drawn from the policy and not read on save
(labels, suggestions, buttons) is left out.
-/

namespace Naco.PolicyEditor

open Py

/-- An entry of `TYPES`, without its labels. -/
structure ConditionType where
  ops : List String
  choices : Option (List String) := none

/-- `TYPES`. -/
def types : List (String × ConditionType) := [
  ("always", { ops := [] }),
  ("username", { ops := ["equals", "not_equals", "in", "matches"] }),
  ("group", { ops := ["in", "not_in"] }),
  ("auth_method", { ops := ["in"], choices := some ["EAP-TLS", "EAP-TTLS", "PEAP", "PAP", "MAB"] }),
  ("device_status", { ops := ["in"], choices := some ["approved", "pending", "guest"] }),
  ("device_type", { ops := ["in", "not_in"] }),
  ("mac", { ops := ["equals", "in", "matches"] }),
  ("vendor", { ops := ["in", "matches"] }),
  ("nas", { ops := ["in", "not_in"] }),
  ("ssid", { ops := ["in", "not_in", "matches"] }),
  ("time", { ops := ["between"] })]

/-- `DAYS`. -/
def days : List String :=
  ["mon", "tue", "wed", "thu", "fri", "sat", "sun"]

/-- `LIST_OPS`. -/
def listOps : List String :=
  ["in", "not_in"]

/-! ### Inputs -/

/-- The random part of an element's id, written in base 36. -/
abbrev Suffix := { s : String // '-' ∉ s.toList }

structure CheckBox where
  id : String
  checked : Bool

/-- The value of a `select` with one option for each name, of which that of `chosen` is marked: without
a mark, its first option. -/
def selectValue (options : List String) (chosen : Option Json) : String :=
  match chosen with
  | some (.str name) => if name ∈ options then name else options.headD ""
  | _ => options.headD ""

def isDigitBelow (c : Char) (bound : Nat) : Bool :=
  c.isDigit && c.toNat - 0x30 < bound

/-- `HH:MM`. -/
def isTimeString (s : String) : Bool :=
  match s.toList with
  | [h, k, ':', m, n] =>
      (isDigitBelow h 2 && isDigitBelow k 10 || h = '2' && isDigitBelow k 4) &&
        isDigitBelow m 6 && isDigitBelow n 10
  | _ => false

/-- What a time input holds after its value was set. -/
def timeInput (value : String) : String :=
  if isTimeString value then value else ""

/-- `value || fallback`, of a member that is a string if it is there. -/
def textOr (value : Option Json) (fallback : String) : String :=
  match value with
  | some (.str s) => if s = "" then fallback else s
  | _ => fallback

/-- The items of a member that is an array of strings if it is there. -/
def stringItems (value : Option Json) : List String :=
  match value with
  | some (.arr items) => items.filterMap fun
      | .str s => some s
      | _ => none
  | _ => []

/-! ### A condition -/

/-- `valueBox`, by what `getValue` reads from it. -/
inductive ValueBox where
  | always
  | time (start stop : String) (days : List CheckBox)
  | choices (boxes : List CheckBox)
  | text (value : String)

structure ConditionRow where
  type : String
  op : String
  value : ValueBox

def dayBox (random : String → Suffix) (checked : List String) (d : String) : CheckBox :=
  let suffix := (random d).val
  ⟨s!"d-{d}-{suffix}", d ∈ checked⟩

def choiceBox (random : String → Suffix) (chosen : List String) (ch : String) : CheckBox :=
  let suffix := (random ch).val
  ⟨s!"c-{ch}-{suffix}", ch ∈ chosen⟩

/-- `drawValue`. -/
def drawValue (random : String → Suffix) (type : String) (c : List (String × Json)) : ValueBox :=
  let value := Json.member c "value"
  if type = "always" then .always
  else if type = "time" then
    let checked := match Json.member c "days" with
      | some value => stringItems (some value)
      | none => days
    .time (timeInput (textOr (Json.member c "start") "08:00"))
      (timeInput (textOr (Json.member c "end") "18:00")) (days.map (dayBox random checked))
  else match (types.lookup type).bind (·.choices) with
    | some choices => .choices (choices.map (choiceBox random (stringItems value)))
    | none => match value with
        | some (.arr items) => .text (join ", " (stringItems (some (.arr items))))
        | value => .text (textOr value "")

/-- `conditionRow`, with `drawOps`. -/
def conditionRow (random : String → Suffix) (initial : List (String × Json)) : ConditionRow :=
  let type := selectValue (types.map (·.1)) (Json.member initial "type")
  let ops := ((types.lookup type).map (·.ops)).getD []
  ⟨type, selectValue ops (Json.member initial "op"), drawValue random type initial⟩

/-- `b.id.split("-")[1]`. -/
def dayOfId (id : String) : String :=
  (splitOn '-' id).getD 1 ""

/-- `b.id.split("-").slice(1, -1).join("-")`. -/
def choiceOfId (id : String) : String :=
  join "-" ((splitOn '-' id).drop 1).dropLast

/-- `raw.split(",").map((x) => x.trim()).filter(Boolean)`. -/
def listItems (raw : String) : List String :=
  ((splitOn ',' raw).map Js.trim).filter (· ≠ "")

def checkedIds (boxes : List CheckBox) : List String :=
  (boxes.filter (·.checked)).map (·.id)

/-- `getValue`. -/
def getValue (op : String) : ValueBox → List (String × Json)
  | .always => []
  | .time start stop boxes =>
      [("start", .str start), ("end", .str stop),
       ("days", .arr ((checkedIds boxes).map fun id => .str (dayOfId id)))]
  | .choices boxes => [("value", .arr ((checkedIds boxes).map fun id => .str (choiceOfId id)))]
  | .text raw =>
      [("value", if op ∈ listOps then .arr ((listItems raw).map .str) else .str (Js.trim raw))]

/-- `row.read`. -/
def ConditionRow.read (row : ConditionRow) : Json :=
  if row.type = "always" then .obj [("type", .str row.type)]
  else if row.type = "time" then
    .obj (("type", .str row.type) :: ("op", .str "between") :: getValue row.op row.value)
  else .obj (("type", .str row.type) :: ("op", .str row.op) :: getValue row.op row.value)

def objectMembers : Json → List (String × Json)
  | .obj members => members
  | _ => []

/-- What `conditionsField` reads after it drew `conditions`; every row has random numbers of its own. -/
def submitConditions (random : Nat → String → Suffix) (conditions : List Json) : List Json :=
  conditions.mapIdx fun i c => (conditionRow (random i) (objectMembers c)).read

/-! ### Attributes -/

/-- What every object inherits and the expression of attribute names lets through. -/
def inheritedNames : List String := [
  "constructor", "hasOwnProperty", "isPrototypeOf", "propertyIsEnumerable", "toLocaleString",
  "toString", "valueOf"]

/-- `String(one)`. -/
def shown : ReplyValue → String
  | .int value => toString value
  | .text value => value

/-- `[v].flat()`. -/
def entryValues : ReplyEntry → List ReplyValue
  | .one value => [value]
  | .many values => values

/-- The rows that `attributesField` draws. -/
def attributeRows (attributes : ReplyAttributes) : List (String × String) :=
  attributes.flatMap fun entry => (entryValues entry.2).map fun one => (entry.1, shown one)

/-- A number as it is sent: infinity becomes null. -/
def sentNumber : Option Nat → Json
  | some value => .int value
  | none => .null

/-- `/^\d+$/.test(v) ? Number(v) : v`. -/
def readValue (v : String) : Json :=
  match IpAddress.decimal v.toList with
  | some n => sentNumber (Js.double n)
  | none => .str v

/-- `[old].flat().concat(value)`. -/
def concatValue (old value : Json) : Json :=
  match old with
  | .arr items => .arr (items ++ [value])
  | old => .arr [old, value]

/-- The value of `k` after a row, if `old` is the one `out` has of its own. An inherited one is a function,
and a function is sent as null. -/
def nextValue (k : String) (old : Option Json) (value : Json) : Json :=
  match old with
  | some old => concatValue old value
  | none => if k ∈ inheritedNames then concatValue .null value else value

/-- `out[k] = k in out ? [out[k]].flat().concat(value) : value`, but for a row without a name. -/
def addRow (out : Dict String Json) (row : String × String) : Dict String Json :=
  let k := Js.trim row.1
  if k = "" then out else out.set k (nextValue k (out.get? k) (readValue row.2))

/-- What `attributesField` reads after it drew `attributes`. -/
def submitAttributes (attributes : ReplyAttributes) : Json :=
  .obj ((attributeRows attributes).foldl addRow Dict.empty).items

end Naco.PolicyEditor
