import Naco.Lib.Decimal
import Naco.Lib.Dict
import Naco.Lib.Python
import Mathlib.Data.List.Lex
import Mathlib.Data.List.Sort
import Mathlib.Data.String.Basic

/-!
# Metrics

The samples of counters and gauges. A value is a float that holds a whole number: a counter is incremented
by one from zero, and a gauge is set to an integer.
-/

namespace Naco

open Py

/-- `value.replace(old, new)`, for an `old` of one character. -/
def replaceChar (old : Char) (new : String) (value : String) : String :=
  String.ofList (value.toList.flatMap fun c => if c = old then new.toList else [c])

/-- `_escape`. -/
def escapeLabel (value : String) : String :=
  replaceChar '\n' "\\n" (replaceChar '"' "\\\"" (replaceChar '\\' "\\\\" value))

/-- `_labels`. A key has as many values as the metric has names. -/
def labelText (names values : List String) (extra : String := "") : String :=
  let parts := (names.zip values).map fun item => item.1 ++ "=\"" ++ escapeLabel item.2 ++ "\""
  let parts := if extra = "" then parts else parts ++ [extra]
  if parts = [] then "" else "\x7b" ++ join "," parts ++ "\x7d"

/-- `Counter` and `Gauge`, by their values. -/
structure Metric where
  name : String
  help : String
  labelnames : List String
  values : Dict (List String) ℤ := Dict.empty

/-- The text of a tuple of names. -/
def tupleText (names : List String) : String :=
  match names with
  | [] => "()"
  | [name] => "('" ++ name ++ "',)"
  | names => "(" ++ join ", " (names.map fun name => "'" ++ name ++ "'") ++ ")"

namespace Metric

/-- `_key`. -/
def key (metric : Metric) (labels : Dict String String) : Except Error (List String) :=
  let given := labels.items.map (·.1)
  if given.all (· ∈ metric.labelnames) && metric.labelnames.all (· ∈ given) then
    .ok (metric.labelnames.map fun name => (labels.get? name).getD "")
  else
    .error (.valueError (metric.name ++ ": expected labels " ++ tupleText metric.labelnames ++ ", got " ++
      tupleText given))

/-- A whole float and one more: from `2 ** 53` on, the sum is rounded to what it was. -/
def oneMore (value : ℤ) : ℤ :=
  if value < 2 ^ 53 then value + 1 else value

/-- `Counter.inc`, by one. -/
def inc (metric : Metric) (labels : Dict String String) : Except Error Metric := do
  let key ← metric.key labels
  .ok { metric with values := metric.values.set key (oneMore ((metric.values.get? key).getD 0)) }

/-- `Gauge.set`. -/
def set (metric : Metric) (value : ℤ) (labels : Dict String String) : Except Error Metric := do
  let key ← metric.key labels
  .ok { metric with values := metric.values.set key value }

/-- The line of a sample. -/
def sample (metric : Metric) (key : List String) (text : String) : String :=
  metric.name ++ labelText metric.labelnames key ++ " " ++ text

/-- `render`, of `Counter` and of `Gauge`. -/
def render (metric : Metric) : List String :=
  (metric.values.items.insertionSort fun a b => a.1 ≤ b.1).map fun item =>
    metric.sample item.1 (formatG item.2)

end Metric

end Naco
