import Naco.Lib.Python
import Mathlib.Tactic.Common

/-!
# Python's `csv` reader

The reader of the default dialect: commas, double quotes, doubled inside quotes. It goes through a
file line by line and character by character, and at the end of each line once more without a
character. A record that is quoted across lines goes on, and one that the file ends in is closed
there.
-/

namespace Py.Csv

/-- `csv.field_size_limit()`. -/
def fieldLimit : Nat :=
  131072

inductive State where
  | startRecord
  | startField
  | inField
  | inQuotedField
  | quoteInQuotedField
  | eatCrnl
  deriving DecidableEq, Repr

structure Reader where
  state : State := .startRecord
  field : List Char := []
  fields : List String := []
  deriving DecidableEq, Repr

namespace Reader

/-- `parse_save_field`. -/
def saveField (r : Reader) (next : State) : Reader :=
  { state := next, field := [], fields := r.fields ++ [String.ofList r.field] }

/-- `parse_add_char`. -/
def addChar (r : Reader) (c : Char) (next : State) : Except Error Reader :=
  if fieldLimit ≤ r.field.length then .error (.csvError "field larger than field limit (131072)")
  else .ok { r with state := next, field := r.field ++ [c] }

/-- A field ends with its line, or at a line break before that. -/
def endRecord (r : Reader) (c : Option Char) : Reader :=
  r.saveField (if c = none then .startRecord else .eatCrnl)

/-- `START_FIELD` of `parse_process_char`. -/
def startField (r : Reader) (c : Option Char) : Except Error Reader :=
  match c with
  | none | some '\n' | some '\r' => .ok (r.endRecord c)
  | some '"' => .ok { r with state := .inQuotedField }
  | some ',' => .ok (r.saveField .startField)
  | some c => r.addChar c .inField

/-- `parse_process_char`; no character stands for the end of a line. -/
def step (r : Reader) (c : Option Char) : Except Error Reader :=
  match r.state with
  | .startRecord =>
      match c with
      | none => .ok r
      | some '\n' | some '\r' => .ok { r with state := .eatCrnl }
      | some _ => r.startField c
  | .startField => r.startField c
  | .inField =>
      match c with
      | none | some '\n' | some '\r' => .ok (r.endRecord c)
      | some ',' => .ok (r.saveField .startField)
      | some c => r.addChar c .inField
  | .inQuotedField =>
      match c with
      | none => .ok r
      | some '"' => .ok { r with state := .quoteInQuotedField }
      | some c => r.addChar c .inQuotedField
  | .quoteInQuotedField =>
      match c with
      | some '"' => r.addChar '"' .inQuotedField
      | some ',' => .ok (r.saveField .startField)
      | none | some '\n' | some '\r' => .ok (r.endRecord c)
      | some c => r.addChar c .inField
  | .eatCrnl =>
      match c with
      | some '\n' | some '\r' => .ok r
      | none => .ok { r with state := .startRecord }
      | some _ => .error (.csvError "new-line character seen in unquoted field")

/-- A line with its end. -/
def readLine (r : Reader) (line : List Char) : Except Error Reader := do
  let r ← line.foldlM (fun r c => r.step (some c)) r
  r.step none

/-- What is read when the file ends. -/
def finish (r : Reader) : Option (List String) :=
  if r.field ≠ [] ∨ r.state = .inQuotedField then some (r.saveField .startRecord).fields else none

/-- `next(reader)` after the lines so far: a record, or none at the end, and the lines after it. -/
def next (r : Reader) : List (List Char) → Except Error (Option (List String) × List (List Char))
  | [] => .ok (r.finish, [])
  | line :: lines => do
      let r ← r.readLine line
      if r.state = .startRecord then return (some r.fields, lines) else r.next lines

/-- The records that the reader goes on to read. -/
def records (r : Reader) : List (List Char) → Except Error (List (List String))
  | [] => .ok r.finish.toList
  | line :: lines => do
      let r ← r.readLine line
      if r.state = .startRecord then
        let later ← records {} lines
        return r.fields :: later
      else r.records lines

end Reader

/-- The lines of `io.StringIO(text)`, each with its line feed. -/
def lines : List Char → List (List Char)
  | [] => []
  | c :: cs =>
      if c = '\n' then [c] :: lines cs
      else match lines cs with
        | [] => [[c]]
        | line :: later => (c :: line) :: later

end Py.Csv
