import Naco.Lib.Text
import Mathlib.Algebra.Group.Int.Defs
import Mathlib.Algebra.Group.Nat.Defs
import Mathlib.Data.List.Sort
import Mathlib.Data.Rat.Defs

/-!
# Python values and exceptions

The exceptions a modelled function can end with, and the JSON values that `json.loads` returns. A
JSON object is the list of its members in order; a name that is given twice counts once, with the
value given last.
-/

namespace Py

/-- The exceptions the modelled code can raise, with their messages. -/
inductive Error where
  | valueError (message : String)
  | typeError (message : String)
  | overflowError (message : String)
  | integrityError (message : String)
  | lookupError (message : String)
  | structError (message : String)
  | csvError (message : String)
  deriving DecidableEq, Repr

/-- A call returns: it ends without an exception. -/
def Returns {ε α : Type} (call : Except ε α) : Prop :=
  ∃ value, call = .ok value

instance {ε α : Type} (call : Except ε α) : Decidable (Returns call) :=
  match call with
  | .ok value => isTrue ⟨value, rfl⟩
  | .error _ => isFalse (by rintro ⟨_, h⟩; cases h)

instance decidableReturnsWith {ε α : Type} (call : Except ε α) (P : α → Prop) [DecidablePred P] :
    Decidable (∃ result, call = .ok result ∧ P result) :=
  match call with
  | .ok result => decidable_of_iff (P result) (by simp)
  | .error _ => isFalse (by rintro ⟨_, h, _⟩; cases h)

theorem bind_eq_ok_iff {ε α β : Type} {x : Except ε α} {f : α → Except ε β} {b : β} :
    (x >>= f) = .ok b ↔ ∃ a, x = .ok a ∧ f a = .ok b := by
  cases x <;> simp [bind, Except.bind]

/-- A list of calls returns when each of them does. -/
theorem mapM_eq_ok_iff {ε α β : Type} {f : α → Except ε β} {items : List α} {results : List β} :
    items.mapM f = .ok results ↔ List.Forall₂ (fun item result => f item = .ok result) items results := by
  induction items generalizing results with
  | nil => cases results <;> simp [pure, Except.pure]
  | cons item items ih =>
      rw [List.mapM_cons]
      cases hitem : f item with
      | error error => cases results <;> simp [bind, Except.bind, hitem]
      | ok value =>
          cases hitems : items.mapM f with
          | error error =>
              cases results with
              | nil => simp [bind, Except.bind]
              | cons result results =>
                  simp [bind, Except.bind, hitem, ← ih, hitems]
          | ok values =>
              cases results with
              | nil => simp [bind, Except.bind, pure, Except.pure]
              | cons result results =>
                  simp [bind, Except.bind, pure, Except.pure, hitem, ← ih, hitems]

theorem returns_mapM_iff {ε α β : Type} {f : α → Except ε β} {items : List α} :
    Returns (items.mapM f) ↔ ∀ item ∈ items, Returns (f item) := by
  induction items with
  | nil => simp [Returns, pure, Except.pure]
  | cons item items ih =>
      rw [List.mapM_cons, List.forall_mem_cons, ← ih]
      cases hitem : f item with
      | error error => simp [Returns, bind, Except.bind]
      | ok value =>
          cases items.mapM f <;> simp [Returns, bind, Except.bind, pure, Except.pure]

section Forall₂

variable {α β : Type} {R : α → β → Prop} {items : List α} {results : List β}

theorem forall₂_mem_right (h : List.Forall₂ R items results) {result : β} (hmem : result ∈ results) :
    ∃ item ∈ items, R item result := by
  induction h with
  | nil => cases hmem
  | cons hhead _ ih =>
      rcases List.mem_cons.mp hmem with rfl | hmem
      · exact ⟨_, List.mem_cons_self, hhead⟩
      · obtain ⟨item, hitem, hrel⟩ := ih hmem
        exact ⟨item, List.mem_cons_of_mem _ hitem, hrel⟩

theorem forall₂_mem_left (h : List.Forall₂ R items results) {item : α} (hmem : item ∈ items) :
    ∃ result ∈ results, R item result :=
  forall₂_mem_right h.flip hmem

/-- A split of the results is one of the items. -/
theorem forall₂_split {before after : List β} {result : β}
    (h : List.Forall₂ R items (before ++ result :: after)) :
    ∃ itemsBefore item itemsAfter, items = itemsBefore ++ item :: itemsAfter ∧
      List.Forall₂ R itemsBefore before ∧ R item result ∧ List.Forall₂ R itemsAfter after := by
  induction before generalizing items with
  | nil =>
      obtain ⟨item, itemsAfter, hrel, hafter, rfl⟩ := List.forall₂_cons_right_iff.mp h
      exact ⟨[], item, itemsAfter, rfl, .nil, hrel, hafter⟩
  | cons first before ih =>
      obtain ⟨head, rest, hhead, hrest, rfl⟩ := List.forall₂_cons_right_iff.mp h
      obtain ⟨itemsBefore, item, itemsAfter, rfl, hbefore, hrel⟩ := ih hrest
      exact ⟨head :: itemsBefore, item, itemsAfter, rfl, .cons hhead hbefore, hrel⟩

theorem forall₂_split_right {before after : List β} {result : β}
    (h : List.Forall₂ R items (before ++ result :: after)) :
    ∃ itemsBefore item itemsAfter, items = itemsBefore ++ item :: itemsAfter ∧
      List.Forall₂ R itemsBefore before ∧ R item result := by
  obtain ⟨itemsBefore, item, itemsAfter, hsplit, hbefore, hrel, -⟩ := forall₂_split h
  exact ⟨itemsBefore, item, itemsAfter, hsplit, hbefore, hrel⟩

theorem forall₂_split_left {before after : List α} {item : α}
    (h : List.Forall₂ R (before ++ item :: after) results) :
    ∃ resultsBefore result resultsAfter, results = resultsBefore ++ result :: resultsAfter ∧
      List.Forall₂ R before resultsBefore ∧ R item result := by
  obtain ⟨resultsBefore, result, resultsAfter, hsplit, hbefore, hrel⟩ := forall₂_split_right h.flip
  exact ⟨resultsBefore, result, resultsAfter, hsplit, hbefore.flip, hrel⟩

end Forall₂

/-! ### `int` -/

/-- White space to `int`, which reads ASCII with C's `isspace`. -/
def isIntSpace (c : Char) : Bool :=
  if c.toNat < 127 then c ∈ [' ', '\t', '\n', '\x0b', '\x0c', '\r'] else isSpace c

/-- The value of a decimal digit of any script. -/
def decimalValue (c : Char) : Option Nat :=
  if '0' ≤ c ∧ c ≤ '9' then some (c.toNat - '0'.toNat)
  else Unicode.decimalZeros.findSome? fun first =>
    if first ≤ c.toNat ∧ c.toNat < first + 10 then some (c.toNat - first) else none

/-- `sys.get_int_max_str_digits()`. -/
def maxStrDigits : Nat := 4300

/-- Digits with single underscores between them. -/
def digitsValue (cs : List Char) : Option Nat :=
  let groups := splitAux '_' [] cs
  if groups.any (·.isEmpty) ∨ maxStrDigits < groups.flatten.length then none
  else (groups.flatten.mapM decimalValue).map fun digits =>
    digits.foldl (fun value digit => value * 10 + digit) 0

/-- `int(s)`, where it does not raise `ValueError`. -/
def intOfString (s : String) : Option Int :=
  let cs := ((s.toList.dropWhile isIntSpace).reverse.dropWhile isIntSpace).reverse
  match cs with
  | '+' :: digits => (digitsValue digits).map Int.ofNat
  | '-' :: digits => (digitsValue digits).map fun value => -(value : Int)
  | digits => (digitsValue digits).map Int.ofNat

/-- The values of `json.loads`. A float is the rational it denotes. -/
inductive Json where
  | null
  | bool (value : Bool)
  | int (value : Int)
  | float (value : Rat)
  | str (value : String)
  | arr (items : List Json)
  | obj (members : List (String × Json))

namespace Json

/-- `value.get(name)` on an object: the member given last. -/
def member (members : List (String × Json)) (name : String) : Option Json :=
  (members.reverse.find? (·.1 = name)).map (·.2)

/-- The members of an object as a Python dictionary keeps them: one for each name, where it was
first given, with the value given last. -/
def entries (members : List (String × Json)) : List (String × Json) :=
  (members.map (·.1)).eraseDups.filterMap fun name => (member members name).map (name, ·)

/-- The value is falsy. -/
def isFalsy : Json → Bool
  | .null => true
  | .bool value => !value
  | .int value => value = 0
  | .float value => value = 0
  | .str value => value = ""
  | .arr items => items.isEmpty
  | .obj members => members.isEmpty

end Json

/-! ### `json.dumps` -/

/-- The four lower-case hex digits of a 16-bit unit. -/
def hex4 (unit : Nat) : List Char :=
  [unit / 4096 % 16, unit / 256 % 16, unit / 16 % 16, unit % 16].map
    fun digit => "0123456789abcdef".toList.getD digit '0'

def escapeUnit (unit : Nat) : List Char :=
  '\\' :: 'u' :: hex4 unit

/-- One character inside a JSON string, with everything but printable ASCII escaped. -/
def dumpChar (c : Char) : List Char :=
  if c = '"' ∨ c = '\\' then ['\\', c]
  else if ' ' ≤ c ∧ c ≤ '~' then [c]
  else if c = '\n' then ['\\', 'n']
  else if c = '\r' then ['\\', 'r']
  else if c = '\t' then ['\\', 't']
  else if c = '\x0c' then ['\\', 'f']
  else if c = '\x08' then ['\\', 'b']
  else if c.toNat < 0x10000 then escapeUnit c.toNat
  else
    -- a surrogate pair
    escapeUnit (0xd800 + (c.toNat - 0x10000) / 1024) ++
      escapeUnit (0xdc00 + (c.toNat - 0x10000) % 1024)

/-- `json.dumps(s)`. -/
def dumpString (s : String) : String :=
  String.ofList ('"' :: s.toList.flatMap dumpChar ++ ['"'])

/-- A JSON array of values already written out, without spaces. -/
def dumpArray (items : List String) : String :=
  "[" ++ join "," items ++ "]"

/-- A JSON object of values already written out, in the order of the names (`sort_keys=True`) and
without spaces. -/
def dumpObject (members : List (String × String)) : String :=
  let sorted := members.insertionSort fun a b => a.1 ≤ b.1
  "\x7b" ++ join "," (sorted.map fun entry => dumpString entry.1 ++ ":" ++ entry.2) ++ "\x7d"

end Py
