import Naco.Lib.Rows
import Naco.Lib.Surrogates

/-!
# Python's `json.loads`

The decoder reads code points, so that a text may hold surrogates. Objects are dictionaries: of the
members of one name the last counts, in the place of the first. The fuel of the mutual readers is the
length of the text, and each of them takes a character before it calls another.
-/

namespace Py

/-- What `json.loads` gives. A float is kept as it is written. -/
inductive Value where
  | null
  | bool (value : Bool)
  | int (value : Int)
  | float (literal : CodePoints)
  | str (text : CodePoints)
  | arr (items : List Value)
  | obj (members : List (CodePoints × Value))

namespace JsonReader

/-- `members[key] = value`. -/
def setMember {α : Type} (members : List (CodePoints × α)) (key : CodePoints) (value : α) :
    List (CodePoints × α) :=
  if members.any fun member => member.1 = key then
    members.map fun member => if member.1 = key then (key, value) else member
  else
    members ++ [(key, value)]

/-- `members.get(key)`. -/
def getMember {α : Type} (members : List (CodePoints × α)) (key : CodePoints) : Option α :=
  (members.find? fun member => member.1 = key).map (·.2)

def decodeError {α : Type} (message : String) : Except Error α :=
  .error (.valueError message)

/-- The `WHITESPACE` of the decoder. -/
def isSpace (c : Nat) : Bool :=
  c = 0x20 || c = 0x09 || c = 0x0a || c = 0x0d

def skipSpace (text : CodePoints) : CodePoints :=
  text.dropWhile isSpace

/-- The characters of `BACKSLASH`, by what stands after the backslash. -/
def shortEscapes : List (Nat × Nat) :=
  [(0x22, 0x22), (0x5c, 0x5c), (0x2f, 0x2f), (0x62, 0x08), (0x66, 0x0c), (0x6e, 0x0a), (0x72, 0x0d),
    (0x74, 0x09)]

def hexDigit (c : Nat) : Option Nat :=
  if 0x30 ≤ c ∧ c ≤ 0x39 then some (c - 0x30)
  else if 0x61 ≤ c ∧ c ≤ 0x66 then some (c - 0x61 + 10)
  else if 0x41 ≤ c ∧ c ≤ 0x46 then some (c - 0x41 + 10)
  else none

/-- `_decode_uXXXX`. -/
def hexUnit (a b c d : Nat) : Option Nat := do
  let a ← hexDigit a
  let b ← hexDigit b
  let c ← hexDigit c
  let d ← hexDigit d
  return ((a * 16 + b) * 16 + c) * 16 + d

def prepend (c : Nat) (read : Except Error (CodePoints × CodePoints)) :
    Except Error (CodePoints × CodePoints) :=
  read.map fun result => (c :: result.1, result.2)

/-- `scanstring(s, end)` after the opening quote: the string, and what follows its closing quote. -/
def scanString : CodePoints → Except Error (CodePoints × CodePoints)
  | [] => decodeError "Unterminated string"
  | c :: rest =>
      if c = 0x22 then .ok ([], rest)
      else if c ≠ 0x5c then
        if c < 0x20 then decodeError "Invalid control character" else prepend c (scanString rest)
      else match rest with
        | [] => decodeError "Unterminated string"
        | escape :: rest =>
            if escape ≠ 0x75 then
              match shortEscapes.lookup escape with
              | some char => prepend char (scanString rest)
              | none => decodeError "Invalid \\escape"
            else match rest with
              | a :: b :: c :: d :: rest =>
                  match hexUnit a b c d with
                  | none => decodeError "Invalid \\uXXXX escape"
                  | some unit =>
                      if 0xd800 ≤ unit ∧ unit ≤ 0xdbff then
                        -- a surrogate pair is one character
                        match rest with
                        | rest@(0x5c :: 0x75 :: a :: b :: c :: d :: later) =>
                            match hexUnit a b c d with
                            | none => decodeError "Invalid \\uXXXX escape"
                            | some low =>
                                if 0xdc00 ≤ low ∧ low ≤ 0xdfff then
                                  prepend (0x10000 + (unit - 0xd800) * 1024 + (low - 0xdc00))
                                    (scanString later)
                                else prepend unit (scanString rest)
                        | rest => prepend unit (scanString rest)
                      else prepend unit (scanString rest)
              | _ => decodeError "Invalid \\uXXXX escape"
termination_by cs => cs.length
decreasing_by
  all_goals simp only [List.length_cons]
  any_goals omega
  -- the second half of a pair
  next h => rw [h]; simp only [List.length_cons]; omega

def isDigit (c : Nat) : Bool :=
  0x30 ≤ c && c ≤ 0x39

/-- `sys.get_int_max_str_digits()`. -/
def maxDigits : Nat :=
  4300

/-- `int(literal)` of a run of digits. -/
def intOfDigits (negative : Bool) (digits : CodePoints) : Except Error Value :=
  if maxDigits < digits.length then
    .error (.valueError "Exceeds the limit (4300 digits) for integer string conversion")
  else
    let value : Int := digits.foldl (fun value c => value * 10 + (c - 0x30)) 0
    .ok (.int (if negative then -value else value))

/-- The fraction and the exponent of a number, empty when it has none. -/
def scanFraction : CodePoints → CodePoints × CodePoints
  | 0x2e :: rest =>
      if (rest.takeWhile isDigit).isEmpty then ([], 0x2e :: rest)
      else (0x2e :: rest.takeWhile isDigit, rest.dropWhile isDigit)
  | rest => ([], rest)

def scanExponent : CodePoints → CodePoints × CodePoints
  | [] => ([], [])
  | e :: rest =>
      if e = 0x65 ∨ e = 0x45 then
        let sign := rest.takeWhile (fun c => c = 0x2b || c = 0x2d) |>.take 1
        let digits := (rest.drop sign.length).takeWhile isDigit
        if digits.isEmpty then ([], e :: rest)
        else (e :: sign ++ digits, (rest.drop sign.length).dropWhile isDigit)
      else ([], e :: rest)

/-- `match_number`. -/
def scanNumber (text : CodePoints) : Except Error (Value × CodePoints) :=
  let sign := (text.takeWhile (· = 0x2d)).take 1
  let rest := text.drop sign.length
  let digits := if rest.head? = some 0x30 then [0x30] else rest.takeWhile isDigit
  if digits.isEmpty then decodeError "Expecting value"
  else
    let (fraction, rest) := scanFraction (rest.drop digits.length)
    let (exponent, rest) := scanExponent rest
    if fraction.isEmpty && exponent.isEmpty then do
      let value ← intOfDigits (!sign.isEmpty) digits
      return (value, rest)
    else
      return (.float (sign ++ digits ++ fraction ++ exponent), rest)

/-- The constants, and what each of them is. -/
def constants : List (CodePoints × Value) := [
  (codePoints "null", .null),
  (codePoints "true", .bool true),
  (codePoints "false", .bool false),
  (codePoints "NaN", .float (codePoints "NaN")),
  (codePoints "Infinity", .float (codePoints "Infinity")),
  (codePoints "-Infinity", .float (codePoints "-Infinity"))]

/-- What `scan_once` does with a character that opens nothing. -/
def scanAtom (text : CodePoints) : Except Error (Value × CodePoints) :=
  match constants.find? fun constant => constant.1.isPrefixOf text with
  | some (name, value) => .ok (value, text.drop name.length)
  | none => scanNumber text

/-- A character that must come next, spaces aside. -/
def expect (c : Nat) (message : String) (text : CodePoints) : Except Error CodePoints :=
  match skipSpace text with
  | [] => decodeError message
  | d :: rest => if d = c then .ok rest else decodeError message

mutual

/-- `scan_once`. -/
def scanOnce : Nat → CodePoints → Except Error (Value × CodePoints)
  | 0, _ => decodeError "Expecting value"
  | _ + 1, [] => decodeError "Expecting value"
  | fuel + 1, c :: rest =>
      if c = 0x22 then do
        let (text, rest) ← scanString rest
        return (.str text, rest)
      else if c = 0x7b then
        if (skipSpace rest).head? = some 0x7d then .ok (.obj [], (skipSpace rest).tail)
        else scanMembers fuel (skipSpace rest) []
      else if c = 0x5b then
        if (skipSpace rest).head? = some 0x5d then .ok (.arr [], (skipSpace rest).tail)
        else scanItems fuel (skipSpace rest) []
      else scanAtom (c :: rest)

/-- The members of `JSONObject`, from a name on. -/
def scanMembers : Nat → CodePoints → List (CodePoints × Value) → Except Error (Value × CodePoints)
  | 0, _, _ => decodeError "Expecting value"
  | fuel + 1, text, members => do
      let rest ← expect 0x22 "Expecting property name enclosed in double quotes" text
      let (key, rest) ← scanString rest
      let rest ← expect 0x3a "Expecting ':' delimiter" rest
      let (value, rest) ← scanOnce fuel (skipSpace rest)
      let members := setMember members key value
      if (skipSpace rest).head? = some 0x7d then return (.obj members, (skipSpace rest).tail)
      else
        let rest ← expect 0x2c "Expecting ',' delimiter" rest
        scanMembers fuel (skipSpace rest) members

/-- The items of `JSONArray`. -/
def scanItems : Nat → CodePoints → List Value → Except Error (Value × CodePoints)
  | 0, _, _ => decodeError "Expecting value"
  | fuel + 1, text, items => do
      let (value, rest) ← scanOnce fuel text
      let items := items ++ [value]
      if (skipSpace rest).head? = some 0x5d then return (.arr items, (skipSpace rest).tail)
      else
        let rest ← expect 0x2c "Expecting ',' delimiter" rest
        scanItems fuel (skipSpace rest) items

end

/-- `json.loads(text)`. -/
def loads (text : CodePoints) : Except Error Value :=
  if text.head? = some 0xfeff then decodeError "Unexpected UTF-8 BOM (decode using utf-8-sig)"
  else do
    let (value, rest) ← scanOnce (text.length + 1) (skipSpace text)
    if skipSpace rest = [] then return value else decodeError "Extra data"

/-! ### What a string begins with -/

section

variable {rest : CodePoints}

theorem scanString_quote : scanString (0x22 :: rest) = .ok ([], rest) := by
  rw [scanString.eq_def]
  simp only [if_true]

theorem scanString_char {c : Nat} (hquote : c ≠ 0x22) (hbackslash : c ≠ 0x5c) (hprintable : 0x20 ≤ c) :
    scanString (c :: rest) = prepend c (scanString rest) := by
  rw [scanString.eq_def]
  simp only [if_neg hquote, if_pos hbackslash, if_neg (Nat.not_lt.mpr hprintable)]

theorem scanString_short {escape c : Nat} (hunicode : escape ≠ 0x75)
    (h : shortEscapes.lookup escape = some c) :
    scanString (0x5c :: escape :: rest) = prepend c (scanString rest) := by
  have hquote : ¬ 0x5c = 0x22 := by decide
  rw [scanString.eq_def]
  simp only [if_neg hquote, ne_eq, not_true, if_false, hunicode, not_false_eq_true, if_true, h]

/-- A unit that is no high surrogate stands for itself. -/
theorem scanString_unit {a b c d unit : Nat} (h : hexUnit a b c d = some unit) (hunit : unit < 0xd800) :
    scanString (0x5c :: 0x75 :: a :: b :: c :: d :: rest) = prepend unit (scanString rest) := by
  have hquote : ¬ 0x5c = 0x22 := by decide
  have hsingle : ¬ (0xd800 ≤ unit ∧ unit ≤ 0xdbff) := by omega
  rw [scanString.eq_def]
  simp only [if_neg hquote, ne_eq, not_true, if_false, h, if_neg hsingle]

end

/-! ### Dictionaries of members -/

section

variable {α β : Type} {members : List (CodePoints × α)} {key : CodePoints} {value : α}

theorem map_setMember (f : α → β) (members : List (CodePoints × α)) (key : CodePoints) (value : α) :
    (setMember members key value).map (fun member => (member.1, f member.2)) =
      setMember (members.map fun member => (member.1, f member.2)) key (f value) := by
  have hkeys : ((members.map fun member => (member.1, f member.2)).any fun member => member.1 = key) =
      members.any fun member => member.1 = key := by
    rw [List.any_map]
    rfl
  rw [setMember, setMember, hkeys]
  split
  · rw [List.map_map, List.map_map]
    refine List.map_congr_left fun member _ => ?_
    by_cases hkey : member.1 = key <;> simp [hkey]
  · rw [List.map_append]
    rfl

theorem keys_setMember : (setMember members key value).map Prod.fst =
    if key ∈ members.map Prod.fst then members.map Prod.fst else members.map Prod.fst ++ [key] := by
  have hany : (members.any fun member => member.1 = key) = true ↔ key ∈ members.map Prod.fst := by
    simp
  rw [setMember]
  by_cases hkey : key ∈ members.map Prod.fst
  · rw [if_pos (hany.mpr hkey), if_pos hkey, List.map_map]
    refine List.map_congr_left fun member _ => ?_
    by_cases hsame : member.1 = key <;> simp [hsame]
  · rw [if_neg (mt hany.mp hkey), if_neg hkey, List.map_append]
    rfl

theorem nodup_setMember (h : (members.map Prod.fst).Nodup) :
    ((setMember members key value).map Prod.fst).Nodup := by
  rw [keys_setMember]
  split
  · exact h
  · next hkey =>
      refine h.append (List.nodup_singleton _) fun other hmem hother => ?_
      exact hkey (List.mem_singleton.mp hother ▸ hmem)

theorem mem_setMember {other : CodePoints} {value' : α} :
    (other, value') ∈ setMember members key value ↔
      if other = key then value' = value else (other, value') ∈ members := by
  have hany : (members.any fun member => member.1 = key) = true ↔ ∃ member ∈ members, member.1 = key := by
    simp
  rw [setMember]
  split
  · next h =>
      obtain ⟨found, hfound, hkey⟩ := hany.mp h
      rw [List.mem_map]
      split
      · next hother =>
          subst hother
          constructor
          · rintro ⟨member, hmember, hsame⟩
            by_cases hmatch : member.1 = other
            · rw [if_pos hmatch] at hsame
              exact (Prod.mk.inj hsame).2.symm
            · rw [if_neg hmatch] at hsame
              exact absurd (congrArg Prod.fst hsame) hmatch
          · rintro rfl
            exact ⟨found, hfound, if_pos hkey⟩
      · next hother =>
          constructor
          · rintro ⟨member, hmember, hsame⟩
            by_cases hmatch : member.1 = key
            · rw [if_pos hmatch] at hsame
              exact absurd (congrArg Prod.fst hsame).symm hother
            · rw [if_neg hmatch] at hsame
              exact hsame ▸ hmember
          · exact fun hmember => ⟨_, hmember, if_neg hother⟩
  · next h =>
      have hfresh : (key, value') ∉ members := fun hmem => h (hany.mpr ⟨_, hmem, rfl⟩)
      rw [List.mem_append, List.mem_singleton, Prod.mk.injEq]
      split
      · next hother =>
          subst hother
          simp [hfresh]
      · next hother => simp [hother]

/-- With distinct keys, what a key has is its member. -/
theorem getMember_eq_some_iff (h : (members.map Prod.fst).Nodup) :
    getMember members key = some value ↔ (key, value) ∈ members := by
  rw [getMember, Option.map_eq_some_iff]
  constructor
  · rintro ⟨⟨found, _⟩, hfind, rfl⟩
    have hkey : found = key := by simpa using List.find?_some hfind
    exact hkey ▸ List.mem_of_find?_eq_some hfind
  · intro hmem
    exact ⟨(key, value), (Rows.find?_eq_some_iff h).mpr ⟨hmem, rfl⟩, rfl⟩

end

end JsonReader

end Py
